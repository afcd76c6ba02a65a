import VnfPayload.Proofs.Alike

/-!
# The order of properties does not matter

Two assignments at different routes can change places: both orders fail, or both succeed
with nodes that are alike.  The exception is a null at a route on the way to the other one,
for a null may be turned into a container afterwards but no container into a null.

`Json.assign?_comm` is proved by recursion on the two routes.  Where they part, either the
steps ask for containers of different kinds, and whichever assignment comes second fails, or
they lead to different slots of one container.  Where one of them ends first, a scalar and a
container are wanted at one place, and again the second assignment fails.

From there `Document.placeAll?_perm` goes on to lists of properties, by induction on the
permutation.
-/

namespace VnfPayload

namespace Json

theorem rel_map {x y : Option Json} {f g : Json → Json}
    (hfg : ∀ a b, Alike a b → Alike (f a) (g b)) (h : Option.Rel Alike x y) :
    Option.Rel Alike (x.map f) (y.map g) := by
  cases h with
  | none =>
      exact .none
  | some hab =>
      exact .some (hfg _ _ hab)

theorem rel_bind {x y : Option Json} {f g : Json → Option Json}
    (hfg : ∀ a b, Alike a b → Option.Rel Alike (f a) (g b)) (h : Option.Rel Alike x y) :
    Option.Rel Alike (x.bind f) (y.bind g) := by
  cases h with
  | none =>
      exact .none
  | some hab =>
      exact hfg _ _ hab

theorem rel_trans {x y z : Option Json} (hxy : Option.Rel Alike x y)
    (hyz : Option.Rel Alike y z) :
    Option.Rel Alike x z := by
  cases hxy with
  | none =>
      exact hyz
  | some hab =>
      cases hyz with
      | some hbc =>
          exact .some (hab.trans hbc)

theorem rel_refl (x : Option Json) :
    Option.Rel Alike x x := by
  cases x with
  | none =>
      exact .none
  | some a =>
      exact .some (Alike.refl a)

/-- Assignments to alike nodes. -/
theorem alike_assign? (value : PropertyValue) (route : List Segment) {a b : Json}
    (hab : Alike a b) :
    Option.Rel Alike (assign? value route a) (assign? value route b) := by
  induction route generalizing a b with
  | nil =>
      have houtline := ((alike_iff a b).mp hab).1
      cases a <;> cases b <;> simp_all [outline, assign?, Alike.refl]
  | cons s rest ih =>
      cases hx : slot? s a with
      | none =>
          have hy := (eq_none_iff_of_rel (hab.slot? s)).mp hx
          simp [assign?, hx, hy]
      | some x =>
          have hrel := hab.slot? s
          rw [hx] at hrel
          obtain ⟨y, hy, hxy⟩ := exists_of_rel_some hrel
          simp only [assign?, hx, hy, Option.bind_some]
          exact rel_map (fun _ _ h => alike_put hab h (admits_of_slot? hx)) (ih hxy)

/-! ## Two assignments -/

/-- A scalar has no slots. -/
theorem slot?_toJson {value : PropertyValue} (h : value ≠ .null) (s : Segment) :
    slot? s value.toJson = none := by
  apply slot?_of_not_admits
  cases value <;> cases s <;>
    simp_all [Admits, PropertyValue.toJson, kind, Segment.container, ContainerKind.node]

/-- A container is never replaced by a value. -/
theorem assign?_nil_put (value : PropertyValue) (s : Segment) (node x : Json) :
    assign? value [] (put s node x) = none := by
  cases s <;> cases node <;> rfl

/-- What an assignment has passed through is a container, and no value can take its place. -/
theorem assign?_cons_bind_nil (v w : PropertyValue) (t : Segment) (q : List Segment)
    (node : Json) :
    (assign? w (t :: q) node).bind (assign? v []) = none := by
  cases hnode : assign? w (t :: q) node with
  | none =>
      rfl
  | some after =>
      obtain ⟨x, hx, hmap⟩ := Option.bind_eq_some_iff.mp hnode
      obtain ⟨y, hy, rfl⟩ := Option.map_eq_some_iff.mp hmap
      exact assign?_nil_put v t node y

/-- A scalar is wanted where a container is wanted too: the one that comes second fails. -/
theorem assign?_prefix {v w : PropertyValue} (hv : v ≠ .null) (t : Segment)
    (q : List Segment) (node : Json) :
    (assign? v [] node).bind (assign? w (t :: q)) = none ∧
      (assign? w (t :: q) node).bind (assign? v []) = none := by
  refine ⟨?_, assign?_cons_bind_nil v w t q node⟩
  cases hnode : assign? v [] node with
  | none =>
      rfl
  | some after =>
      have hafter : after = v.toJson := by
        cases node <;> simp_all [assign?]
      simp [assign?, hafter, slot?_toJson hv]

/-- Two assignments through the same slot are made inside it. -/
theorem assign?_same_slot (v w : PropertyValue) (s : Segment) (p q : List Segment)
    (node : Json) :
    (assign? v (s :: p) node).bind (assign? w (s :: q)) =
      (slot? s node).bind fun x =>
        ((assign? v p x).bind (assign? w q)).map (put s node) := by
  cases hx : slot? s node with
  | none =>
      simp [assign?, hx]
  | some x =>
      cases hy : assign? v p x with
      | none =>
          simp [assign?, hx, hy]
      | some y =>
          have hadmits := admits_of_slot? hx
          have hput : put s (put s node y) = put s node := funext (put_put s node y)
          simp [assign?, hx, hy, slot?_put_self hadmits, hput]

/-- Two assignments through different slots of one container are made beside each other. -/
theorem assign?_other_slot (v w : PropertyValue) {s t : Segment} (p q : List Segment)
    (node : Json) (hkind : t.container = s.container) (hne : t ≠ s) :
    (assign? v (s :: p) node).bind (assign? w (t :: q)) =
      ((slot? s node).bind (assign? v p)).bind fun x =>
        ((slot? t node).bind (assign? w q)).map (put t (put s node x)) := by
  cases hx : slot? s node with
  | none =>
      simp [assign?, hx]
  | some x =>
      cases hx' : assign? v p x with
      | none =>
          simp [assign?, hx, hx']
      | some x' =>
          have hadmits := admits_of_slot? hx
          have hfirst : assign? v (s :: p) node = some (put s node x') := by
            simp [assign?, hx, hx']
          have hslot := slot?_put_of_ne hadmits hkind hne x'
          rw [hfirst, Option.bind_some, Option.bind_some, hx', Option.bind_some, assign?, hslot]
          exact (Option.map_bind ..).symm

/-- Steps of different kinds want different containers at one place. -/
theorem assign?_other_kind (v w : PropertyValue) {s t : Segment} (p q : List Segment)
    (node : Json) (hkind : t.container ≠ s.container) :
    (assign? v (s :: p) node).bind (assign? w (t :: q)) = none := by
  cases hnode : assign? v (s :: p) node with
  | none =>
      rfl
  | some after =>
      obtain ⟨x, hx, hmap⟩ := Option.bind_eq_some_iff.mp hnode
      obtain ⟨y, hy, rfl⟩ := Option.map_eq_some_iff.mp hmap
      simp [assign?, slot?_put_of_container_ne hkind]

/-- The order in which two slots are filled shows only in the order of keys. -/
theorem alike_put_put {s t : Segment} {node : Json} (hs : Admits s node)
    (hkind : t.container = s.container) (hne : t ≠ s) (x y : Json) :
    Alike (put t (put s node x) y) (put s (put t node y) x) := by
  have ht : Admits t node := by
    rw [Admits, hkind]
    exact hs
  have hst : Admits t (put s node x) := by
    right
    rw [kind_put, hkind]
  have hts : Admits s (put t node y) := by
    right
    rw [kind_put, hkind]
  refine (alike_iff _ _).mpr ⟨by rw [outline_put, outline_put, hkind], fun r => ?_⟩
  have hchild : child? r (put t (put s node x) y) = child? r (put s (put t node y) x) := by
    rw [child?_put hst, child?_put hs, child?_put hts, child?_put ht]
    by_cases hrt : r = t
    · subst hrt
      simp [hne]
    · by_cases hrs : r = s
      · subst hrs
        simp [hrt]
      · simp only [hrt, hrs, if_false]
        split <;> split <;> rfl
  rw [hchild]
  exact rel_refl _

/-- **Two assignments can change places**, up to the order of keys. -/
theorem assign?_comm {v w : PropertyValue} {p q : List Segment} (hne : p ≠ q)
    (hv : v = .null → ¬ p <+: q) (hw : w = .null → ¬ q <+: p) (node : Json) :
    Option.Rel Alike ((assign? v p node).bind (assign? w q))
      ((assign? w q node).bind (assign? v p)) := by
  induction p generalizing q node with
  | nil =>
      cases q with
      | nil =>
          exact absurd rfl hne
      | cons t q =>
          have hnull : v ≠ .null := fun h => hv h (List.nil_prefix)
          obtain ⟨hleft, hright⟩ := assign?_prefix (w := w) hnull t q node
          rw [hleft, hright]
          exact .none
  | cons s p ih =>
      cases q with
      | nil =>
          have hnull : w ≠ .null := fun h => hw h (List.nil_prefix)
          obtain ⟨hleft, hright⟩ := assign?_prefix (w := v) hnull s p node
          rw [hleft, hright]
          exact .none
      | cons t q =>
          by_cases hkind : t.container = s.container
          · by_cases hst : t = s
            · subst hst
              rw [assign?_same_slot, assign?_same_slot]
              cases hx : slot? t node with
              | none =>
                  exact .none
              | some x =>
                  have hinner := ih (q := q) (fun h => hne (by rw [h]))
                    (fun h hpre => hv h (by simpa using hpre))
                    (fun h hpre => hw h (by simpa using hpre)) x
                  exact rel_map
                    (fun _ _ h => alike_put (Alike.refl node) h (admits_of_slot? hx)) hinner
            · rw [assign?_other_slot v w p q node hkind hst,
                assign?_other_slot w v q p node hkind.symm (Ne.symm hst)]
              cases hx : (slot? s node).bind (assign? v p) with
              | none =>
                  cases (slot? t node).bind (assign? w q) <;> exact .none
              | some x =>
                  cases (slot? t node).bind (assign? w q) with
                  | none =>
                      exact .none
                  | some y =>
                      obtain ⟨z, hz, -⟩ := Option.bind_eq_some_iff.mp hx
                      exact .some (alike_put_put (admits_of_slot? hz) hkind hst x y)
          · rw [assign?_other_kind v w p q node hkind,
              assign?_other_kind w v q p node (Ne.symm hkind)]
            exact .none

end Json

namespace Document

open Json (Alike)

/-- Two properties do not get in each other's way because of a common route: their routes
differ, and none of them is a null on the way to the other one. -/
def Independent (a b : String × PropertyValue) : Prop :=
  ∀ p q, Path.parse a.1 = .ok p → Path.parse b.1 = .ok q →
    p ≠ q ∧ (a.2 = .null → ¬ p <+: q) ∧ (b.2 = .null → ¬ q <+: p)

theorem Independent.symm {a b : String × PropertyValue} (h : Independent a b) :
    Independent b a :=
  fun p q hp hq => ⟨(h q p hq hp).1.symm, (h q p hq hp).2.2, (h q p hq hp).2.1⟩

/-- Placing a property in alike documents. -/
theorem alike_place? (item : String × PropertyValue) {a b : Json} (hab : Alike a b) :
    Option.Rel Alike (place? a item) (place? b item) := by
  unfold place?
  split
  · exact Json.alike_assign? item.2 _ hab
  · exact .none

theorem alike_placeAll? (items : List (String × PropertyValue)) {a b : Json}
    (hab : Alike a b) :
    Option.Rel Alike (placeAll? a items) (placeAll? b items) := by
  induction items generalizing a b with
  | nil =>
      exact .some hab
  | cons item items ih =>
      exact Json.rel_bind (fun _ _ => ih) (alike_place? item hab)

/-- Two independent properties can change places. -/
theorem place?_comm {a b : String × PropertyValue} (h : Independent a b) (root : Json) :
    Option.Rel Alike ((place? root a).bind fun root => place? root b)
      ((place? root b).bind fun root => place? root a) := by
  unfold place?
  cases hp : Path.parse a.1 with
  | error fault =>
      cases Path.parse b.1 <;> simp
  | ok p =>
      cases hq : Path.parse b.1 with
      | error fault =>
          simp
      | ok q =>
          obtain ⟨hne, hv, hw⟩ := h p q hp hq
          exact Json.assign?_comm hne hv hw root

/-- Independent properties may be placed in any order. -/
theorem placeAll?_perm {items items' : List (String × PropertyValue)}
    (hperm : items.Perm items') (h : items.Pairwise Independent) {a b : Json}
    (hab : Alike a b) :
    Option.Rel Alike (placeAll? a items) (placeAll? b items') := by
  induction hperm generalizing a b with
  | nil =>
      exact .some hab
  | cons item hperm ih =>
      exact Json.rel_bind (fun _ _ => ih h.of_cons) (alike_place? item hab)
  | swap x y items =>
      have hyx : Independent y x := (List.pairwise_cons.mp h).1 x List.mem_cons_self
      have hpair := Json.rel_trans (place?_comm hyx a)
        (Json.rel_bind (fun _ _ => alike_place? y) (alike_place? x hab))
      simp only [placeAll?_cons, ← Option.bind_assoc]
      exact Json.rel_bind (fun _ _ => alike_placeAll? items) hpair
  | trans hperm hperm' ih ih' =>
      have h' := hperm.pairwise h Independent.symm
      exact Json.rel_trans (ih h (Alike.refl a)) (ih' h' hab)

/-- **The order of a list of properties does not matter** if no two have the same steps and no
null is assigned on the way to another one: all orders fail, or all give equal documents. -/
theorem materializeAll_perm {doc : Document} (hdoc : (Json.obj doc).WellFormed)
    {items items' : List (String × PropertyValue)}
    (hdistinct : items.Pairwise fun a b =>
      ∀ p, Path.parse a.1 = .ok p → Path.parse b.1 ≠ .ok p)
    (hnull : ∀ a ∈ items, ∀ b ∈ items, a.2 = .null →
      ∀ p q, Path.parse a.1 = .ok p → Path.parse b.1 = .ok q → p <+: q → p = q)
    (hperm : items.Perm items') :
    ((doc.materializeAll items).2 = .ok () ↔ (doc.materializeAll items').2 = .ok ())
      ∧
    ((doc.materializeAll items).2 = .ok () →
      Json.eqv (.obj (doc.materializeAll items).1) (.obj (doc.materializeAll items').1) =
        true) := by
  have hindependent : items.Pairwise Independent := by
    refine hdistinct.imp_of_mem fun {a b} ha hb hab p q hp hq => ?_
    have hne : p ≠ q := fun heq => hab p hp (heq ▸ hq)
    exact ⟨hne, fun hv hpre => hne (hnull a ha b hb hv p q hp hq hpre),
      fun hw hpre => hne (hnull b hb a ha hw q p hq hp hpre).symm⟩
  have hrel := placeAll?_perm hperm hindependent (Alike.refl (.obj doc))
  cases hafter : placeAll? (.obj doc) items with
  | none =>
      have hafter' := (Json.eq_none_iff_of_rel hrel).mp hafter
      simp [materializeAll_snd_eq_ok_iff, hafter, hafter']
  | some node =>
      obtain ⟨after, rfl⟩ := placeAll?_obj hafter
      rw [hafter] at hrel
      obtain ⟨node', hafter', halike⟩ := Json.exists_of_rel_some hrel
      obtain ⟨after', rfl⟩ := placeAll?_obj hafter'
      have hrun := (materializeAll_eq_ok_iff items doc after).mpr hafter
      have hrun' := (materializeAll_eq_ok_iff items' doc after').mpr hafter'
      have heqv := Json.eqv_of_alike (wellFormed_placeAll? hdoc hafter)
        (wellFormed_placeAll? hdoc hafter') halike
      simp [hrun, hrun', heqv]

/-- A null that becomes a sequence, grows and is filled up with nulls, and two new keys. -/
theorem materializeAll_perm_grown_sequence :
    (materializeAll [("z", .null)]
        [("z.2", .bool true), ("z.0.k", .null), ("b", .null), ("a", .null)]).2 = .ok () ∧
      (materializeAll [("z", .null)]
        [("a", .null), ("b", .null), ("z.0.k", .null), ("z.2", .bool true)]).2 = .ok () ∧
      Json.eqv
        (.obj (materializeAll [("z", .null)]
          [("z.2", .bool true), ("z.0.k", .null), ("b", .null), ("a", .null)]).1)
        (.obj (materializeAll [("z", .null)]
          [("a", .null), ("b", .null), ("z.0.k", .null), ("z.2", .bool true)]).1) =
        true := by
  have hpos : Path.parse "z.2" = .ok [.key "z", .index 2] := rfl
  have hkey : Path.parse "z.0.k" = .ok [.key "z", .index 0, .key "k"] := rfl
  have hb : Path.parse "b" = .ok [.key "b"] := rfl
  have ha : Path.parse "a" = .ok [.key "a"] := rfl
  have hperm := @materializeAll_perm [("z", .null)]
    (by simp [Json.WellFormed, Json.WellFormedMembers])
    [("z.2", .bool true), ("z.0.k", .null), ("b", .null), ("a", .null)]
    [("a", .null), ("b", .null), ("z.0.k", .null), ("z.2", .bool true)]
    (by simp [hpos, hkey, hb, ha])
    (by simp [hpos, hkey, hb, ha])
    (List.reverse_perm _).symm
  exact ⟨rfl, hperm.1.mp rfl, hperm.2 rfl⟩

end Document

end VnfPayload
