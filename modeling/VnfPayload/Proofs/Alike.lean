import VnfPayload.Proofs.WellFormed

/-!
# Nodes that differ only in the order of keys

Two nodes are alike if the same routes lead to nodes in both, and to nodes of the same
kind, and to the same value where they are scalars.  Being an equality of what is seen along
each route, this is an equivalence, and it does not see the order of keys.

Main statements:

* `alike_iff` takes one step: alike nodes have the same outline and alike children;
* `alike_put` says that slots may be filled with alike nodes;
* `eqv_of_alike` says that alike nodes are equal as JSON values.
-/

namespace VnfPayload

namespace Json

variable {α β : Type} {R : α → β → Prop}

theorem exists_of_rel_some {x : α} {o : Option β} (h : Option.Rel R (some x) o) :
    ∃ y, o = some y ∧ R x y := by
  cases h with
  | some hxy =>
      exact ⟨_, rfl, hxy⟩

theorem eq_none_iff_of_rel {o : Option α} {p : Option β} (h : Option.Rel R o p) :
    o = none ↔ p = none := by
  cases h <;> simp

theorem rel_map_iff {γ δ : Type} {f : γ → α} {g : δ → β} {o : Option γ} {p : Option δ} :
    Option.Rel R (o.map f) (p.map g) ↔ Option.Rel (fun x y => R (f x) (g y)) o p := by
  constructor
  · intro h
    cases o with
    | none =>
        cases p with
        | none =>
            exact .none
        | some y =>
            cases h
    | some x =>
        cases p with
        | none =>
            cases h
        | some y =>
            cases h with
            | some hxy =>
                exact .some hxy
  · intro h
    cases h with
    | none =>
        exact .none
    | some hxy =>
        exact .some hxy

/-- A key is in both of two mappings or in none if the look-ups are related. -/
theorem mem_keys_iff_of_rel {es : Entries α} {fs : Entries β} {key : String}
    (h : Option.Rel R (Entries.get? es key) (Entries.get? fs key)) :
    key ∈ Entries.keys es ↔ key ∈ Entries.keys fs := by
  have hnone := eq_none_iff_of_rel h
  rw [Entries.get?_eq_none_iff, Entries.get?_eq_none_iff] at hnone
  exact Decidable.not_iff_not.mp hnone

/-- A container without what lies in it, and a scalar as it is. -/
def outline : Json → Json
  | .obj _ => .obj []
  | .arr _ => .arr []
  | node => node

/-- The same is seen along every route. -/
def Alike (a b : Json) : Prop :=
  ∀ route, (at? route a).map outline = (at? route b).map outline

theorem Alike.refl (a : Json) : Alike a a :=
  fun _ => rfl

theorem Alike.symm {a b : Json} (h : Alike a b) : Alike b a :=
  fun route => (h route).symm

theorem Alike.trans {a b c : Json} (hab : Alike a b) (hbc : Alike b c) : Alike a c :=
  fun route => (hab route).trans (hbc route)

/-- Alike nodes have the same outline, and alike nodes stand where one step leads. -/
theorem alike_iff (a b : Json) :
    Alike a b ↔
      outline a = outline b ∧ ∀ s, Option.Rel Alike (child? s a) (child? s b) := by
  constructor
  · intro h
    refine ⟨by simpa [at?] using h [], fun s => ?_⟩
    cases ha : child? s a with
    | none =>
        cases hb : child? s b with
        | none =>
            exact .none
        | some y =>
            simpa [at?, ha, hb] using h [s]
    | some x =>
        cases hb : child? s b with
        | none =>
            simpa [at?, ha, hb] using h [s]
        | some y =>
            refine .some fun route => ?_
            simpa [at?, ha, hb] using h (s :: route)
  · rintro ⟨houtline, hchild⟩ route
    cases route with
    | nil =>
        simp [at?, houtline]
    | cons s rest =>
        have hs := hchild s
        cases ha : child? s a with
        | none =>
            rw [ha] at hs
            simp [at?, ha, (eq_none_iff_of_rel hs).mp rfl]
        | some x =>
            rw [ha] at hs
            obtain ⟨y, hb, hxy⟩ := exists_of_rel_some hs
            simpa [at?, ha, hb] using hxy rest

/-- The outline of a node tells its kind. -/
theorem kind_eq_of_outline_eq {a b : Json} (h : outline a = outline b) :
    a.kind = b.kind := by
  cases a <;> cases b <;> simp_all [outline, kind]

theorem Alike.kind_eq {a b : Json} (h : Alike a b) : a.kind = b.kind :=
  kind_eq_of_outline_eq ((alike_iff a b).mp h).1

theorem Alike.admits {a b : Json} (h : Alike a b) {s : Segment} (ha : Admits s a) :
    Admits s b := by
  rw [Admits, ← h.kind_eq]
  exact ha

theorem Alike.child? {a b : Json} (h : Alike a b) (s : Segment) :
    Option.Rel Alike (child? s a) (child? s b) :=
  ((alike_iff a b).mp h).2 s

theorem Alike.getD {a b : Option Json} (h : Option.Rel Alike a b) :
    Alike (a.getD .null) (b.getD .null) := by
  cases h with
  | none =>
      exact Alike.refl .null
  | some hxy =>
      exact hxy

theorem Alike.slot? {a b : Json} (h : Alike a b) (s : Segment) :
    Option.Rel Alike (slot? s a) (slot? s b) := by
  by_cases ha : Admits s a
  · rw [slot?_of_admits ha, slot?_of_admits (h.admits ha)]
    exact .some (Alike.getD (h.child? s))
  · have hb : ¬ Admits s b := fun hb => ha (h.symm.admits hb)
    rw [slot?_of_not_admits ha, slot?_of_not_admits hb]
    exact .none

/-- The outline of a filled container is that of its kind. -/
theorem outline_put (s : Segment) (node x : Json) :
    outline (put s node x) = s.container.empty := by
  cases s <;> cases node <;> rfl

/-- Filling a slot of alike nodes with alike nodes. -/
theorem alike_put {a b x y : Json} {s : Segment} (hab : Alike a b) (hxy : Alike x y)
    (ha : Admits s a) :
    Alike (put s a x) (put s b y) := by
  refine (alike_iff _ _).mpr ⟨by rw [outline_put, outline_put], fun t => ?_⟩
  rw [child?_put ha, child?_put (hab.admits ha)]
  split
  · exact .some hxy
  · split
    · exact .some (Alike.getD (hab.child? t))
    · exact hab.child? t

/-! ## Equality of values -/

theorem number_eqv_self (n : Number) : n.eqv n = true := by
  cases n <;> simp [Number.eqv, Binary64.eqv]

/-- Mappings with the same keys have the same number of members. -/
theorem length_eq_of_alike {es fs : List (String × Json)}
    (hes : (Entries.keys es).Nodup) (hfs : (Entries.keys fs).Nodup)
    (h : Alike (.obj es) (.obj fs)) :
    es.length = fs.length := by
  refine Entries.length_eq_of_mem_keys_iff hes hfs fun k => ?_
  exact mem_keys_iff_of_rel (h.child? (.key k))

mutual

/-- Alike values are equal without regard to the order of members. -/
theorem eqv_of_alike : ∀ {a b : Json}, WellFormed a → WellFormed b → Alike a b →
    eqv a b = true
  | .null, b, _, _, h => by
      have houtline := ((alike_iff _ _).mp h).1
      cases b <;> simp_all [outline, eqv]
  | .bool x, b, _, _, h => by
      have houtline := ((alike_iff _ _).mp h).1
      cases b <;> simp_all [outline, eqv]
  | .num n, b, _, _, h => by
      have houtline := ((alike_iff _ _).mp h).1
      cases b <;> simp_all [outline, eqv, number_eqv_self]
  | .str s, b, _, _, h => by
      have houtline := ((alike_iff _ _).mp h).1
      cases b <;> simp_all [outline, eqv]
  | .arr xs, b, ha, hb, h => by
      have houtline := ((alike_iff _ _).mp h).1
      cases b with
      | arr ys =>
          exact eqvItems_of_alike ha hb fun i => h.child? (.index i)
      | _ =>
          simp [outline] at houtline
  | .obj es, b, ha, hb, h => by
      have houtline := ((alike_iff _ _).mp h).1
      cases b with
      | obj fs =>
          have hlength := length_eq_of_alike ha.1 hb.1 h
          have hmembers : membersIn es fs = true := by
            refine membersIn_of_alike ha.2 ((wellFormed_obj_iff fs).mp hb).2 fun k x hmem => ?_
            have hrel : Option.Rel Alike (Entries.get? es k) (Entries.get? fs k) :=
              h.child? (.key k)
            rw [Entries.get?_of_mem ha.1 hmem] at hrel
            exact exists_of_rel_some hrel
          simp [eqv, hlength, hmembers]
      | _ =>
          simp [outline] at houtline

theorem eqvItems_of_alike : ∀ {xs ys : List Json}, WellFormedItems xs → WellFormedItems ys →
    (∀ i : Nat, Option.Rel Alike xs[i]? ys[i]?) → eqvItems xs ys = true
  | [], [], _, _, _ => rfl
  | [], y :: ys, _, _, h => by
      cases h 0
  | x :: xs, [], _, _, h => by
      cases h 0
  | x :: xs, y :: ys, hx, hy, h => by
      have hhead : Alike x y := by
        cases h 0 with
        | some hxy =>
            exact hxy
      have htail := eqvItems_of_alike hx.2 hy.2 fun i => h (i + 1)
      simp [eqvItems, eqv_of_alike hx.1 hy.1 hhead, htail]

theorem membersIn_of_alike : ∀ {es fs : List (String × Json)}, WellFormedMembers es →
    (∀ e ∈ fs, WellFormed e.2) →
    (∀ k x, (k, x) ∈ es → ∃ y, Entries.get? fs k = some y ∧ Alike x y) →
    membersIn es fs = true
  | [], fs, _, _, _ => rfl
  | (k, x) :: es, fs, hes, hfs, h => by
      obtain ⟨y, hget, hxy⟩ := h k x List.mem_cons_self
      have hhead := eqv_of_alike hes.1 (hfs _ (Entries.mem_of_get? hget)) hxy
      have htail := membersIn_of_alike hes.2 hfs fun key z hmem =>
        h key z (List.mem_cons_of_mem _ hmem)
      simp [membersIn, hget, hhead, htail]

end

end Json

end VnfPayload
