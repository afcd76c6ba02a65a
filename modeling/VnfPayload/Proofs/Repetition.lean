import VnfPayload.Proofs.Conflicts
import Mathlib.Data.List.Induction

/-!
# Folding in properties once more

What has been folded in can be folded in again without any effect, as long as no null is
assigned on the way to another property.  The second run takes other branches than the first
one, for every node that it needs is there, and where a route is assigned several times it
passes through other documents.

Two laws of assignments carry the proof:

* `Json.assign?_assign?`: of two assignments to one route the first has no effect;
* `Json.assign?_comm_of_at?`: an assignment to a leaf that is there can change places with any
  other one, and here the order of keys counts.

At the end of the first run there is a leaf for each property (`Document.written_of_placeAll?`).
So the last property of the list may be folded in before all others as well, and it is the last
one that the first run has folded in.  From there the induction is on the list, from its end.
-/

namespace VnfPayload

namespace Json

variable {v w : PropertyValue} {node x : Json}

/-- Of two assignments to one route only the second one counts. -/
theorem assign?_assign? (v w : PropertyValue) (route : List Segment) (node : Json) :
    (assign? v route node).bind (assign? w route) = assign? w route node := by
  induction route generalizing node with
  | nil =>
      cases node <;> cases v <;> rfl
  | cons s rest ih =>
      rw [assign?_same_slot]
      cases hx : slot? s node with
      | none =>
          simp [assign?, hx]
      | some x =>
          simp [assign?, hx, ih]

/-- An assignment to a leaf that is there can change places with any other one. -/
theorem assign?_comm_of_at? {p q : List Segment} (hx : at? p node = some x)
    (hne : p ≠ q) (hv : v = .null → ¬ p <+: q) :
    (assign? w q node).bind (assign? v p) = (assign? v p node).bind (assign? w q) := by
  induction p generalizing q node with
  | nil =>
      cases q with
      | nil =>
          exact absurd rfl hne
      | cons t q =>
          have hnull : v ≠ .null := fun h => hv h (List.nil_prefix)
          obtain ⟨hleft, hright⟩ := assign?_prefix (w := w) hnull t q node
          rw [hleft, hright]
  | cons s p ih =>
      obtain ⟨y, hy, hrest⟩ := Option.bind_eq_some_iff.mp hx
      have hslot : slot? s node = some y := slot?_of_child? hy
      cases q with
      | nil =>
          have hnode : assign? w [] node = none :=
            (assign?_nil_eq_none_iff w node).mpr (isContainer_of_child? hy)
          rw [hnode, assign?_cons_bind_nil]
          rfl
      | cons t q =>
          by_cases hkind : t.container = s.container
          · by_cases hts : t = s
            · subst hts
              have hinner := ih (q := q) hrest (fun h => hne (by rw [h]))
                (fun h hpre => hv h (by simpa using hpre))
              rw [assign?_same_slot, assign?_same_slot, hslot, Option.bind_some,
                Option.bind_some, hinner]
            · rw [assign?_other_slot v w p q node hkind hts,
                assign?_other_slot w v q p node hkind.symm (Ne.symm hts), hslot,
                Option.bind_some]
              cases (slot? t node).bind (assign? w q) with
              | none =>
                  cases assign? v p y <;> rfl
              | some z =>
                  cases assign? v p y with
                  | none =>
                      rfl
                  | some z' =>
                      simp [put_comm hy hkind.symm (Ne.symm hts)]
          · rw [assign?_other_kind v w p q node hkind,
              assign?_other_kind w v q p node (Ne.symm hkind)]

end Json

namespace Document

open Json (at? assign?)

variable {all items : List (String × PropertyValue)} {root after : Json}

/-- At each of the routes of some properties stands a value that `all` has for the route. -/
def Written (all items : List (String × PropertyValue)) (root : Json) : Prop :=
  ∀ item ∈ items, ∃ route v,
    Path.parse item.1 = .ok route ∧ Writes all route v ∧ at? route root = some v.toJson

/-- A leaf that was assigned stays a leaf that was assigned. -/
theorem written_of_place? (hnull : NullsApart all) (hitems : Written all items root)
    {item : String × PropertyValue} (hmem : item ∈ all) (h : place? root item = some after) :
    Written all items after := by
  intro other hother
  obtain ⟨route, v, hroute, ⟨path, hpath, hwrites⟩, hv⟩ := hitems other hother
  obtain ⟨target, hparse, hassign⟩ := (place?_eq_some_iff _ _ _).mp h
  rcases Json.at?_assign?_of_at? hassign hv with
    ⟨rfl, -, hafter⟩ | ⟨s, rest, y, htarget, hadmits, -⟩ | hsame
  · exact ⟨route, item.2, hroute, ⟨item.1, hmem, hparse⟩, hafter⟩
  · -- The leaf would have been descended through, so it was a null on the way.
    exfalso
    have hvalue : v = .null :=
      PropertyValue.toJson_injective
        (Json.eq_null_of_admits hadmits (Json.not_isContainer_toJson v))
    have heq : route = target := by
      refine hnull _ hpath _ hmem hvalue route target hwrites hparse ?_
      rw [htarget]
      exact List.prefix_append _ _
    simp [heq] at htarget
  · exact ⟨route, v, hroute, ⟨path, hpath, hwrites⟩, hsame⟩

/-- After a run there is a leaf for each of its properties. -/
theorem written_of_placeAll? (hnull : NullsApart all) (hsub : items ⊆ all)
    (h : placeAll? root items = some after) :
    Written all items after := by
  induction items using List.reverseRecOn generalizing after with
  | nil =>
      intro item hitem
      cases hitem
  | append_singleton items item ih =>
      obtain ⟨between, hbefore, hplace⟩ := (placeAll?_concat_eq_some_iff _ _ _ _).mp h
      have hmem : item ∈ all := hsub (by simp)
      have hkept := written_of_place? hnull (ih (fun a ha => hsub (by simp [ha])) hbefore)
        hmem hplace
      intro other hother
      rcases List.mem_append.mp hother with hbefore | hother
      · exact hkept other hbefore
      · obtain rfl := List.mem_singleton.mp hother
        obtain ⟨target, hparse, hassign⟩ := (place?_eq_some_iff _ _ _).mp hplace
        exact ⟨target, other.2, hparse, ⟨other.1, hmem, hparse⟩, (Json.at?_assign? hassign).2⟩

/-- Of two properties with the same steps only the second one counts. -/
theorem place?_place? {a b : String × PropertyValue} (h : Path.parse a.1 = Path.parse b.1)
    (root : Json) :
    ((place? root a).bind fun root => place? root b) = place? root b := by
  unfold place?
  rw [h]
  cases Path.parse b.1 with
  | error fault =>
      rfl
  | ok route =>
      exact Json.assign?_assign? a.2 b.2 route root

/-- A property whose leaf is there can change places with one that has other steps. -/
theorem place?_comm_of_at? {a b : String × PropertyValue} {p : List Segment} {x : Json}
    (hp : Path.parse a.1 = .ok p) (hx : at? p root = some x)
    (hsame : Path.parse b.1 ≠ Path.parse a.1)
    (hnull : a.2 = .null → ∀ q, Path.parse b.1 = .ok q → p <+: q → p = q) :
    ((place? root b).bind fun root => place? root a) =
      (place? root a).bind fun root => place? root b := by
  unfold place?
  rw [hp] at hsame ⊢
  cases hq : Path.parse b.1 with
  | error fault =>
      simp
  | ok q =>
      have hne : p ≠ q := by
        rintro rfl
        exact hsame hq
      exact Json.assign?_comm_of_at? hx hne fun hvalue hpre => hne (hnull hvalue q hq hpre)

/-- The last property of a list may be folded in before the list as well, if all leaves of the
list are there. -/
theorem placeAll?_of_place?_last (hnull : NullsApart all) (hsub : items ⊆ all)
    (hitems : Written all items root) {last : String × PropertyValue} (hlast : last ∈ all) :
    ((place? root last).bind fun root => placeAll? root (items ++ [last])) =
      placeAll? root (items ++ [last]) := by
  induction items generalizing root with
  | nil =>
      have hrepeat := place?_place? (rfl : Path.parse last.1 = Path.parse last.1) root
      simpa using hrepeat
  | cons item items ih =>
      have hmem : item ∈ all := hsub List.mem_cons_self
      simp only [List.cons_append, placeAll?_cons, ← Option.bind_assoc]
      by_cases hsame : Path.parse last.1 = Path.parse item.1
      · rw [place?_place? hsame]
      · obtain ⟨p, v, hp, -, hv⟩ := hitems item List.mem_cons_self
        have hcomm := place?_comm_of_at? hp hv hsame fun hvalue q hq hpre =>
          hnull _ hmem _ hlast hvalue p q hp hq hpre
        rw [hcomm, Option.bind_assoc]
        refine Option.bind_congr fun between hbetween => ?_
        refine ih (fun a ha => hsub (List.mem_cons_of_mem _ ha)) ?_
        refine written_of_place? hnull ?_ hmem hbetween
        exact fun a ha => hitems a (List.mem_cons_of_mem _ ha)

/-- What has been folded in can be folded in again. -/
theorem placeAll?_again (hnull : NullsApart items) (h : placeAll? root items = some after) :
    placeAll? after items = some after := by
  induction items using List.reverseRecOn generalizing after with
  | nil =>
      rfl
  | append_singleton items last ih =>
      obtain ⟨between, hbefore, hplace⟩ := (placeAll?_concat_eq_some_iff _ _ _ _).mp h
      have hagain : placeAll? between items = some between :=
        ih (hnull.of_sublist (List.sublist_append_left _ _)) hbefore
      have hwritten : Written (items ++ [last]) items between :=
        written_of_placeAll? hnull (List.subset_append_left _ _) hbefore
      have hlast : last ∈ items ++ [last] := by
        simp
      have hfirst := placeAll?_of_place?_last hnull (List.subset_append_left _ _) hwritten hlast
      rw [hplace, Option.bind_some] at hfirst
      rw [hfirst, placeAll?_concat_eq_some_iff]
      exact ⟨between, hagain, hplace⟩

theorem nullsApart_singleton (item : String × PropertyValue) : NullsApart [item] := by
  intro a ha b hb _ p q hp hq _
  rw [List.mem_singleton] at ha hb
  subst ha hb
  exact Except.ok.inj (hp.symm.trans hq)

/-- A single property, folded in or not, makes no difference the second time. -/
theorem materialize_again {doc after : Document} {path : String} {value : PropertyValue}
    {outcome : Except Error Unit} (h : doc.materialize path value = (after, outcome)) :
    after.materialize path value = (after, outcome) := by
  cases outcome with
  | ok u =>
      have hplace := (materialize_eq_ok_iff doc after path value).mp h
      have hagain : placeAll? (.obj after) [(path, value)] = some (.obj after) :=
        placeAll?_again (nullsApart_singleton _) (by simpa using hplace)
      exact (materialize_eq_ok_iff after after path value).mpr (by simpa using hagain)
  | error e =>
      have hsame : (doc.materialize path value).1 = doc :=
        materialize_fst_of_error (by rw [h])
      obtain rfl : after = doc := by
        rw [← hsame, h]
      exact h

/-- **Folding in is idempotent**: for a list in which no null is assigned on the way to another
property, and for a single property whether or not it succeeds. -/
theorem materializeAll_idempotent :
    (∀ (doc after : Document) (items : List (String × PropertyValue)),
        NullsApart items → doc.materializeAll items = (after, .ok ()) →
        after.materializeAll items = (after, .ok ()))
      ∧
    (∀ (doc after : Document) (path : String) (value : PropertyValue),
        doc.materialize path value = (after, .ok ()) →
        after.materialize path value = (after, .ok ()))
      ∧
    (∀ (doc after : Document) (path : String) (value : PropertyValue) (e : Error),
        doc.materialize path value = (after, .error e) →
        after.materialize path value = (after, .error e)) := by
  refine ⟨fun doc after items hnull h => ?_, fun _ _ _ _ => materialize_again,
    fun _ _ _ _ _ => materialize_again⟩
  rw [materializeAll_eq_ok_iff] at h ⊢
  exact placeAll?_again hnull h

/-- One route is spelled in two ways, so the second run passes through another document than its
start.  A property that fails, fails again. -/
theorem materializeAll_idempotent_two_spellings :
    materializeAll [("b", .null)]
        [("a.1", .str "x"), ("b.k", .null), ("a.01", .bool true), ("c", .null)] =
      ([("b", .obj [("k", .null)]), ("a", .arr [.null, .bool true]), ("c", .null)], .ok ()) ∧
    materializeAll [("b", .obj [("k", .null)]), ("a", .arr [.null, .bool true]), ("c", .null)]
        [("a.1", .str "x"), ("b.k", .null), ("a.01", .bool true), ("c", .null)] =
      ([("b", .obj [("k", .null)]), ("a", .arr [.null, .bool true]), ("c", .null)], .ok ()) ∧
    materialize [("a", .null)] "a.b.0" .null =
      ([("a", .obj [("b", .arr [.null])])], .ok ()) ∧
    materialize [("a", .obj [("b", .arr [.null])])] "a.b.0" .null =
      ([("a", .obj [("b", .arr [.null])])], .ok ()) ∧
    materialize [("a", .arr [])] "a.k" .null =
      ([("a", .arr [])], .error (.structuralConflict "a.k" "a" .mapping .sequence)) := by
  have hx : Path.parse "a.1" = .ok [.key "a", .index 1] := rfl
  have hk : Path.parse "b.k" = .ok [.key "b", .key "k"] := rfl
  have hy : Path.parse "a.01" = .ok [.key "a", .index 1] := rfl
  have hc : Path.parse "c" = .ok [.key "c"] := rfl
  refine ⟨rfl, ?_, rfl, ?_, ?_⟩
  · exact materializeAll_idempotent.1 [("b", .null)] _ _ (by simp [NullsApart, hx, hk, hy, hc]) rfl
  · exact materializeAll_idempotent.2.1 [("a", .null)] _ _ _ rfl
  · exact materializeAll_idempotent.2.2 [("a", .arr [])] _ _ _ _ rfl

end Document

end VnfPayload
