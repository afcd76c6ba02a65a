import VnfPayload.Proofs.Assignment

/-!
# Documents without repeated keys

A mapping that is read or built never has a key twice.  `Json.WellFormed` says so of a node
and of all that lies in it.  It is kept by assignments, and by everything that is made of
them: a list of properties folded into a well-formed document gives a well-formed one.
-/

namespace VnfPayload

namespace Json

theorem wellFormedItems_iff (items : List Json) :
    WellFormedItems items ↔ ∀ x ∈ items, WellFormed x := by
  induction items with
  | nil =>
      simp [WellFormedItems]
  | cons x items ih =>
      simp [WellFormedItems, ih]

theorem wellFormedMembers_iff (members : List (String × Json)) :
    WellFormedMembers members ↔ ∀ e ∈ members, WellFormed e.2 := by
  induction members with
  | nil =>
      simp [WellFormedMembers]
  | cons e members ih =>
      obtain ⟨k, x⟩ := e
      simp [WellFormedMembers, ih]

theorem wellFormed_arr_iff (items : List Json) :
    WellFormed (.arr items) ↔ ∀ x ∈ items, WellFormed x :=
  wellFormedItems_iff items

theorem wellFormed_obj_iff (members : List (String × Json)) :
    WellFormed (.obj members) ↔
      (Entries.keys members).Nodup ∧ ∀ e ∈ members, WellFormed e.2 := by
  rw [← wellFormedMembers_iff]
  rfl

theorem wellFormed_null : WellFormed .null := trivial

theorem wellFormed_toJson (value : PropertyValue) :
    WellFormed value.toJson := by
  cases value <;> trivial

/-- The nodes of a well-formed container are well formed. -/
theorem wellFormed_child? {s : Segment} {node x : Json} (hnode : WellFormed node)
    (h : child? s node = some x) :
    WellFormed x := by
  cases s with
  | key k =>
      cases node with
      | obj members =>
          exact ((wellFormed_obj_iff members).mp hnode).2 _ (Entries.mem_of_get? h)
      | _ =>
          cases h
  | index i =>
      cases node with
      | arr items =>
          exact (wellFormed_arr_iff items).mp hnode _ (List.mem_of_getElem? h)
      | _ =>
          cases h

theorem wellFormed_slot? {s : Segment} {node x : Json} (hnode : WellFormed node)
    (h : slot? s node = some x) :
    WellFormed x := by
  rw [slot?_of_admits (admits_of_slot? h), Option.some.injEq] at h
  subst h
  cases hc : child? s node with
  | none =>
      exact wellFormed_null
  | some y =>
      exact wellFormed_child? hnode hc

theorem wellFormed_obj_insert {members : List (String × Json)} {x : Json}
    (hmembers : WellFormed (.obj members)) (hx : WellFormed x) (k : String) :
    WellFormed (.obj (Entries.insert members k x)) := by
  rw [wellFormed_obj_iff] at hmembers ⊢
  have hkeys := Entries.nodup_keys_insert hmembers.1 k x
  refine ⟨hkeys, ?_⟩
  rintro ⟨key, y⟩ hmem
  have hget := Entries.get?_of_mem hkeys hmem
  rw [Entries.get?_insert] at hget
  split at hget
  · cases hget
    exact hx
  · exact hmembers.2 _ (Entries.mem_of_get? hget)

theorem wellFormed_arr_putAt {items : List Json} {x : Json}
    (hitems : WellFormed (.arr items)) (hx : WellFormed x) (i : Nat) :
    WellFormed (.arr (putAt items i x)) := by
  rw [wellFormed_arr_iff] at hitems ⊢
  intro y hmem
  obtain ⟨j, hj⟩ := List.mem_iff_getElem?.mp hmem
  rw [getElem?_putAt] at hj
  split at hj
  · cases hj
    exact hx
  · split at hj
    · cases hc : items[j]? with
      | none =>
          simp only [hc, Option.getD_none, Option.some.injEq] at hj
          exact hj ▸ wellFormed_null
      | some z =>
          simp only [hc, Option.getD_some, Option.some.injEq] at hj
          exact hj ▸ hitems z (List.mem_of_getElem? hc)
    · exact hitems y (List.mem_of_getElem? hj)

theorem wellFormed_put {node x : Json} (hnode : WellFormed node) (hx : WellFormed x)
    (s : Segment) :
    WellFormed (put s node x) := by
  have hobj : WellFormed (.obj []) := ⟨List.nodup_nil, trivial⟩
  have harr : WellFormed (.arr []) := trivial
  cases s with
  | key k =>
      cases node with
      | obj members =>
          exact wellFormed_obj_insert hnode hx k
      | _ =>
          exact wellFormed_obj_insert hobj hx k
  | index i =>
      cases node with
      | arr items =>
          exact wellFormed_arr_putAt hnode hx i
      | _ =>
          exact wellFormed_arr_putAt harr hx i

/-- Assignments keep a node well formed. -/
theorem wellFormed_assign? {value : PropertyValue} {route : List Segment}
    {node after : Json} (hnode : WellFormed node)
    (h : assign? value route node = some after) :
    WellFormed after := by
  induction route generalizing node after with
  | nil =>
      have hafter : after = value.toJson := by
        cases node <;> simp_all [assign?]
      exact hafter ▸ wellFormed_toJson value
  | cons s rest ih =>
      obtain ⟨x, hx, hmap⟩ := Option.bind_eq_some_iff.mp h
      obtain ⟨y, hy, rfl⟩ := Option.map_eq_some_iff.mp hmap
      exact wellFormed_put hnode (ih (wellFormed_slot? hnode hx) hy) s

end Json

namespace Document

theorem wellFormed_place? {root after : Json} {item : String × PropertyValue}
    (hroot : root.WellFormed) (h : place? root item = some after) :
    after.WellFormed := by
  unfold place? at h
  split at h
  · exact Json.wellFormed_assign? hroot h
  · cases h

/-- Folding in a list of properties keeps a document well formed. -/
theorem wellFormed_placeAll? {items : List (String × PropertyValue)} {root after : Json}
    (hroot : root.WellFormed) (h : placeAll? root items = some after) :
    after.WellFormed := by
  induction items generalizing root with
  | nil =>
      cases h
      exact hroot
  | cons item items ih =>
      obtain ⟨between, hplace, hrest⟩ := Option.bind_eq_some_iff.mp h
      exact ih (wellFormed_place? hroot hplace) hrest

end Document

end VnfPayload
