import VnfPayload.Proofs.Slot

/-!
# Assignments that succeed and assignments that fail

`Json.assign` gives back the node as it was left together with what stood in the way.
`Json.assign?` is the assignment as a partial function on nodes, by recursion on the steps:
read the slot, assign inside, fill the slot.  `assign_of_some` and `assign_of_none` relate
the two: a failed assignment leaves the node as it was.

What carries the second law is `exists_assign?_null`: nothing can stand in the way below a
null.  Every container, key and item that an assignment creates is created below one, so
no assignment fails once it has created anything.

`Document.place?` and `Document.placeAll?` say the same of whole documents, for the text of
a path and for lists of properties.
-/

namespace VnfPayload

namespace Json

/-- The node after an assignment at the end of the steps, if nothing stands in the way. -/
def assign? (value : PropertyValue) : List Segment → Json → Option Json
  | [], .obj _ => none
  | [], .arr _ => none
  | [], _ => some value.toJson
  | s :: rest, node =>
      (slot? s node).bind fun x => (assign? value rest x).map (put s node)

/-- An assignment step by step: the slot decides whether it can go on. -/
theorem assign_cons (value : PropertyValue) (depth : Nat) (s : Segment)
    (rest : List Segment) (node : Json) :
    assign value depth (s :: rest) node =
      match slot? s node with
      | some x =>
          (put s node (assign value (depth + 1) rest x).1,
            (assign value (depth + 1) rest x).2)
      | none => (node, some ⟨depth, s.container.node, node.kind⟩) := by
  cases s <;> cases node <;> rfl

/-- Nothing stands in the way below a null. -/
theorem exists_assign?_null (value : PropertyValue) (route : List Segment) :
    ∃ node, assign? value route .null = some node := by
  induction route with
  | nil =>
      exact ⟨value.toJson, rfl⟩
  | cons s rest ih =>
      obtain ⟨node, hnode⟩ := ih
      exact ⟨put s .null node, by simp [assign?, hnode]⟩

theorem assign_of_some {value : PropertyValue} {route : List Segment} {node after : Json}
    (h : assign? value route node = some after) (depth : Nat) :
    assign value depth route node = (after, none) := by
  induction route generalizing node after depth with
  | nil =>
      cases node <;> simp_all [assign?, assign]
  | cons s rest ih =>
      obtain ⟨x, hx, hmap⟩ := Option.bind_eq_some_iff.mp h
      obtain ⟨y, hy, rfl⟩ := Option.map_eq_some_iff.mp hmap
      simp [assign_cons, hx, ih hy]

/-- A failed assignment leaves the node as it was. -/
theorem assign_of_none {value : PropertyValue} {route : List Segment} {node : Json}
    (h : assign? value route node = none) (depth : Nat) :
    ∃ clash, assign value depth route node = (node, some clash) := by
  induction route generalizing node depth with
  | nil =>
      cases node <;> simp_all [assign?, assign]
  | cons s rest ih =>
      rw [assign_cons]
      cases hx : slot? s node with
      | none =>
          exact ⟨_, rfl⟩
      | some x =>
          have hrest : assign? value rest x = none := by
            simpa [assign?, hx] using h
          -- The slot was not empty, for below a null the assignment had succeeded.
          have hne : x ≠ .null := by
            rintro rfl
            obtain ⟨y, hy⟩ := exists_assign?_null value rest
            rw [hrest] at hy
            cases hy
          obtain ⟨clash, hclash⟩ := ih hrest (depth + 1)
          refine ⟨clash, ?_⟩
          simp only [hclash]
          rw [put_of_slot? hx hne]

/-- A mapping stays a mapping under assignments. -/
theorem assign?_obj {value : PropertyValue} {route : List Segment} {doc : Document}
    {after : Json} (h : assign? value route (.obj doc) = some after) :
    ∃ members, after = .obj members := by
  cases route with
  | nil =>
      cases h
  | cons s rest =>
      obtain ⟨x, hx, hmap⟩ := Option.bind_eq_some_iff.mp h
      obtain ⟨y, hy, rfl⟩ := Option.map_eq_some_iff.mp hmap
      cases s with
      | key k =>
          exact ⟨_, rfl⟩
      | index i =>
          cases hx

end Json

namespace Document

/-- The root after a property is folded in, if its key is a path and nothing stands in the
way. -/
def place? (root : Json) (item : String × PropertyValue) : Option Json :=
  match Path.parse item.1 with
  | .ok route => Json.assign? item.2 route root
  | .error _ => none

/-- The root after properties are folded in one after the other. -/
def placeAll? (root : Json) (items : List (String × PropertyValue)) : Option Json :=
  items.foldlM place? root

@[simp] theorem placeAll?_nil (root : Json) :
    placeAll? root [] = some root := rfl

@[simp] theorem placeAll?_cons (root : Json) (item : String × PropertyValue)
    (items : List (String × PropertyValue)) :
    placeAll? root (item :: items) =
      (place? root item).bind fun root => placeAll? root items := rfl

theorem placeAll?_append (root : Json) (items items' : List (String × PropertyValue)) :
    placeAll? root (items ++ items') =
      (placeAll? root items).bind fun root => placeAll? root items' :=
  List.foldlM_append

theorem placeAll?_concat_eq_some_iff (root after : Json)
    (items : List (String × PropertyValue)) (item : String × PropertyValue) :
    placeAll? root (items ++ [item]) = some after ↔
      ∃ between, placeAll? root items = some between ∧ place? between item = some after := by
  simp [placeAll?_append, Option.bind_eq_some_iff]

/-- A property is folded in, or the document is left as it was. -/
theorem materialize_cases (doc : Document) (path : String) (value : PropertyValue) :
    (∃ after : Document,
        place? (.obj doc) (path, value) = some (.obj after) ∧
        doc.materialize path value = (after, .ok ()))
      ∨
    (place? (.obj doc) (path, value) = none ∧
      ∃ e, doc.materialize path value = (doc, .error e)) := by
  unfold place? materialize
  cases Path.parse path with
  | error fault =>
      exact Or.inr ⟨rfl, _, rfl⟩
  | ok route =>
      cases hassign : Json.assign? value route (.obj doc) with
      | none =>
          obtain ⟨clash, hclash⟩ := Json.assign_of_none hassign 0
          simp only [hclash]
          exact Or.inr ⟨hassign, _, rfl⟩
      | some after =>
          obtain ⟨members, rfl⟩ := Json.assign?_obj hassign
          simp only [Json.assign_of_some hassign 0]
          exact Or.inl ⟨members, hassign, rfl⟩

theorem materialize_eq_ok_iff (doc after : Document) (path : String)
    (value : PropertyValue) :
    doc.materialize path value = (after, .ok ()) ↔
      place? (.obj doc) (path, value) = some (.obj after) := by
  rcases materialize_cases doc path value with ⟨found, hplace, hrun⟩ | ⟨hplace, e, hrun⟩
  · simp [hplace, hrun]
  · simp [hplace, hrun]

/-- A list of properties is folded in whole exactly if each property can be placed. -/
theorem materializeAll_eq_ok_iff (items : List (String × PropertyValue))
    (doc after : Document) :
    doc.materializeAll items = (after, .ok ()) ↔
      placeAll? (.obj doc) items = some (.obj after) := by
  induction items generalizing doc with
  | nil =>
      simp [materializeAll]
  | cons item items ih =>
      obtain ⟨path, value⟩ := item
      rcases materialize_cases doc path value with
        ⟨found, hplace, hrun⟩ | ⟨hplace, e, hrun⟩
      · simp [materializeAll, hplace, hrun, ih]
      · simp [materializeAll, hplace, hrun]

/-- What is placed into a mapping leaves a mapping. -/
theorem placeAll?_obj {items : List (String × PropertyValue)} {doc : Document}
    {after : Json} (h : placeAll? (.obj doc) items = some after) :
    ∃ members, after = .obj members := by
  induction items generalizing doc with
  | nil =>
      exact ⟨doc, (Option.some.inj h).symm⟩
  | cons item items ih =>
      obtain ⟨path, value⟩ := item
      rw [placeAll?_cons] at h
      rcases materialize_cases doc path value with ⟨found, hplace, -⟩ | ⟨hplace, -⟩
      · rw [hplace] at h
        exact ih h
      · rw [hplace] at h
        cases h

/-- Folding in a list of properties succeeds exactly if they can all be placed. -/
theorem materializeAll_snd_eq_ok_iff (items : List (String × PropertyValue))
    (doc : Document) :
    (doc.materializeAll items).2 = .ok () ↔
      ∃ after : Document, placeAll? (.obj doc) items = some (.obj after) := by
  constructor
  · intro h
    refine ⟨(doc.materializeAll items).1, ?_⟩
    rw [← materializeAll_eq_ok_iff, ← h]
  · rintro ⟨after, h⟩
    rw [(materializeAll_eq_ok_iff items doc after).mpr h]

end Document

end VnfPayload
