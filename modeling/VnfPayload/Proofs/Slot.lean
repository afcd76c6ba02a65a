import VnfPayload.Document
import VnfPayload.Proofs.Entries

/-!
# The slots of a node

One step of a path leads into a slot of a node.  A mapping has a slot for every key and a
sequence one for every position, whether or not something stands there; a null has all of
them, for it becomes a container of whatever kind the step asks for.  An empty slot counts
as null.

`Json.slot?` reads a slot and `Json.put` fills it.  The laws below are all that later
proofs need of the two kinds of containers: what a slot holds after it or another one is
filled, and that filling a slot with what it holds changes nothing.
-/

namespace VnfPayload

/-- One step reaches past another one when both are positions and its own is lower: then
filling the other slot makes sure that something stands in its own. -/
def Segment.below : Segment → Segment → Bool
  | .index j, .index i => j < i
  | _, _ => false

namespace Json

/-- The node that stands where a step leads. -/
def child? : Segment → Json → Option Json
  | .key k, .obj members => Entries.get? members k
  | .index i, .arr items => items[i]?
  | _, _ => none

/-- The node that a route leads to. -/
def at? : List Segment → Json → Option Json
  | [], node => some node
  | s :: rest, node => (child? s node).bind (at? rest)

/-- A step can be taken from containers of its kind and from null. -/
def Admits (s : Segment) (node : Json) : Prop :=
  node.kind = .null ∨ node.kind = s.container.node

instance (s : Segment) (node : Json) : Decidable (Admits s node) :=
  inferInstanceAs (Decidable (_ ∨ _))

/-- What the slot of a step holds, for a node that the step can be taken from. -/
def slot? (s : Segment) (node : Json) : Option Json :=
  if Admits s node then some ((child? s node).getD .null) else none

/-- Fills the slot of a step, in a fresh container if the node is none of its kind. -/
def put : Segment → Json → Json → Json
  | .key k, .obj members, x => .obj (Entries.insert members k x)
  | .key k, _, x => .obj (Entries.insert [] k x)
  | .index i, .arr items, x => .arr (putAt items i x)
  | .index i, _, x => .arr (putAt [] i x)

/-! ## Positions -/

theorem length_putAt (items : List Json) (i : Nat) (x : Json) :
    (putAt items i x).length = max items.length (i + 1) := by
  fun_induction putAt items i x with
  | case1 =>
      simp
  | case2 i x ih =>
      simp only [List.length_cons, ih, List.length_nil]
      omega
  | case3 y items x =>
      simp
  | case4 y items i x ih =>
      simp only [List.length_cons, ih]
      omega

/-- What stands at each position after one of them is filled. -/
theorem getElem?_putAt (items : List Json) (i : Nat) (x : Json) (j : Nat) :
    (putAt items i x)[j]? =
      if j = i then some x
      else if j < i then some (items[j]?.getD .null)
      else items[j]? := by
  fun_induction putAt items i x generalizing j with
  | case1 =>
      cases j <;> simp
  | case2 i x ih =>
      cases j with
      | zero =>
          simp
      | succ j =>
          simp [ih]
  | case3 y items x =>
      cases j <;> simp
  | case4 y items i x ih =>
      cases j with
      | zero =>
          simp
      | succ j =>
          simp [ih]

/-- A position behind the last item is reached by nulls in between. -/
theorem putAt_of_length_le {items : List Json} {i : Nat} (h : items.length ≤ i) (x : Json) :
    putAt items i x = items ++ List.replicate (i - items.length) .null ++ [x] := by
  fun_induction putAt items i x with
  | case1 =>
      rfl
  | case2 i x ih =>
      simp [ih, List.replicate_succ]
  | case3 y items x =>
      simp at h
  | case4 y items i x ih =>
      simp [ih (by simpa using h)]

/-- Filling a position with what stands there changes nothing. -/
theorem putAt_of_getElem? {items : List Json} {i : Nat} {x : Json}
    (h : items[i]? = some x) :
    putAt items i x = items := by
  fun_induction putAt items i x with
  | case1 =>
      simp at h
  | case2 i x ih =>
      simp at h
  | case3 y items x =>
      simp at h
      rw [h]
  | case4 y items i x ih =>
      rw [ih (by simpa using h)]

/-- The later of two fillings of one position counts. -/
theorem putAt_putAt (items : List Json) (i : Nat) (x y : Json) :
    putAt (putAt items i x) i y = putAt items i y := by
  fun_induction putAt items i x with
  | case1 =>
      rfl
  | case2 i x ih =>
      simp [putAt, ih]
  | case3 z items x =>
      rfl
  | case4 z items i x ih =>
      simp [putAt, ih]

/-- Filling a position where something stands can change places with filling another one. -/
theorem putAt_comm {items : List Json} {i j : Nat} (hi : i < items.length) (hne : i ≠ j)
    (x y : Json) :
    putAt (putAt items j x) i y = putAt (putAt items i y) j x := by
  fun_induction putAt items j x generalizing i with
  | case1 =>
      simp at hi
  | case2 j x ih =>
      simp at hi
  | case3 z items x =>
      cases i with
      | zero =>
          exact absurd rfl hne
      | succ i =>
          rfl
  | case4 z items j x ih =>
      cases i with
      | zero =>
          rfl
      | succ i =>
          have hrest : i < items.length := by
            simpa using hi
          simp only [putAt]
          rw [ih hrest (by omega)]

/-! ## Slots -/

theorem slot?_of_admits {s : Segment} {node : Json} (h : Admits s node) :
    slot? s node = some ((child? s node).getD .null) := by
  simp [slot?, h]

theorem slot?_of_not_admits {s : Segment} {node : Json} (h : ¬ Admits s node) :
    slot? s node = none := by
  simp [slot?, h]

theorem admits_of_slot? {s : Segment} {node x : Json} (h : slot? s node = some x) :
    Admits s node := by
  by_cases hadmits : Admits s node
  · exact hadmits
  · simp [slot?_of_not_admits hadmits] at h

/-- A node where a step leads somewhere is a container of the kind of the step. -/
theorem kind_of_child? {s : Segment} {node x : Json} (h : child? s node = some x) :
    node.kind = s.container.node := by
  cases s <;> cases node
  case key.obj =>
    rfl
  case index.arr =>
    rfl
  all_goals cases h

theorem slot?_of_child? {s : Segment} {node x : Json} (h : child? s node = some x) :
    slot? s node = some x := by
  rw [slot?_of_admits (Or.inr (kind_of_child? h)), h]
  rfl

@[simp] theorem child?_null (s : Segment) :
    child? s .null = none := by
  cases s <;> rfl

/-- A null has every slot, and all of them are empty. -/
@[simp] theorem slot?_null (s : Segment) :
    slot? s .null = some .null := by
  cases s <;> rfl

/-- Filling a slot makes a container of the kind of the step. -/
@[simp] theorem kind_put (s : Segment) (node x : Json) :
    (put s node x).kind = s.container.node := by
  cases s <;> cases node <;> rfl

/-- What stands where a step leads after a slot is filled. -/
theorem child?_put {s : Segment} {node : Json} (h : Admits s node) (x : Json)
    (t : Segment) :
    child? t (put s node x) =
      if t = s then some x
      else if t.below s then some ((child? t node).getD .null)
      else child? t node := by
  cases s with
  | key k =>
      cases node <;> cases t <;>
        simp_all [Admits, Json.kind, Segment.container, ContainerKind.node, put, child?,
          Entries.get?_insert, Segment.below, eq_comm]
  | index i =>
      cases node <;> cases t <;>
        simp_all [Admits, Json.kind, Segment.container, ContainerKind.node, put, child?,
          getElem?_putAt, Segment.below]

/-- A filled slot holds what it was filled with. -/
theorem slot?_put_self {s : Segment} {node : Json} (h : Admits s node) (x : Json) :
    slot? s (put s node x) = some x := by
  have hadmits : Admits s (put s node x) := Or.inr (kind_put s node x)
  rw [slot?_of_admits hadmits, child?_put h]
  simp

/-- Filling a slot keeps what the other slots of the container hold. -/
theorem slot?_put_of_ne {s t : Segment} {node : Json} (h : Admits s node)
    (hkind : t.container = s.container) (hne : t ≠ s) (x : Json) :
    slot? t (put s node x) = slot? t node := by
  have hput : Admits t (put s node x) := by
    right
    rw [kind_put, hkind]
  have hnode : Admits t node := by
    rw [Admits, hkind]
    exact h
  rw [slot?_of_admits hput, slot?_of_admits hnode, child?_put h]
  split
  · contradiction
  · split <;> rfl

/-- A container has no slots for steps of the other kind. -/
theorem slot?_put_of_container_ne {s t : Segment} (hkind : t.container ≠ s.container)
    (node x : Json) :
    slot? t (put s node x) = none := by
  apply slot?_of_not_admits
  rintro (hnull | heq)
  · rw [kind_put] at hnull
    exact ContainerKind.node_ne_null _ hnull
  · rw [kind_put] at heq
    exact hkind (ContainerKind.node_injective heq).symm

/-- A slot that holds more than a null is not empty. -/
theorem child?_of_slot? {s : Segment} {node x : Json} (h : slot? s node = some x)
    (hx : x ≠ .null) :
    child? s node = some x := by
  rw [slot?_of_admits (admits_of_slot? h), Option.some.injEq] at h
  cases hc : child? s node with
  | none =>
      rw [hc] at h
      exact absurd h.symm hx
  | some y =>
      rw [hc] at h
      exact congrArg some h

/-- Filling a slot with what stands there changes nothing. -/
theorem put_of_child? {s : Segment} {node x : Json} (h : child? s node = some x) :
    put s node x = node := by
  cases s with
  | key k =>
      cases node with
      | obj members =>
          rw [put, Entries.insert_of_get? h]
      | _ =>
          cases h
  | index i =>
      cases node with
      | arr items =>
          rw [put, putAt_of_getElem? h]
      | _ =>
          cases h

/-- Filling a slot with the node that it holds changes nothing. -/
theorem put_of_slot? {s : Segment} {node x : Json} (h : slot? s node = some x)
    (hx : x ≠ .null) :
    put s node x = node :=
  put_of_child? (child?_of_slot? h hx)

/-- The later of two fillings of one slot counts. -/
theorem put_put (s : Segment) (node x y : Json) :
    put s (put s node x) y = put s node y := by
  cases s with
  | key k =>
      cases node <;> simp [put, Entries.insert_insert]
  | index i =>
      cases node <;> simp [put, putAt_putAt]

/-- Filling a slot where something stands can change places with filling another one. -/
theorem put_comm {s t : Segment} {node z : Json} (ht : child? t node = some z)
    (hkind : t.container = s.container) (hne : t ≠ s) (x y : Json) :
    put t (put s node x) y = put s (put t node y) x := by
  cases s with
  | key k =>
      cases t with
      | index j =>
          cases hkind
      | key l =>
          cases node with
          | obj members =>
              simp only [put]
              rw [Entries.insert_comm ht (by simpa using hne)]
          | _ =>
              cases ht
  | index i =>
      cases t with
      | key l =>
          cases hkind
      | index j =>
          cases node with
          | arr items =>
              obtain ⟨hj, -⟩ := List.getElem?_eq_some_iff.mp ht
              simp only [put]
              rw [putAt_comm hj (by simpa using hne)]
          | _ =>
              cases ht

end Json

end VnfPayload
