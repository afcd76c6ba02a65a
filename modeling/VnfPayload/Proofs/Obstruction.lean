import VnfPayload.Proofs.Effect

/-!
# The node in the way of an assignment

An assignment fails because of one node: one on its way that has no slot for the next step,
or a container at its end.  `Json.Hinders` says so of a node and two routes, and
`Json.Obstructs` of a node that a route leads to.

The assignment counts how deep it is and meets the node in a tree that it may have changed on
the way.  `Json.assign_snd_eq_some_iff` says that neither matters: what it reports is the node of
the original that hinders it, the number of steps that lead there and the kind that the route
asks for at that depth.  There is only one such node (`Json.Obstructs.unique`).
-/

namespace VnfPayload

namespace Path

/-- The kind that a route asks for after so many of its steps: a container for the next step,
or a scalar at its end. -/
def wanted (route : List Segment) (count : Nat) : NodeKind :=
  match route[count]? with
  | some s => s.container.node
  | none => .scalar

theorem wanted_append (before : List Segment) (s : Segment) (rest : List Segment) :
    wanted (before ++ s :: rest) before.length = s.container.node := by
  simp [wanted]

theorem wanted_length (route : List Segment) : wanted route route.length = .scalar := by
  simp [wanted]

end Path

namespace Json

/-- A node, standing where `other` leads, is in the way of an assignment at `route`. -/
inductive Hinders (other : List Segment) (node : Json) (route : List Segment) : Prop
  /-- The assignment passes by, but the node has no slot for its next step. -/
  | blocked (s : Segment) (rest : List Segment) (hroute : route = other ++ s :: rest)
      (h : ¬ Admits s node)
  /-- The assignment ends here, but a container is not replaced. -/
  | occupied (hroute : route = other) (h : node.IsContainer)

variable {v : PropertyValue} {node x y : Json} {other other' route rest : List Segment}
  {s t : Segment}

theorem Hinders.cons (h : Hinders other node route) (s : Segment) :
    Hinders (s :: other) node (s :: route) := by
  cases h with
  | blocked t rest hroute h =>
      exact .blocked t rest (by rw [hroute, List.cons_append]) h
  | occupied hroute h =>
      exact .occupied (by rw [hroute]) h

/-- Only the kind of a node can hinder. -/
theorem Hinders.of_kind_eq (h : Hinders other x route) (hkind : x.kind = y.kind) :
    Hinders other y route := by
  cases h with
  | blocked s rest hroute h =>
      refine .blocked s rest hroute ?_
      rwa [Admits, ← hkind]
  | occupied hroute h =>
      obtain ⟨c, hc⟩ := h
      exact .occupied hroute ⟨c, hkind ▸ hc⟩

theorem not_hinders_null : ¬ Hinders other .null route := by
  rintro (⟨s, rest, -, h⟩ | ⟨-, h⟩)
  · exact h (Or.inl rfl)
  · exact not_isContainer_null h

/-- A node can only be in the way of a route that leads to it. -/
theorem Hinders.isPrefix (h : Hinders other x route) : other <+: route := by
  cases h with
  | blocked s rest hroute h =>
      exact hroute ▸ List.prefix_append other (s :: rest)
  | occupied hroute h =>
      exact hroute ▸ List.prefix_refl other

/-- What is in the way has not the kind that the route asks for there, and it is no null. -/
theorem Hinders.kind_ne (h : Hinders other x route) :
    x.kind ≠ .null ∧ x.kind ≠ Path.wanted route other.length := by
  cases h with
  | blocked s rest hroute h =>
      rw [hroute, Path.wanted_append]
      exact not_or.mp h
  | occupied hroute h =>
      obtain ⟨c, hc⟩ := h
      rw [hroute, Path.wanted_length, hc]
      cases c <;> exact ⟨nofun, nofun⟩

theorem hinders_nil_iff : Hinders [] x (s :: rest) ↔ ¬ Admits s x := by
  constructor
  · intro h
    cases h with
    | blocked t rest' hroute h =>
        cases hroute
        exact h
    | occupied hroute h =>
        cases hroute
  · exact .blocked s rest rfl

theorem hinders_cons_iff :
    Hinders (t :: other) x (s :: rest) ↔ t = s ∧ Hinders other x rest := by
  constructor
  · intro h
    cases h with
    | blocked u rest' hroute h =>
        cases hroute
        exact ⟨rfl, .blocked u rest' rfl h⟩
    | occupied hroute h =>
        cases hroute
        exact ⟨rfl, .occupied rfl h⟩
  · rintro ⟨rfl, h⟩
    exact h.cons t

/-- The other route leads from the node to one that is in the way of the route. -/
def Obstructs (node : Json) (route other : List Segment) (x : Json) : Prop :=
  at? other node = some x ∧ Hinders other x route

theorem obstructs_nil_iff :
    Obstructs node [] other x ↔ other = [] ∧ x = node ∧ node.IsContainer := by
  constructor
  · rintro ⟨hx, h⟩
    obtain rfl : other = [] := List.prefix_nil.mp h.isPrefix
    obtain rfl : node = x := Option.some.inj hx
    cases h with
    | blocked s rest hroute h =>
        cases hroute
    | occupied hroute h =>
        exact ⟨rfl, rfl, h⟩
  · rintro ⟨rfl, rfl, h⟩
    exact ⟨rfl, .occupied rfl h⟩

/-- Without a slot for the step, the node itself is in the way. -/
theorem obstructs_cons_iff_of_none (hslot : slot? s node = none) :
    Obstructs node (s :: rest) other x ↔ other = [] ∧ x = node := by
  constructor
  · rintro ⟨hx, h⟩
    cases other with
    | nil =>
        exact ⟨rfl, (Option.some.inj hx).symm⟩
    | cons t other =>
        obtain ⟨rfl, -⟩ := hinders_cons_iff.mp h
        obtain ⟨y, hy, -⟩ := Option.bind_eq_some_iff.mp hx
        rw [slot?_of_child? hy] at hslot
        cases hslot
  · rintro ⟨rfl, rfl⟩
    refine ⟨rfl, hinders_nil_iff.mpr fun hadmits => ?_⟩
    rw [slot?_of_admits hadmits] at hslot
    cases hslot

theorem not_obstructs_null : ¬ Obstructs .null route other x := by
  rintro ⟨hx, h⟩
  cases other with
  | nil =>
      cases hx
      exact not_hinders_null h
  | cons t other =>
      rw [at?_cons_of_not_isContainer not_isContainer_null] at hx
      cases hx

/-- With a slot for the step, what is in the way stands in the slot. -/
theorem obstructs_cons_iff_of_some (hslot : slot? s node = some y) :
    Obstructs node (s :: rest) other x ↔
      ∃ tail, other = s :: tail ∧ Obstructs y rest tail x := by
  constructor
  · rintro ⟨hx, h⟩
    cases other with
    | nil =>
        obtain rfl : node = x := Option.some.inj hx
        exact absurd (admits_of_slot? hslot) (hinders_nil_iff.mp h)
    | cons t tail =>
        obtain ⟨rfl, hrest⟩ := hinders_cons_iff.mp h
        obtain ⟨z, hz, hx⟩ := Option.bind_eq_some_iff.mp hx
        rw [slot?_of_child? hz] at hslot
        obtain rfl : z = y := Option.some.inj hslot
        exact ⟨tail, rfl, hx, hrest⟩
  · rintro ⟨tail, rfl, h⟩
    -- Nothing is in the way below a null, so the slot was not empty.
    have hne : y ≠ .null := by
      rintro rfl
      exact not_obstructs_null h
    refine ⟨?_, h.2.cons s⟩
    rw [at?_cons, child?_of_slot? hslot hne]
    exact h.1

/-- **What an assignment reports**: the node of the original that is in its way, how deep it
stands and what the route asks for there. -/
theorem assign_snd_eq_some_iff (v : PropertyValue) (depth : Nat) (route : List Segment)
    (node : Json) (clash : Clash) :
    (assign v depth route node).2 = some clash ↔
      ∃ other x, Obstructs node route other x ∧
        clash = ⟨depth + other.length, Path.wanted route other.length, x.kind⟩ := by
  induction route generalizing depth node with
  | nil =>
      simp only [obstructs_nil_iff]
      constructor
      · intro h
        cases node with
        | obj members =>
            cases h
            exact ⟨[], _, ⟨rfl, rfl, .mapping, rfl⟩, rfl⟩
        | arr items =>
            cases h
            exact ⟨[], _, ⟨rfl, rfl, .sequence, rfl⟩, rfl⟩
        | _ =>
            cases h
      · rintro ⟨other, x, ⟨rfl, rfl, c, hc⟩, rfl⟩
        cases x with
        | obj members =>
            rfl
        | arr items =>
            rfl
        | _ =>
            cases c <;> cases hc
  | cons s rest ih =>
      rw [assign_cons]
      cases hslot : slot? s node with
      | none =>
          simp only [obstructs_cons_iff_of_none hslot]
          constructor
          · intro h
            cases h
            exact ⟨[], node, ⟨rfl, rfl⟩, rfl⟩
          · rintro ⟨other, x, ⟨rfl, rfl⟩, rfl⟩
            rfl
      | some y =>
          have hdeeper (tail : List Segment) :
              depth + (s :: tail).length = depth + 1 + tail.length := by
            rw [List.length_cons]
            omega
          simp only [obstructs_cons_iff_of_some hslot, ih]
          constructor
          · rintro ⟨tail, x, h, rfl⟩
            exact ⟨s :: tail, x, ⟨tail, rfl, h⟩, by rw [hdeeper]; rfl⟩
          · rintro ⟨other, x, ⟨tail, rfl, h⟩, rfl⟩
            exact ⟨tail, x, h, by rw [hdeeper]; rfl⟩

/-- Only one node is in the way of a route. -/
theorem Obstructs.unique (h : Obstructs node route other x)
    (h' : Obstructs node route other' y) :
    other = other' := by
  have hclash := (assign_snd_eq_some_iff .null 0 route node _).mpr ⟨other, x, h, rfl⟩
  have hclash' := (assign_snd_eq_some_iff .null 0 route node _).mpr ⟨other', y, h', rfl⟩
  rw [hclash, Option.some.injEq, Clash.mk.injEq] at hclash'
  have hlength : other.length = other'.length := by
    simpa using hclash'.1
  rw [List.prefix_iff_eq_take.mp h.2.isPrefix, List.prefix_iff_eq_take.mp h'.2.isPrefix,
    hlength]

/-- **An assignment fails exactly if some node hinders it**, whatever the value. -/
theorem assign?_eq_none_iff (v : PropertyValue) (route : List Segment) (node : Json) :
    assign? v route node = none ↔
      ∃ other x, at? other node = some x ∧ Hinders other x route := by
  constructor
  · intro h
    obtain ⟨clash, hclash⟩ := assign_of_none h 0
    obtain ⟨other, x, hobstructs, -⟩ :=
      (assign_snd_eq_some_iff v 0 route node clash).mp (by rw [hclash])
    exact ⟨other, x, hobstructs⟩
  · rintro ⟨other, x, hobstructs⟩
    cases hafter : assign? v route node with
    | none =>
        rfl
    | some after =>
        have hclash := (assign_snd_eq_some_iff v 0 route node _).mpr ⟨other, x, hobstructs, rfl⟩
        rw [assign_of_some hafter] at hclash
        cases hclash

end Json

end VnfPayload
