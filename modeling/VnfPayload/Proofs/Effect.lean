import VnfPayload.Proofs.Assignment

/-!
# What an assignment changes

An assignment at one route, seen from another one.  The two routes can lie to each other in
four ways, which `Path.Bearing` names: they are the same, one of them ends on the way of the
other, or they part.  For each way there is one law:

* `at?_assign?`: at its own route stands the assigned value;
* `at?_assign?_above`: a node on the way keeps all but the slot that the way goes through;
* `at?_assign?_below`: nothing stands below the assigned value;
* `at?_assign?_apart`: a route that parts leads where it did before, except that positions
  below an assigned one come into being.

`at?_assign?_of_at?` puts them together for a node that stood somewhere before.
-/

namespace VnfPayload

namespace Path

/-- How another route lies to a route. -/
inductive Bearing : (route other : List Segment) → Prop
  | same (route : List Segment) : Bearing route route
  | above (other : List Segment) (s : Segment) (rest : List Segment) :
      Bearing (other ++ s :: rest) other
  | below (route : List Segment) (s : Segment) (rest : List Segment) :
      Bearing route (route ++ s :: rest)
  | apart (before : List Segment) (s : Segment) (rest : List Segment) (t : Segment)
      (rest' : List Segment) (hne : t ≠ s) :
      Bearing (before ++ s :: rest) (before ++ t :: rest')

theorem Bearing.cons {route other : List Segment} (h : Bearing route other) (s : Segment) :
    Bearing (s :: route) (s :: other) := by
  cases h with
  | same =>
      exact .same _
  | above _ t rest =>
      exact .above (s :: other) t rest
  | below _ t rest =>
      exact .below (s :: route) t rest
  | apart before t rest t' rest' hne =>
      exact .apart (s :: before) t rest t' rest' hne

/-- There is no fifth way. -/
theorem bearing (route other : List Segment) : Bearing route other := by
  induction route generalizing other with
  | nil =>
      cases other with
      | nil =>
          exact .same []
      | cons t rest =>
          exact .below [] t rest
  | cons s rest ih =>
      cases other with
      | nil =>
          exact .above [] s rest
      | cons t rest' =>
          by_cases hts : t = s
          · subst hts
            exact (ih rest').cons t
          · exact .apart [] s rest t rest' hts

end Path

theorem PropertyValue.toJson_injective {v w : PropertyValue} (h : v.toJson = w.toJson) :
    v = w := by
  have hsome : some v = some w := by
    rw [← ofJson?_toJson v, ← ofJson?_toJson w, h]
  exact Option.some.inj hsome

namespace Json

/-- A mapping or a sequence. -/
def IsContainer (node : Json) : Prop :=
  ∃ c : ContainerKind, node.kind = c.node

/-- The node that an assignment finds at a route: where there is none, a null. -/
def found (route : List Segment) (node : Json) : Json :=
  (at? route node).getD .null

/-! ## Containers, scalars and nulls -/

theorem not_isContainer_null : ¬ Json.null.IsContainer := by
  rintro ⟨c, hc⟩
  exact c.node_ne_null hc.symm

theorem not_isContainer_toJson (v : PropertyValue) : ¬ v.toJson.IsContainer := by
  rintro ⟨c, hc⟩
  cases v <;> cases c <;> cases hc

theorem empty_ne_toJson (c : ContainerKind) (v : PropertyValue) : c.empty ≠ v.toJson := by
  intro h
  refine not_isContainer_toJson v ⟨c, ?_⟩
  rw [← h, c.kind_empty]

theorem isContainer_of_child? {s : Segment} {node x : Json} (h : child? s node = some x) :
    node.IsContainer :=
  ⟨s.container, kind_of_child? h⟩

theorem child?_of_not_isContainer {node : Json} (h : ¬ node.IsContainer) (s : Segment) :
    child? s node = none := by
  cases hc : child? s node with
  | none =>
      rfl
  | some x =>
      exact absurd (isContainer_of_child? hc) h

/-- A scalar has no slots. -/
theorem eq_null_of_admits {s : Segment} {node : Json} (h : Admits s node)
    (hnode : ¬ node.IsContainer) :
    node = .null := by
  rcases h with hnull | hkind
  · cases node with
    | null =>
        rfl
    | _ =>
        cases hnull
  · exact absurd ⟨s.container, hkind⟩ hnode

/-! ## Routes -/

theorem at?_cons (s : Segment) (rest : List Segment) (node : Json) :
    at? (s :: rest) node = (child? s node).bind (at? rest) := rfl

theorem at?_append (route rest : List Segment) (node : Json) :
    at? (route ++ rest) node = (at? route node).bind (at? rest) := by
  induction route generalizing node with
  | nil =>
      rfl
  | cons s route ih =>
      rw [List.cons_append, at?_cons, at?_cons, Option.bind_assoc]
      congr 1
      exact funext ih

/-- A route step by step from somewhere on its way. -/
theorem at?_append_cons (before : List Segment) (t : Segment) (rest : List Segment)
    (node : Json) :
    at? (before ++ t :: rest) node = (at? (before ++ [t]) node).bind (at? rest) := by
  rw [← at?_append, List.append_assoc]
  rfl

/-- No route leads on from a scalar or a null. -/
theorem at?_cons_of_not_isContainer {node : Json} (h : ¬ node.IsContainer) (s : Segment)
    (rest : List Segment) :
    at? (s :: rest) node = none := by
  rw [at?_cons, child?_of_not_isContainer h]
  rfl

theorem found_of_at? {route : List Segment} {node x : Json} (h : at? route node = some x) :
    found route node = x := by
  simp [found, h]

/-- A step into an empty slot finds as little as a step into nothing. -/
theorem found_cons_of_slot? {s : Segment} {node x : Json} (h : slot? s node = some x)
    (rest : List Segment) :
    found (s :: rest) node = found rest x := by
  rw [slot?_of_admits (admits_of_slot? h), Option.some.injEq] at h
  cases hc : child? s node with
  | some y =>
      have hxy : y = x := by
        simpa [hc] using h
      simp [found, at?_cons, hc, hxy]
  | none =>
      have hx : x = .null := by
        simpa [hc] using h.symm
      cases rest with
      | nil =>
          simp [found, at?, hc, hx]
      | cons t rest =>
          simp [found, at?_cons, hc, hx]

/-! ## One assignment -/

variable {v : PropertyValue} {node after : Json}

/-- An assignment behind a step is an assignment inside its slot. -/
theorem assign?_cons_eq_some {s : Segment} {rest : List Segment}
    (h : assign? v (s :: rest) node = some after) :
    ∃ x y, slot? s node = some x ∧ assign? v rest x = some y ∧ after = put s node y := by
  obtain ⟨x, hx, hmap⟩ := Option.bind_eq_some_iff.mp h
  obtain ⟨y, hy, rfl⟩ := Option.map_eq_some_iff.mp hmap
  exact ⟨x, y, hx, hy, rfl⟩

theorem assign?_nil_eq_some (h : assign? v [] node = some after) :
    ¬ node.IsContainer ∧ after = v.toJson := by
  cases node with
  | obj members =>
      cases h
  | arr items =>
      cases h
  | _ =>
      refine ⟨?_, (Option.some.inj h).symm⟩
      rintro ⟨c, hc⟩
      cases c <;> cases hc

/-- Only a container keeps its place. -/
theorem assign?_nil_eq_none_iff (v : PropertyValue) (node : Json) :
    assign? v [] node = none ↔ node.IsContainer := by
  constructor
  · intro h
    cases node with
    | obj members =>
        exact ⟨.mapping, rfl⟩
    | arr items =>
        exact ⟨.sequence, rfl⟩
    | _ =>
        cases h
  · intro hnode
    cases hafter : assign? v [] node with
    | none =>
        rfl
    | some after =>
        exact absurd hnode (assign?_nil_eq_some hafter).1

/-- Behind the slot of a step stands what was put into it. -/
theorem at?_cons_put {s : Segment} (h : Admits s node) (x : Json) (rest : List Segment) :
    at? (s :: rest) (put s node x) = at? rest x := by
  rw [at?_cons, child?_put h, if_pos rfl]
  rfl

/-- At its route an assignment finds no container and leaves the value. -/
theorem at?_assign? {route : List Segment} (h : assign? v route node = some after) :
    ¬ (found route node).IsContainer ∧ at? route after = some v.toJson := by
  induction route generalizing node after with
  | nil =>
      obtain ⟨hnode, rfl⟩ := assign?_nil_eq_some h
      exact ⟨hnode, rfl⟩
  | cons s rest ih =>
      obtain ⟨x, y, hx, hy, rfl⟩ := assign?_cons_eq_some h
      rw [found_cons_of_slot? hx, at?_cons_put (admits_of_slot? hx)]
      exact ih hy

/-- On the way of an assignment one slot is filled. -/
theorem at?_assign?_above {route : List Segment} {s : Segment} {rest : List Segment}
    (h : assign? v (route ++ s :: rest) node = some after) :
    Admits s (found route node) ∧
      ∃ x, at? route after = some (put s (found route node) x) := by
  induction route generalizing node after with
  | nil =>
      obtain ⟨x, y, hx, -, rfl⟩ := assign?_cons_eq_some h
      exact ⟨admits_of_slot? hx, y, rfl⟩
  | cons t route ih =>
      obtain ⟨x, y, hx, hy, rfl⟩ := assign?_cons_eq_some h
      rw [found_cons_of_slot? hx, at?_cons_put (admits_of_slot? hx)]
      exact ih hy

/-- Nothing stands below an assigned value. -/
theorem at?_assign?_below {route : List Segment} (h : assign? v route node = some after)
    (s : Segment) (rest : List Segment) :
    at? (route ++ s :: rest) after = none := by
  rw [at?_append, (at?_assign? h).2, Option.bind_some]
  exact at?_cons_of_not_isContainer (not_isContainer_toJson v) s rest

/-- A route that parts from that of an assignment leads where it did before.  Only a position
below an assigned one is filled up with a null, if nothing stood there. -/
theorem at?_assign?_apart {before : List Segment} {s t : Segment}
    {rest rest' : List Segment} (h : assign? v (before ++ s :: rest) node = some after)
    (hne : t ≠ s) :
    at? (before ++ t :: rest') after =
      if t.below s then at? rest' (found (before ++ [t]) node)
      else at? (before ++ t :: rest') node := by
  obtain ⟨hadmits, x, hx⟩ := at?_assign?_above h
  have hchild : child? t (found before node) = at? (before ++ [t]) node := by
    rw [at?_append, found]
    cases at? before node with
    | none =>
        simp
    | some y =>
        simp [at?]
  rw [at?_append, hx, Option.bind_some, at?_cons, child?_put hadmits, if_neg hne, hchild,
    at?_append_cons before t rest']
  split
  · rfl
  · rfl

/-- What becomes of a node under an assignment: it is a scalar or null that is replaced, or
a node on the way with one slot filled, or it stays as it is. -/
theorem at?_assign?_of_at? {route : List Segment} (h : assign? v route node = some after)
    {other : List Segment} {x : Json} (hx : at? other node = some x) :
    (other = route ∧ ¬ x.IsContainer ∧ at? other after = some v.toJson) ∨
      (∃ s rest y, route = other ++ s :: rest ∧ Admits s x ∧
        at? other after = some (put s x y)) ∨
      at? other after = some x := by
  cases Path.bearing route other with
  | same =>
      obtain ⟨hfound, hafter⟩ := at?_assign? h
      rw [found_of_at? hx] at hfound
      exact Or.inl ⟨rfl, hfound, hafter⟩
  | above _ s rest =>
      obtain ⟨hadmits, y, hy⟩ := at?_assign?_above h
      rw [found_of_at? hx] at hadmits hy
      exact Or.inr (Or.inl ⟨s, rest, y, rfl, hadmits, hy⟩)
  | below _ s rest =>
      -- Something stood below the route, so the assignment would have met a container.
      exfalso
      rw [at?_append] at hx
      obtain ⟨y, hy, hrest⟩ := Option.bind_eq_some_iff.mp hx
      have hfound := (at?_assign? h).1
      rw [found_of_at? hy] at hfound
      rw [at?_cons_of_not_isContainer hfound] at hrest
      cases hrest
  | apart before s rest t rest' hne =>
      right
      right
      rw [at?_assign?_apart h hne]
      split
      · rw [at?_append_cons] at hx
        obtain ⟨y, hy, hrest⟩ := Option.bind_eq_some_iff.mp hx
        rw [found_of_at? hy]
        exact hrest
      · exact hx

end Json

end VnfPayload
