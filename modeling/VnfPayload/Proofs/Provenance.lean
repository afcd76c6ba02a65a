import VnfPayload.Proofs.Effect

/-!
# Where the nodes of a document come from

Folding in a list of properties makes values, containers and nulls.  `Json.Origin` lists the
ways in which a node can have come to stand at a route: it stood there before, it is an
assigned value, it is a container that an assignment passed through, or it is a null that
fills a sequence up to an assigned position.

One assignment is taken apart by `origin_of_assign?`, route by route.  A node that an
assignment leaves as it was has the origin that it had before, so `origin_of_placeAll?`
follows by induction on the list.

In the other direction, a scalar that is not null stays where it is until something is
assigned to its own route (`at?_of_placeAll?_of_notMem`), so of several assignments to a route
the last one counts (`at?_of_placeAll?_of_last`).
-/

namespace VnfPayload

namespace Json

/-- How a node has come to stand at a route, starting from a root and with the assignments
that `Wrote` speaks of. -/
inductive Origin (Wrote : List Segment → PropertyValue → Prop) (root : Json)
    (route : List Segment) (node : Json) : Prop
  /-- It stood there from the start. -/
  | kept (h : at? route root = some node)
  /-- It was assigned. -/
  | assigned (v : PropertyValue) (h : Wrote route v) (hnode : node = v.toJson)
  /-- It is a container that an assignment passed through, and so not empty. -/
  | passed (s : Segment) (rest : List Segment) (v : PropertyValue)
      (h : Wrote (route ++ s :: rest) v) (hkind : node.kind = s.container.node)
      (hne : node ≠ s.container.empty)
  /-- It is a null below a position that an assignment asked for. -/
  | padded (before : List Segment) (i j : Nat) (rest : List Segment) (v : PropertyValue)
      (h : Wrote (before ++ .index i :: rest) v) (hlt : j < i)
      (hroute : route = before ++ [.index j]) (hnull : node = .null)

variable {Wrote Wrote' : List Segment → PropertyValue → Prop} {root : Json}
  {route : List Segment} {node : Json}

theorem Origin.mono (hmono : ∀ p v, Wrote p v → Wrote' p v)
    (h : Origin Wrote root route node) :
    Origin Wrote' root route node := by
  cases h with
  | kept h =>
      exact .kept h
  | assigned v h hnode =>
      exact .assigned v (hmono _ _ h) hnode
  | passed s rest v h hkind hne =>
      exact .passed s rest v (hmono _ _ h) hkind hne
  | padded before i j rest v h hlt hroute hnull =>
      exact .padded before i j rest v (hmono _ _ h) hlt hroute hnull

/-- Origins of two runs in a row: what the second one found has its origin in the first. -/
theorem Origin.trans {between : Json}
    (hbetween : ∀ x, at? route between = some x → Origin Wrote root route x)
    (h : Origin Wrote between route node) :
    Origin Wrote root route node := by
  cases h with
  | kept h =>
      exact hbetween node h
  | assigned v h hnode =>
      exact .assigned v h hnode
  | passed s rest v h hkind hne =>
      exact .passed s rest v h hkind hne
  | padded before i j rest v h hlt hroute hnull =>
      exact .padded before i j rest v h hlt hroute hnull

/-- Assignments leave no container empty. -/
theorem Origin.at?_eq_empty {c : ContainerKind} (h : Origin Wrote root route c.empty) :
    at? route root = some c.empty := by
  cases h with
  | kept h =>
      exact h
  | assigned v h hnode =>
      exact absurd hnode (empty_ne_toJson c v)
  | passed s rest v h hkind hne =>
      rw [c.kind_empty] at hkind
      exact absurd (by rw [ContainerKind.node_injective hkind]) hne
  | padded before i j rest v h hlt hroute hnull =>
      exact absurd hnull (empty_ne_toJson c .null)

/-- A slot has been filled, so the container is not empty. -/
theorem put_ne_empty (s : Segment) (node x : Json) :
    put s node x ≠ s.container.empty := by
  intro heq
  cases s with
  | key k =>
      have hkeys : ∀ es : Entries Json, Entries.insert es k x ≠ [] := by
        intro es hes
        have hget := Entries.get?_insert es k x k
        simp [hes] at hget
      cases node <;> exact hkeys _ (Json.obj.inj heq)
  | index i =>
      have hitems : ∀ xs : List Json, putAt xs i x ≠ [] := by
        intro xs hxs
        have hlength := length_putAt xs i x
        rw [hxs, List.length_nil] at hlength
        omega
      cases node <;> exact hitems _ (Json.arr.inj heq)

/-- **What an assignment leaves at a route.** -/
theorem origin_of_assign? {v : PropertyValue} {target : List Segment} {after : Json}
    (h : assign? v target root = some after) (hnode : at? route after = some node) :
    Origin (fun p w => p = target ∧ w = v) root route node := by
  cases Path.bearing target route with
  | same =>
      rw [(at?_assign? h).2, Option.some.injEq] at hnode
      exact .assigned v ⟨rfl, rfl⟩ hnode.symm
  | above _ s rest =>
      obtain ⟨-, x, hx⟩ := at?_assign?_above h
      rw [hx, Option.some.injEq] at hnode
      subst hnode
      exact .passed s rest v ⟨rfl, rfl⟩ (kind_put s _ x) (put_ne_empty s _ x)
  | below _ s rest =>
      rw [at?_assign?_below h] at hnode
      cases hnode
  | apart before s rest t rest' hne =>
      rw [at?_assign?_apart h hne] at hnode
      by_cases hbelow : t.below s
      · rw [if_pos hbelow] at hnode
        cases hold : at? (before ++ [t]) root with
        | some x =>
            rw [found_of_at? hold] at hnode
            have hkept : at? (before ++ t :: rest') root = some node := by
              rw [at?_append_cons, hold]
              exact hnode
            exact .kept hkept
        | none =>
            -- Nothing stood there, so it is the null that fills the sequence up.
            have hnull : found (before ++ [t]) root = .null := by
              rw [found, hold]
              rfl
            rw [hnull] at hnode
            cases rest' with
            | cons r rest' =>
                rw [at?_cons_of_not_isContainer not_isContainer_null] at hnode
                cases hnode
            | nil =>
                cases s with
                | key k =>
                    cases t <;> cases hbelow
                | index i =>
                    cases t with
                    | key k =>
                        cases hbelow
                    | index j =>
                        exact .padded before i j rest v ⟨rfl, rfl⟩ (of_decide_eq_true hbelow)
                          rfl (Option.some.inj hnode).symm
      · rw [if_neg hbelow] at hnode
        exact .kept hnode

end Json

namespace Document

open Json (at? assign? Origin)

/-- One of the properties has the value, under a key that names the route. -/
def Writes (items : List (String × PropertyValue)) (route : List Segment)
    (v : PropertyValue) : Prop :=
  ∃ path, (path, v) ∈ items ∧ Path.parse path = .ok route

variable {items : List (String × PropertyValue)} {root after : Json}

theorem place?_eq_some_iff (root after : Json) (item : String × PropertyValue) :
    place? root item = some after ↔
      ∃ route, Path.parse item.1 = .ok route ∧ assign? item.2 route root = some after := by
  unfold place?
  cases Path.parse item.1 with
  | error fault =>
      simp
  | ok route =>
      simp

/-- What is folded in succeeds step by step: first an assignment, and then the rest. -/
theorem placeAll?_cons_eq_some {item : String × PropertyValue}
    (h : placeAll? root (item :: items) = some after) :
    ∃ target between, Path.parse item.1 = .ok target ∧
      assign? item.2 target root = some between ∧ placeAll? between items = some after := by
  obtain ⟨between, hplace, hrest⟩ := Option.bind_eq_some_iff.mp h
  obtain ⟨target, hparse, hassign⟩ := (place?_eq_some_iff _ _ _).mp hplace
  exact ⟨target, between, hparse, hassign, hrest⟩

/-- **Where the nodes come from** after a list of properties is folded in. -/
theorem origin_of_placeAll? (h : placeAll? root items = some after) {route : List Segment}
    {node : Json} (hnode : at? route after = some node) :
    Origin (Writes items) root route node := by
  induction items generalizing root with
  | nil =>
      cases h
      exact .kept hnode
  | cons item items ih =>
      obtain ⟨target, between, hparse, hassign, hrest⟩ := placeAll?_cons_eq_some h
      have htail : Origin (Writes (item :: items)) between route node := by
        refine (ih hrest).mono ?_
        rintro p v ⟨path, hmem, hp⟩
        exact ⟨path, List.mem_cons_of_mem _ hmem, hp⟩
      refine htail.trans fun x hx => (Json.origin_of_assign? hassign hx).mono ?_
      rintro p v ⟨rfl, rfl⟩
      exact ⟨item.1, List.mem_cons_self, hparse⟩

/-- A scalar stays where it is until something is assigned to its route. -/
theorem at?_of_placeAll?_of_notMem (h : placeAll? root items = some after)
    {route : List Segment} {v : PropertyValue} (hv : v ≠ .null)
    (hroot : at? route root = some v.toJson)
    (hother : ∀ item ∈ items, Path.parse item.1 ≠ .ok route) :
    at? route after = some v.toJson := by
  induction items generalizing root with
  | nil =>
      cases h
      exact hroot
  | cons item items ih =>
      obtain ⟨target, between, hparse, hassign, hrest⟩ := placeAll?_cons_eq_some h
      refine ih hrest ?_ fun item' hmem => hother item' (List.mem_cons_of_mem _ hmem)
      rcases Json.at?_assign?_of_at? hassign hroot with
        ⟨rfl, -⟩ | ⟨s, rest, y, -, hadmits, -⟩ | hsame
      · exact absurd hparse (hother item List.mem_cons_self)
      · -- No step leads on from a scalar.
        have hnull := Json.eq_null_of_admits hadmits (Json.not_isContainer_toJson v)
        exact absurd (PropertyValue.toJson_injective hnull) hv
      · exact hsame

/-- The last of the assignments to a route counts. -/
theorem at?_of_placeAll?_of_last {before later : List (String × PropertyValue)} {key : String}
    {v : PropertyValue} (h : placeAll? root (before ++ (key, v) :: later) = some after)
    (hv : v ≠ .null) (hlast : ∀ item ∈ later, Path.parse item.1 ≠ Path.parse key) :
    ∃ route, Path.parse key = .ok route ∧ at? route after = some v.toJson := by
  rw [placeAll?_append] at h
  obtain ⟨found, -, hrest⟩ := Option.bind_eq_some_iff.mp h
  obtain ⟨route, between, hparse, hassign, hlater⟩ := placeAll?_cons_eq_some hrest
  refine ⟨route, hparse, at?_of_placeAll?_of_notMem hlater hv (Json.at?_assign? hassign).2 ?_⟩
  rw [← hparse]
  exact hlast

end Document

end VnfPayload
