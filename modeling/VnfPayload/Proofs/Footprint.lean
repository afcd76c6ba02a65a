import VnfPayload.Proofs.Provenance

/-!
# The whole effect of folding in a property

What a property that is folded in leaves behind, and what it leaves alone.  The value stands
at the route of its key.  Every container on the way is of the kind that the next step asks
for, with one key or some items more than before, or none.  Any other route leads where it
did, but for the positions that are filled up with nulls below one that the key asks for
(`Path.FillsUp`), and nothing else comes into being.

The laws of `Proofs.Effect` say what an assignment does for each way in which two routes can
lie to each other.  Here they are read as a description of the document afterwards:
`Document.materialize_effect`.
-/

namespace VnfPayload

namespace Path

/-- The other route leads to a position below one that the route goes through, in the same
sequence. -/
def FillsUp (route other : List Segment) : Prop :=
  ∃ before i j rest,
    route = before ++ .index i :: rest ∧ other = before ++ [.index j] ∧ j < i

/-- Routes of which none goes on from the other one part at some step. -/
theorem exists_parting {route other : List Segment} (hother : ¬ other <+: route)
    (hroute : ¬ route <+: other) :
    ∃ before s rest t rest', t ≠ s ∧ route = before ++ s :: rest ∧
      other = before ++ t :: rest' := by
  cases bearing route other with
  | same =>
      exact absurd (List.prefix_refl _) hroute
  | above _ s rest =>
      exact absurd (List.prefix_append _ _) hother
  | below _ s rest =>
      exact absurd (List.prefix_append _ _) hroute
  | apart before s rest t rest' hne =>
      exact ⟨before, s, rest, t, rest', hne, rfl, rfl⟩

/-- A step reaches past another one for positions in ascending order only. -/
theorem below_eq_true_iff (t s : Segment) :
    t.below s = true ↔ ∃ j i, t = .index j ∧ s = .index i ∧ j < i := by
  cases t <;> cases s <;> simp [Segment.below]

/-- Of routes that part, the other one is filled up if it ends at the step where they part
and that step lies below. -/
theorem fillsUp_of_below {before rest : List Segment} {s t : Segment} (h : t.below s = true) :
    FillsUp (before ++ s :: rest) (before ++ [t]) := by
  obtain ⟨j, i, rfl, rfl, hlt⟩ := (below_eq_true_iff t s).mp h
  exact ⟨before, i, j, rest, rfl, rfl, hlt⟩

/-- The position that is filled up is not on the route, and the route does not go on from
it. -/
theorem FillsUp.parting {route other : List Segment} (h : FillsUp route other) :
    ∃ before s rest t, t ≠ s ∧ t.below s = true ∧ route = before ++ s :: rest ∧
      other = before ++ [t] := by
  obtain ⟨before, i, j, rest, hroute, hother, hlt⟩ := h
  refine ⟨before, .index i, rest, .index j, ?_, decide_eq_true hlt, hroute, hother⟩
  intro heq
  exact Nat.ne_of_lt hlt (Segment.index.inj heq)

end Path

namespace Json

/-- The items of a sequence; other nodes have none. -/
def itemsOf : Json → List Json
  | .arr items => items
  | _ => []

variable {v : PropertyValue} {node after x : Json} {route rest other : List Segment}

/-- Filling the slot of a key makes a mapping of what was a mapping or a null. -/
theorem put_key_of_admits {k : String} (h : Admits (.key k) node) (x : Json) :
    put (.key k) node x = .obj (Entries.insert (Document.ofNode node) k x) := by
  cases node with
  | arr items =>
      rcases h with hnull | hkind
      · cases hnull
      · cases hkind
  | _ =>
      rfl

/-- Filling the slot of a position makes a sequence of what was a sequence or a null. -/
theorem put_index_of_admits {i : Nat} (h : Admits (.index i) node) (x : Json) :
    put (.index i) node x = .arr (putAt (itemsOf node) i x) := by
  cases node with
  | obj members =>
      rcases h with hnull | hkind
      · cases hnull
      · cases hkind
  | _ =>
      rfl

/-- Before a key on the way stands a mapping with the old keys, and the key behind them if it
was missing. -/
theorem exists_mapping_of_assign? {k : String}
    (h : assign? v (route ++ .key k :: rest) node = some after) :
    ∃ members, at? route after = some (.obj members) ∧
      Entries.keys members =
        if k ∈ Entries.keys (Document.ofNode (found route node)) then
          Entries.keys (Document.ofNode (found route node))
        else Entries.keys (Document.ofNode (found route node)) ++ [k] := by
  obtain ⟨hadmits, x, hx⟩ := at?_assign?_above h
  rw [put_key_of_admits hadmits] at hx
  exact ⟨_, hx, Entries.keys_insert _ _ _⟩

/-- Before a position on the way stands a sequence that is just long enough, or as long as it
was. -/
theorem exists_sequence_of_assign? {i : Nat}
    (h : assign? v (route ++ .index i :: rest) node = some after) :
    ∃ items, at? route after = some (.arr items) ∧
      items.length = max (itemsOf (found route node)).length (i + 1) := by
  obtain ⟨hadmits, x, hx⟩ := at?_assign?_above h
  rw [put_index_of_admits hadmits] at hx
  exact ⟨_, hx, length_putAt _ _ _⟩

/-- A position that is filled up and where nothing stood holds a null. -/
theorem at?_assign?_of_fillsUp (h : assign? v route node = some after)
    (hfills : Path.FillsUp route other) (hnone : at? other node = none) :
    at? other after = some .null := by
  obtain ⟨before, s, rest, t, hne, hbelow, rfl, rfl⟩ := hfills.parting
  rw [at?_assign?_apart h hne, if_pos hbelow, found, hnone]
  rfl

/-- A route that neither ends on the way nor goes on from it leads where it did, unless it is
filled up. -/
theorem at?_assign?_of_not_fillsUp (h : assign? v route node = some after)
    (hother : ¬ other <+: route) (hroute : ¬ route <+: other)
    (hfills : ¬ (Path.FillsUp route other ∧ at? other node = none)) :
    at? other after = at? other node := by
  obtain ⟨before, s, rest, t, rest', hne, rfl, rfl⟩ := Path.exists_parting hother hroute
  rw [at?_assign?_apart h hne]
  by_cases hbelow : t.below s = true
  · rw [if_pos hbelow, at?_append_cons]
    cases hold : at? (before ++ [t]) node with
    | some y =>
        rw [found_of_at? hold]
        rfl
    | none =>
        -- Below the null that comes into being there is nothing, as before.
        rw [found, hold]
        cases rest' with
        | nil =>
            exact absurd ⟨Path.fillsUp_of_below hbelow, hold⟩ hfills
        | cons r rest' =>
            exact at?_cons_of_not_isContainer not_isContainer_null r rest'
  · rw [if_neg hbelow]

/-- Nothing comes into being but the way, its end and the positions that are filled up. -/
theorem new_of_assign? (h : assign? v route node = some after)
    (hx : at? other after = some x) (hnone : at? other node = none) :
    other <+: route ∨ Path.FillsUp route other := by
  by_cases hother : other <+: route
  · exact Or.inl hother
  by_cases hroute : route <+: other
  · -- Below the assigned value there is nothing.
    obtain ⟨tail, rfl⟩ := hroute
    cases tail with
    | nil =>
        exact absurd (by simp) hother
    | cons s rest =>
        rw [at?_assign?_below h] at hx
        cases hx
  by_cases hfills : Path.FillsUp route other
  · exact Or.inr hfills
  · rw [at?_assign?_of_not_fillsUp h hother hroute fun hf => hfills hf.1, hnone] at hx
    cases hx

end Json

namespace Document

open Json (at? found)

/-- **What folding in a property does**, if it succeeds, with `p` for the steps of its path: at
`p`, at its beginnings and on all other routes. -/
theorem materialize_effect {doc after : Document} {path : String} {p : List Segment}
    {v : PropertyValue} (hparse : Path.parse path = .ok p)
    (h : doc.materialize path v = (after, .ok ())) :
    at? p (.obj after) = some v.toJson ∧
      -- The beginnings: there was nothing, a null, or a container of the kind that is wanted.
      (∀ route s rest, p = route ++ s :: rest →
        at? route (.obj doc) = none ∨ at? route (.obj doc) = some .null ∨
          ∃ x, at? route (.obj doc) = some x ∧ x.kind = s.container.node) ∧
      -- Now there is a container of that kind, with the next key or position in it.
      (∀ route k rest, p = route ++ .key k :: rest →
        ∃ members, at? route (.obj after) = some (.obj members) ∧
          Entries.keys members =
            if k ∈ Entries.keys (ofNode (found route (.obj doc))) then
              Entries.keys (ofNode (found route (.obj doc)))
            else Entries.keys (ofNode (found route (.obj doc))) ++ [k]) ∧
      (∀ route i rest, p = route ++ .index i :: rest →
        ∃ items, at? route (.obj after) = some (.arr items) ∧
          items.length = max (Json.itemsOf (found route (.obj doc))).length (i + 1)) ∧
      -- Other routes lead where they did, but for positions that are filled up.
      (∀ route, ¬ route <+: p → ¬ p <+: route →
        (Path.FillsUp p route ∧ at? route (.obj doc) = none →
          at? route (.obj after) = some .null) ∧
        (¬ (Path.FillsUp p route ∧ at? route (.obj doc) = none) →
          at? route (.obj after) = at? route (.obj doc))) ∧
      -- Nothing else comes into being.
      (∀ route x, at? route (.obj after) = some x → at? route (.obj doc) = none →
        route <+: p ∨ Path.FillsUp p route) := by
  obtain ⟨p', hparse', hassign⟩ :=
    (place?_eq_some_iff _ _ _).mp ((materialize_eq_ok_iff doc after path v).mp h)
  obtain rfl : p = p' := Except.ok.inj (hparse.symm.trans hparse')
  refine ⟨(Json.at?_assign? hassign).2, ?_, ?_, ?_, ?_, ?_⟩
  · rintro route s rest rfl
    have hadmits := (Json.at?_assign?_above hassign).1
    cases hold : at? route (.obj doc) with
    | none =>
        exact Or.inl rfl
    | some x =>
        rw [Json.found_of_at? hold] at hadmits
        rcases hadmits with hnull | hkind
        · cases x with
          | null =>
              exact Or.inr (Or.inl rfl)
          | _ =>
              cases hnull
        · exact Or.inr (Or.inr ⟨x, rfl, hkind⟩)
  · rintro route k rest rfl
    exact Json.exists_mapping_of_assign? hassign
  · rintro route i rest rfl
    exact Json.exists_sequence_of_assign? hassign
  · intro route hother hroute
    exact ⟨fun hfills => Json.at?_assign?_of_fillsUp hassign hfills.1 hfills.2,
      Json.at?_assign?_of_not_fillsUp hassign hother hroute⟩
  · intro route x hx hnone
    exact Json.new_of_assign? hassign hx hnone

/-- A null becomes a mapping inside a sequence that grows: what stood in the sequence and
beside it is still there, the gap is filled with a null, and there is nothing more. -/
theorem materialize_effect_grown_sequence :
    materialize [("a", .arr [.obj [("x", .bool true)]]), ("b", .str "s")] "a.2.k" (.str "v") =
        ([("a", .arr [.obj [("x", .bool true)], .null, .obj [("k", .str "v")]]),
          ("b", .str "s")], .ok ()) ∧
      Path.parse "a.2.k" = .ok [.key "a", .index 2, .key "k"] ∧
      (∃ items,
        at? [.key "a"] (.obj [("a", .arr [.obj [("x", .bool true)], .null,
            .obj [("k", .str "v")]]), ("b", .str "s")]) = some (.arr items) ∧
          items.length = max 1 (2 + 1)) ∧
      at? [.key "a", .index 1] (.obj [("a", .arr [.obj [("x", .bool true)], .null,
        .obj [("k", .str "v")]]), ("b", .str "s")]) = some .null ∧
      at? [.key "a", .index 0, .key "x"] (.obj [("a", .arr [.obj [("x", .bool true)], .null,
        .obj [("k", .str "v")]]), ("b", .str "s")]) = some (.bool true) := by
  have hparse : Path.parse "a.2.k" = .ok [.key "a", .index 2, .key "k"] := rfl
  have hrun : materialize [("a", .arr [.obj [("x", .bool true)]]), ("b", .str "s")] "a.2.k"
      (.str "v") =
        ([("a", .arr [.obj [("x", .bool true)], .null, .obj [("k", .str "v")]]),
          ("b", .str "s")], .ok ()) := rfl
  obtain ⟨-, -, -, hsequence, hframe, -⟩ := materialize_effect hparse hrun
  refine ⟨hrun, hparse, hsequence [.key "a"] 2 [.key "k"] rfl, ?_, ?_⟩
  · refine (hframe [.key "a", .index 1] (by decide) (by decide)).1 ⟨?_, rfl⟩
    exact ⟨[.key "a"], 2, 1, [.key "k"], rfl, rfl, by decide⟩
  · refine (hframe [.key "a", .index 0, .key "x"] (by decide) (by decide)).2 ?_
    rintro ⟨-, hnone⟩
    cases hnone

end Document

end VnfPayload
