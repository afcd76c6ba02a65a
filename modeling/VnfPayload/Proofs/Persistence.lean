import VnfPayload.Proofs.Provenance

/-!
# Nothing is deleted and no container changes its kind

`Document.attemptAll` folds properties in one after the other and goes on after an error.
Whatever the run, a route that leads to a node before it leads to a node after it; a mapping
stays one and only gets new keys behind its old ones, and a sequence stays one and never gets
shorter.

A scalar may be replaced by another scalar or by a null, and a null may become a container.
There is no other way from a scalar to a container: `leaf_of_assign?` says so of one
assignment, and `exists_null_of_attemptAll` finds the null in a run.
-/

namespace VnfPayload

namespace Json

/-- What a later node keeps of an earlier one: its kind if it is a container, its keys in
their order and its number of items. -/
structure Keeps (x y : Json) : Prop where
  mapping : ∀ members, x = .obj members →
    ∃ members', y = .obj members' ∧ Entries.keys members <+: Entries.keys members'
  sequence : ∀ items, x = .arr items →
    ∃ items', y = .arr items' ∧ items.length ≤ items'.length

theorem Keeps.refl (x : Json) : Keeps x x where
  mapping members h := ⟨members, h, List.prefix_refl _⟩
  sequence items h := ⟨items, h, Nat.le_refl _⟩

theorem Keeps.trans {x y z : Json} (hxy : Keeps x y) (hyz : Keeps y z) : Keeps x z where
  mapping members h := by
    obtain ⟨members', hy, hkeys⟩ := hxy.mapping members h
    obtain ⟨members'', hz, hkeys'⟩ := hyz.mapping members' hy
    exact ⟨members'', hz, hkeys.trans hkeys'⟩
  sequence items h := by
    obtain ⟨items', hy, hlength⟩ := hxy.sequence items h
    obtain ⟨items'', hz, hlength'⟩ := hyz.sequence items' hy
    exact ⟨items'', hz, Nat.le_trans hlength hlength'⟩

theorem keeps_of_not_isContainer {x : Json} (hx : ¬ x.IsContainer) (y : Json) :
    Keeps x y where
  mapping members h := absurd ⟨.mapping, by rw [h]; rfl⟩ hx
  sequence items h := absurd ⟨.sequence, by rw [h]; rfl⟩ hx

/-- Filling a slot adds a key behind the others, or lengthens a sequence. -/
theorem keeps_put {s : Segment} {x : Json} (h : Admits s x) (y : Json) :
    Keeps x (put s x y) := by
  constructor
  · rintro members rfl
    cases s with
    | index i =>
        rcases h with hnull | hkind
        · cases hnull
        · cases hkind
    | key k =>
        refine ⟨_, rfl, ?_⟩
        rw [Entries.keys_insert]
        split
        · exact List.prefix_refl _
        · exact List.prefix_append _ _
  · rintro items rfl
    cases s with
    | key k =>
        rcases h with hnull | hkind
        · cases hnull
        · cases hkind
    | index i =>
        refine ⟨_, rfl, ?_⟩
        rw [length_putAt]
        omega

variable {v : PropertyValue} {node after x y : Json} {target route : List Segment}

/-- No assignment deletes a node. -/
theorem exists_keeps_of_assign? (h : assign? v target node = some after)
    (hx : at? route node = some x) :
    ∃ y, at? route after = some y ∧ Keeps x y := by
  rcases at?_assign?_of_at? h hx with
    ⟨-, hnot, hy⟩ | ⟨s, rest, y, -, hadmits, hy⟩ | hsame
  · exact ⟨v.toJson, hy, keeps_of_not_isContainer hnot _⟩
  · exact ⟨_, hy, keeps_put hadmits y⟩
  · exact ⟨x, hsame, Keeps.refl x⟩

/-- A scalar does not become a container, and a null only if a null is assigned to it. -/
theorem leaf_of_assign? (h : assign? v target node = some after)
    (hx : at? route node = some x) (hleaf : ¬ x.IsContainer) (hnull : x ≠ .null)
    (hy : at? route after = some y) :
    ¬ y.IsContainer ∧ (y = .null → route = target ∧ v = .null) := by
  rcases at?_assign?_of_at? h hx with
    ⟨hroute, -, hafter⟩ | ⟨s, rest, z, -, hadmits, -⟩ | hsame
  · rw [hafter, Option.some.injEq] at hy
    subst hy
    exact ⟨not_isContainer_toJson v,
      fun hv => ⟨hroute, PropertyValue.toJson_injective hv⟩⟩
  · exact absurd (eq_null_of_admits hadmits hleaf) hnull
  · rw [hsame, Option.some.injEq] at hy
    subst hy
    exact ⟨hleaf, fun hy => absurd hy hnull⟩

end Json

namespace Document

open Json (at? Keeps IsContainer)

/-- Folds properties into the document one after the other, whether or not they succeed. -/
def attemptAll (doc : Document) : List (String × PropertyValue) → Document
  | [] => doc
  | (path, value) :: rest => attemptAll (doc.materialize path value).1 rest

theorem exists_keeps_of_placeAll? {items : List (String × PropertyValue)} {root after x : Json}
    {route : List Segment} (h : placeAll? root items = some after)
    (hx : at? route root = some x) :
    ∃ y, at? route after = some y ∧ Keeps x y := by
  induction items generalizing root x with
  | nil =>
      cases h
      exact ⟨x, hx, Keeps.refl x⟩
  | cons item items ih =>
      obtain ⟨target, between, -, hassign, hrest⟩ := placeAll?_cons_eq_some h
      obtain ⟨y, hy, hxy⟩ := Json.exists_keeps_of_assign? hassign hx
      obtain ⟨z, hz, hyz⟩ := ih hrest hy
      exact ⟨z, hz, hxy.trans hyz⟩

/-- A run that goes on after errors does what its successful properties do alone. -/
theorem exists_sublist_attemptAll (doc : Document) (items : List (String × PropertyValue)) :
    ∃ done, done.Sublist items ∧
      placeAll? (.obj doc) done = some (.obj (doc.attemptAll items)) := by
  induction items generalizing doc with
  | nil =>
      exact ⟨[], List.Sublist.refl _, rfl⟩
  | cons item items ih =>
      obtain ⟨path, value⟩ := item
      rcases materialize_cases doc path value with ⟨after, hplace, hrun⟩ | ⟨-, e, hrun⟩
      · obtain ⟨done, hsub, hdone⟩ := ih after
        refine ⟨(path, value) :: done, hsub.cons_cons _, ?_⟩
        rw [placeAll?_cons, hplace, attemptAll, hrun]
        exact hdone
      · obtain ⟨done, hsub, hdone⟩ := ih doc
        refine ⟨done, hsub.cons _, ?_⟩
        rw [attemptAll, hrun]
        exact hdone

theorem exists_keeps_of_attemptAll {doc : Document} {route : List Segment} {x : Json}
    (hx : at? route (.obj doc) = some x) (items : List (String × PropertyValue)) :
    ∃ y, at? route (.obj (doc.attemptAll items)) = some y ∧ Keeps x y := by
  obtain ⟨done, -, hdone⟩ := exists_sublist_attemptAll doc items
  exact exists_keeps_of_placeAll? hdone hx

/-- A scalar that a run turns into a container has been a null in between, and was so because
a null was assigned to it. -/
theorem exists_null_of_attemptAll {doc : Document} {route : List Segment} {x y : Json}
    {items : List (String × PropertyValue)} (hx : at? route (.obj doc) = some x)
    (hleaf : ¬ x.IsContainer) (hnull : x ≠ .null)
    (hy : at? route (.obj (doc.attemptAll items)) = some y) (hcontainer : y.IsContainer) :
    ∃ before path after,
      items = before ++ (path, .null) :: after ∧ Path.parse path = .ok route ∧
        ((doc.attemptAll before).materialize path .null).2 = .ok () := by
  induction items generalizing doc x with
  | nil =>
      have hxy : x = y := Option.some.inj (hx.symm.trans hy)
      exact absurd (hxy ▸ hcontainer) hleaf
  | cons item items ih =>
      obtain ⟨path, value⟩ := item
      rcases materialize_cases doc path value with ⟨after, hplace, hrun⟩ | ⟨-, e, hrun⟩
      · obtain ⟨target, hparse, hassign⟩ := (place?_eq_some_iff _ _ _).mp hplace
        obtain ⟨z, hz, -⟩ := Json.exists_keeps_of_assign? hassign hx
        obtain ⟨hleaf', hassigned⟩ := Json.leaf_of_assign? hassign hx hleaf hnull hz
        by_cases hz' : z = .null
        · obtain ⟨rfl, hvalue⟩ := hassigned hz'
          refine ⟨[], path, items, ?_, hparse, ?_⟩
          · rw [← hvalue]
            rfl
          · rw [← hvalue, attemptAll, hrun]
        · rw [attemptAll, hrun] at hy
          obtain ⟨before, path', rest, hitems, hparse', hok⟩ := ih hz hleaf' hz' hy
          refine ⟨(path, value) :: before, path', rest, ?_, hparse', ?_⟩
          · rw [hitems, List.cons_append]
          · rw [attemptAll, hrun]
            exact hok
      · rw [attemptAll, hrun] at hy
        obtain ⟨before, path', rest, hitems, hparse', hok⟩ := ih hx hleaf hnull hy
        refine ⟨(path, value) :: before, path', rest, ?_, hparse', ?_⟩
        · rw [hitems, List.cons_append]
        · rw [attemptAll, hrun]
          exact hok

/-- **Nothing is deleted and no container changes its kind**, whatever is folded in and whether or
not it succeeds, and no leaf but a null becomes a container. -/
theorem attemptAll_persistent {doc : Document} {route : List Segment} {x : Json}
    (hx : at? route (.obj doc) = some x) (items : List (String × PropertyValue)) :
    ∃ y, at? route (.obj (doc.attemptAll items)) = some y ∧
      (∀ members, x = .obj members →
        ∃ members', y = .obj members' ∧ Entries.keys members <+: Entries.keys members') ∧
      (∀ xs, x = .arr xs → ∃ ys, y = .arr ys ∧ xs.length ≤ ys.length) ∧
      (x.kind = .scalar ∨ x.kind = .null → y.kind = .mapping ∨ y.kind = .sequence →
        x = .null ∨
          ∃ before path after,
            items = before ++ (path, .null) :: after ∧ Path.parse path = .ok route ∧
              ((doc.attemptAll before).materialize path .null).2 = .ok ()) := by
  obtain ⟨y, hy, hkeeps⟩ := exists_keeps_of_attemptAll hx items
  refine ⟨y, hy, hkeeps.mapping, hkeeps.sequence, fun hleaf hcontainer => ?_⟩
  by_cases hnull : x = .null
  · exact Or.inl hnull
  · right
    have hx' : ¬ x.IsContainer := by
      rintro ⟨c, hc⟩
      rw [hc] at hleaf
      cases c <;> rcases hleaf with h | h <;> cases h
    have hy' : y.IsContainer := by
      rcases hcontainer with h | h
      · exact ⟨.mapping, h⟩
      · exact ⟨.sequence, h⟩
    exact exists_null_of_attemptAll hx hx' hnull hy hy'

/-- A scalar becomes a null and then a mapping, between two properties that fail; the keys of
the root stay in front. -/
theorem attemptAll_persistent_scalar_to_mapping :
    (∃ y, at? [.key "a"] (.obj (attemptAll [("a", .bool true), ("s", .arr [.null])]
        [("a.k", .null), ("a", .null), ("s.k", .null), ("a.k.2", .str "x"), ("b", .null)])) =
          some y ∧ y.kind = .mapping ∧
      ∃ before path after,
        [("a.k", .null), ("a", .null), ("s.k", .null), ("a.k.2", .str "x"), ("b", .null)] =
            before ++ (path, PropertyValue.null) :: after ∧
          Path.parse path = .ok [.key "a"]) ∧
    ["a", "s"] <+: Entries.keys (attemptAll [("a", .bool true), ("s", .arr [.null])]
      [("a.k", .null), ("a", .null), ("s.k", .null), ("a.k.2", .str "x"), ("b", .null)]) := by
  constructor
  · obtain ⟨y, hy, -, -, hescape⟩ :=
      @attemptAll_persistent [("a", .bool true), ("s", .arr [.null])] [.key "a"] (.bool true)
        rfl
        [("a.k", .null), ("a", .null), ("s.k", .null), ("a.k.2", .str "x"), ("b", .null)]
    have hkind : y.kind = .mapping := by
      cases hy
      rfl
    refine ⟨y, hy, hkind, ?_⟩
    rcases hescape (Or.inl rfl) (Or.inl hkind) with
      hnull | ⟨before, path, after, hitems, hparse, -⟩
    · cases hnull
    · exact ⟨before, path, after, hitems, hparse⟩
  · obtain ⟨y, hy, hmapping, -⟩ :=
      @attemptAll_persistent [("a", .bool true), ("s", .arr [.null])] [] _ rfl
        [("a.k", .null), ("a", .null), ("s.k", .null), ("a.k.2", .str "x"), ("b", .null)]
    obtain ⟨members, rfl, hkeys⟩ := hmapping _ rfl
    rw [Json.obj.inj (Option.some.inj hy)]
    exact hkeys

end Document

end VnfPayload
