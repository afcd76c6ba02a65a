import VnfPayload.Proofs.PathSteps
import VnfPayload.Proofs.Persistence
import VnfPayload.Proofs.Rebuild

/-!
# The documents that properties can make

A document made by folding properties into the empty one has no keys that a path cannot
spell, no empty containers below the root and no sequence that is longer than a path can
ask for.  All of it follows from where its nodes come from: `Document.origin_of_placeAll?`
says that each of them is an assigned value, a container on the way to one, or a null in
front of one.

These are the conditions under which nothing is lost when a document is flattened and folded
together again, so every such document is rebuilt from its own properties.
-/

namespace VnfPayload

namespace Json

/-! ## From the routes to the whole document -/

theorem sizeOf_lt_of_child? {s : Segment} {node x : Json} (h : child? s node = some x) :
    sizeOf x < sizeOf node := by
  cases s with
  | key k =>
      cases node with
      | obj members =>
          have hsize := List.sizeOf_lt_of_mem (Entries.mem_of_get? h)
          simp only [Prod.mk.sizeOf_spec] at hsize
          simp only [obj.sizeOf_spec]
          omega
      | _ =>
          cases h
  | index i =>
      cases node with
      | arr items =>
          have hsize := List.sizeOf_lt_of_mem (List.mem_of_getElem? h)
          simp only [arr.sizeOf_spec]
          omega
      | _ =>
          cases h

/-- Induction from the nodes that a step leads to. -/
theorem child_induction {motive : Json → Prop}
    (h : ∀ node, (∀ s x, child? s node = some x → motive x) → motive node) (node : Json) :
    motive node :=
  h node fun _ x hx =>
    have : sizeOf x < sizeOf node := sizeOf_lt_of_child? hx
    child_induction h x
termination_by sizeOf node

/-- In a well-formed mapping every entry is what its key leads to. -/
theorem child?_key_of_mem {members : List (String × Json)}
    (h : WellFormed (.obj members)) {k : String} {x : Json} (hmem : (k, x) ∈ members) :
    child? (.key k) (.obj members) = some x :=
  Entries.get?_of_mem h.1 hmem

theorem filledItems_iff (items : List Json) :
    FilledItems items ↔ ∀ x ∈ items, Filled x := by
  induction items with
  | nil =>
      simp [FilledItems]
  | cons x items ih =>
      simp [FilledItems, ih]

theorem filledMembers_iff (members : List (String × Json)) :
    FilledMembers members ↔ ∀ k x, (k, x) ∈ members → Filled x := by
  induction members with
  | nil =>
      simp [FilledMembers]
  | cons e members ih =>
      obtain ⟨key, y⟩ := e
      rw [FilledMembers, ih]
      constructor
      · rintro ⟨hy, hrest⟩ k x hmem
        rcases List.mem_cons.mp hmem with heq | hmem
        · cases heq
          exact hy
        · exact hrest k x hmem
      · intro h
        exact ⟨h key y List.mem_cons_self, fun k x hmem => h k x (List.mem_cons_of_mem _ hmem)⟩

/-- What holds of the keys on the way to each node holds of every key. -/
theorem everyKey_of_routes {P : String → Prop} {node : Json} (hwf : WellFormed node)
    (h : ∀ route x, at? route node = some x → Path.KeysAre P route) :
    EveryKey P node := by
  induction node using child_induction with
  | h node ih =>
      have hchild : ∀ s x, child? s node = some x → EveryKey P x := by
        intro s x hx
        refine ih s x hx (wellFormed_child? hwf hx) fun route y hy => ?_
        have hroute : at? (s :: route) node = some y := by
          rw [at?_cons, hx]
          exact hy
        exact (Path.keysAre_cons (h (s :: route) y hroute)).2
      cases node with
      | obj members =>
          refine (everyKeyOfMembers_iff P members).mpr fun k x hmem => ?_
          have hx := child?_key_of_mem hwf hmem
          refine ⟨?_, hchild (.key k) x hx⟩
          exact h [.key k] x (by simp [at?, hx]) k List.mem_cons_self
      | arr items =>
          refine (everyKeyOfItems_iff P items).mpr fun x hmem => ?_
          obtain ⟨i, hi⟩ := List.mem_iff_getElem?.mp hmem
          exact hchild (.index i) x hi
      | _ =>
          trivial

/-- If no route leads to an empty container then there is none. -/
theorem filled_of_routes {node : Json} (hwf : WellFormed node)
    (h : ∀ route, at? route node ≠ some (.obj []) ∧ at? route node ≠ some (.arr [])) :
    Filled node := by
  induction node using child_induction with
  | h node ih =>
      have hchild : ∀ s x, child? s node = some x → Filled x := by
        intro s x hx
        refine ih s x hx (wellFormed_child? hwf hx) fun route => ?_
        have hroute : at? (s :: route) node = at? route x := by
          rw [at?_cons, hx]
          rfl
        rw [← hroute]
        exact h (s :: route)
      obtain ⟨hobj, harr⟩ := h []
      cases node with
      | obj members =>
          refine ⟨fun hempty => hobj (by rw [hempty]; rfl), ?_⟩
          refine (filledMembers_iff members).mpr fun k x hmem => ?_
          exact hchild (.key k) x (child?_key_of_mem hwf hmem)
      | arr items =>
          refine ⟨fun hempty => harr (by rw [hempty]; rfl), ?_⟩
          refine (filledItems_iff items).mpr fun x hmem => ?_
          obtain ⟨i, hi⟩ := List.mem_iff_getElem?.mp hmem
          exact hchild (.index i) x hi
      | _ =>
          trivial

end Json

namespace Document

open Json (at? Origin)

/-! ## What properties make of nothing -/

variable {items : List (String × PropertyValue)} {after node : Json} {route : List Segment}

/-- The empty document has no node but its root. -/
theorem at?_empty {x : Json} (h : at? route (.obj []) = some x) : route = [] := by
  cases route with
  | nil =>
      rfl
  | cons s rest =>
      cases s <;> cases h

/-- A route that leads somewhere consists of steps that a path can name. -/
theorem steps_of_placeAll?_empty (h : placeAll? (.obj []) items = some after)
    (hnode : at? route after = some node) :
    Path.KeysAre Path.IsKey route ∧ ∀ s ∈ route, s.Within := by
  cases origin_of_placeAll? h hnode with
  | kept hroot =>
      rw [at?_empty hroot]
      exact ⟨fun k hk => absurd hk List.not_mem_nil, fun s hs => absurd hs List.not_mem_nil⟩
  | assigned v hwrites =>
      obtain ⟨path, -, hparse⟩ := hwrites
      exact ⟨Path.keysAre_of_parse hparse, Path.within_of_parse hparse⟩
  | passed s rest v hwrites =>
      obtain ⟨path, -, hparse⟩ := hwrites
      exact ⟨fun k hk => Path.keysAre_of_parse hparse k (List.mem_append_left _ hk),
        fun s hs => Path.within_of_parse hparse s (List.mem_append_left _ hs)⟩
  | padded before i j rest v hwrites hlt hroute =>
      obtain ⟨path, -, hparse⟩ := hwrites
      subst hroute
      constructor
      · intro k hk
        rcases List.mem_append.mp hk with hk | hk
        · exact Path.keysAre_of_parse hparse k (List.mem_append_left _ hk)
        · cases List.mem_singleton.mp hk
      · intro s hs
        rcases List.mem_append.mp hs with hs | hs
        · exact Path.within_of_parse hparse s (List.mem_append_left _ hs)
        · -- The filled position lies below one that is within the limit.
          have hi : i ≤ Path.maxIndex :=
            Path.within_of_parse hparse (.index i) (List.mem_append_right _ List.mem_cons_self)
          rw [List.mem_singleton.mp hs]
          exact Nat.le_trans (Nat.le_of_lt hlt) hi

/-- Every container below the root was made on the way to something. -/
theorem ne_empty_of_placeAll?_empty (h : placeAll? (.obj []) items = some after)
    (hroute : route ≠ []) :
    at? route after ≠ some (.obj []) ∧ at? route after ≠ some (.arr []) := by
  have hne : ∀ (c : ContainerKind), at? route after ≠ some c.empty := by
    intro c hnode
    exact hroute (at?_empty (origin_of_placeAll? h hnode).at?_eq_empty)
  exact ⟨hne .mapping, hne .sequence⟩

/-- No sequence is longer than a path can ask for. -/
theorem length_le_of_placeAll?_empty (h : placeAll? (.obj []) items = some after)
    {xs : List Json} (hnode : at? route after = some (.arr xs)) :
    xs.length ≤ Path.maxIndex + 1 := by
  cases hxs : xs.length with
  | zero =>
      exact Nat.zero_le _
  | succ n =>
      have hlast : at? (route ++ [.index n]) after = xs[n]? := by
        rw [Json.at?_append, hnode]
        simp [at?, Json.child?]
      have hn : n < xs.length := by
        omega
      rw [List.getElem?_eq_getElem hn] at hlast
      have hwithin := (steps_of_placeAll?_empty h hlast).2 (.index n) (by simp)
      exact Nat.succ_le_succ hwithin

/-- Sequences are made by positions only. -/
theorem exists_index_of_placeAll?_empty (h : placeAll? (.obj []) items = some after)
    {xs : List Json} (hnode : at? route after = some (.arr xs)) :
    ∃ item ∈ items, ∃ p, Path.parse item.1 = .ok p ∧ ∃ i, .index i ∈ p := by
  cases origin_of_placeAll? h hnode with
  | kept hroot =>
      rw [at?_empty hroot] at hroot
      cases hroot
  | assigned v hwrites heq =>
      cases v <;> cases heq
  | passed s rest v hwrites hkind =>
      obtain ⟨path, hmem, hparse⟩ := hwrites
      cases s with
      | key k =>
          cases hkind
      | index i =>
          exact ⟨(path, v), hmem, _, hparse, i, List.mem_append_right _ List.mem_cons_self⟩
  | padded before i j rest v hwrites hlt hroute hnull =>
      cases hnull

theorem wellFormed_of_placeAll?_empty (h : placeAll? (.obj []) items = some after) :
    after.WellFormed := by
  have hempty : (Json.obj []).WellFormed := ⟨List.nodup_nil, trivial⟩
  exact wellFormed_placeAll? hempty h

theorem everyKey_of_placeAll?_empty (h : placeAll? (.obj []) items = some after) :
    after.EveryKey Path.IsKey :=
  Json.everyKey_of_routes (wellFormed_of_placeAll?_empty h) fun _ _ hnode =>
    (steps_of_placeAll?_empty h hnode).1

theorem filledMembers_of_placeAll?_empty {doc : Document}
    (h : placeAll? (.obj []) items = some (.obj doc)) :
    Json.FilledMembers doc := by
  have hwf := wellFormed_of_placeAll?_empty h
  refine (Json.filledMembers_iff doc).mpr fun k x hmem => ?_
  have hx := Json.child?_key_of_mem hwf hmem
  refine Json.filled_of_routes (Json.wellFormed_child? hwf hx) fun route => ?_
  have hroute : at? (.key k :: route) (.obj doc) = at? route x := by
    rw [Json.at?_cons, hx]
    rfl
  rw [← hroute]
  exact ne_empty_of_placeAll?_empty h (List.cons_ne_nil _ _)

/-- A document whose keys, containers and positions are those of paths is rebuilt. -/
theorem materializeAll_flatten_of_filled {doc : Document} (hwf : (Json.obj doc).WellFormed)
    (hkeys : (Json.obj doc).EveryKey Path.IsKey) (hfilled : Json.FilledMembers doc)
    (hwithin : ∀ route x, at? route (.obj doc) = some x → ∀ s ∈ route, s.Within) :
    materializeAll [] doc.flatten.entries = (doc, .ok ()) := by
  have hleaves : ∀ l ∈ Json.leaves (.obj doc), ∀ s ∈ l.1, s.Within := by
    rintro ⟨route, v⟩ hl
    exact hwithin route v.toJson ((Json.mem_leaves_iff hwf route v).mp hl)
  have hentries : doc.flatten.entries = spelled (Json.leaves (.obj doc)) :=
    entries_flatten hwf (Json.everyKey_mono (fun k hk => hk.2.1) hkeys)
  have hassign := Json.assignAll?_leavesOfMembers hwf.2 [] (by simpa using hwf.1)
  rw [hentries, materializeAll_eq_ok_iff, placeAll?_spelled (spellable_leaves hkeys) hleaves,
    Json.leaves, hassign, Json.pruneMembers_of_filled hfilled, List.nil_append]

/-- **Documents made of properties are rebuilt from their properties**: a path can spell all their
keys, and they have no empty containers below the root and no long sequences. -/
theorem attemptAll_rebuildable (items : List (String × PropertyValue)) :
    (Json.obj (attemptAll [] items)).EveryKey Path.IsKey ∧
      Json.FilledMembers (attemptAll [] items) ∧
      (∀ route xs, at? route (.obj (attemptAll [] items)) = some (.arr xs) →
        xs.length ≤ 4097) ∧
      ((∀ item ∈ items, ∀ p, Path.parse item.1 = .ok p → ∀ i, .index i ∉ p) →
        ∀ route xs, at? route (.obj (attemptAll [] items)) ≠ some (.arr xs)) ∧
      materializeAll [] (attemptAll [] items).flatten.entries =
        (attemptAll [] items, .ok ()) := by
  obtain ⟨done, hsub, hdone⟩ := exists_sublist_attemptAll [] items
  have hkeys := everyKey_of_placeAll?_empty hdone
  have hfilled := filledMembers_of_placeAll?_empty hdone
  refine ⟨hkeys, hfilled, fun route xs => length_le_of_placeAll?_empty hdone, ?_, ?_⟩
  · intro hnone route xs hnode
    obtain ⟨item, hmem, p, hparse, i, hi⟩ := exists_index_of_placeAll?_empty hdone hnode
    exact hnone item (hsub.subset hmem) p hparse i hi
  · exact materializeAll_flatten_of_filled (wellFormed_of_placeAll?_empty hdone) hkeys hfilled
      fun route x hnode => (steps_of_placeAll?_empty hdone hnode).2

/-- A run with two failures, a null that becomes a mapping and a gap in a sequence; and one
without positions. -/
theorem attemptAll_rebuildable_gap :
    materializeAll [] (attemptAll [] [("a", .null), ("a.", .null), ("a.k.2", .bool true),
        ("a.0", .null), ("b", .str "")]).flatten.entries =
      ([("a", .obj [("k", .arr [.null, .null, .bool true])]), ("b", .str "")], .ok ()) ∧
    ∀ route xs, at? route (.obj (attemptAll [] [("a.k", .null), ("a..0", .null)])) ≠
      some (.arr xs) := by
  constructor
  · exact (attemptAll_rebuildable [("a", .null), ("a.", .null), ("a.k.2", .bool true),
      ("a.0", .null), ("b", .str "")]).2.2.2.2
  · refine (attemptAll_rebuildable [("a.k", .null), ("a..0", .null)]).2.2.2.1 ?_
    have hkeys : Path.parse "a.k" = .ok [.key "a", .key "k"] := rfl
    have hempty : Path.parse "a..0" = .error .emptySegment := rfl
    simp [hkeys, hempty]

end Document

end VnfPayload
