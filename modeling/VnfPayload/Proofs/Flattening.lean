import VnfPayload.Proofs.Leaves

/-!
# Flattened documents

Flattening a document inserts its leaves one after the other under the text of their routes.

Main statements:

* `Document.flatten_eq_ofPairs` relates flattening to the leaves, for every document;
* `Document.entries_flatten` says that no leaf gets lost if no key has a dot;
* `Document.flatten_enumerates` says what a flattened document consists of.

Leaves whose routes have the same text share a property: it stands where the text came first,
with the value that came last.  That cannot be if no key has a dot, for then the pieces of the
text are the steps of the route.
-/

namespace VnfPayload

namespace PropertySet

/-- Inserting pairs one after the other is what `Entries.ofPairs` does. -/
theorem entries_ofPairs (pairs : List (String × PropertyValue)) :
    (ofPairs pairs).entries = Entries.ofPairs pairs := by
  have hfold : ∀ (ps : List (String × PropertyValue)) (set : PropertySet),
      (ps.foldl (fun s p => s.insert p.1 p.2) set).entries =
        ps.foldl (fun es p => Entries.insert es p.1 p.2) set.entries := by
    intro ps
    induction ps with
    | nil =>
        intro set
        rfl
    | cons p ps ih =>
        intro set
        rw [List.foldl_cons, ih]
        rfl
  exact hfold pairs empty

end PropertySet

namespace Document

/-- A leaf as a property: its value under the text of its route behind another one. -/
def labelled (route : List Segment) (l : List Segment × PropertyValue) :
    String × PropertyValue :=
  (Path.spell (route ++ l.1), l.2)

/-- Inserts properties one after the other. -/
def insertAll (out : PropertySet) (pairs : List (String × PropertyValue)) : PropertySet :=
  pairs.foldl (fun s p => s.insert p.1 p.2) out

theorem labelled_cons (route : List Segment) (s : Segment)
    (ls : List (List Segment × PropertyValue)) :
    (ls.map fun l => (s :: l.1, l.2)).map (labelled route) =
      ls.map (labelled (route ++ [s])) := by
  simp [labelled, Function.comp_def]

mutual

theorem flattenNode_eq (route : List Segment) (hne : route ≠ []) :
    ∀ (node : Json) (out : PropertySet),
      flattenNode (Path.spell route) node out =
        insertAll out ((Json.leaves node).map (labelled route))
  | .null, out | .bool _, out | .num _, out | .str _, out => by
      simp [flattenNode, Json.leaves, labelled, insertAll]
  | .arr items, out =>
      flattenItems_eq route hne items 0 out
  | .obj members, out =>
      flattenMembers_eq route hne members out

theorem flattenItems_eq (route : List Segment) (hne : route ≠ []) :
    ∀ (items : List Json) (position : Nat) (out : PropertySet),
      flattenItems (Path.spell route) position items out =
        insertAll out ((Json.leavesOfItems position items).map (labelled route))
  | [], _, _ => rfl
  | x :: items, position, out => by
      have hlabel : Path.spell route ++ "." ++ toString position =
          Path.spell (route ++ [.index position]) := by
        rw [Path.spell_append_singleton hne, Nat.toString_eq_ofList_toDigits]
        rfl
      rw [flattenItems, hlabel, flattenNode_eq _ (by simp), flattenItems_eq route hne,
        Json.leavesOfItems, List.map_append, labelled_cons, insertAll, insertAll, insertAll,
        List.foldl_append]

theorem flattenMembers_eq (route : List Segment) (hne : route ≠ []) :
    ∀ (members : List (String × Json)) (out : PropertySet),
      flattenMembers (Path.spell route) members out =
        insertAll out ((Json.leavesOfMembers members).map (labelled route))
  | [], _ => rfl
  | (k, x) :: members, out => by
      have hlabel : Path.spell route ++ "." ++ k = Path.spell (route ++ [.key k]) := by
        rw [Path.spell_append_singleton hne, Segment.chars, String.ofList_toList]
      rw [flattenMembers, hlabel, flattenNode_eq _ (by simp), flattenMembers_eq route hne,
        Json.leavesOfMembers, List.map_append, labelled_cons, insertAll, insertAll, insertAll,
        List.foldl_append]

end

theorem flattenInto_eq : ∀ (members : List (String × Json)) (out : PropertySet),
    flattenInto members out =
      insertAll out ((Json.leavesOfMembers members).map (labelled []))
  | [], _ => rfl
  | (k, x) :: members, out => by
      have hlabel : k = Path.spell [.key k] := by
        simp [Path.spell, Path.join, Segment.chars]
      rw [flattenInto, hlabel, flattenNode_eq _ (by simp), ← hlabel, flattenInto_eq,
        Json.leavesOfMembers, List.map_append, labelled_cons, List.nil_append, insertAll,
        insertAll, insertAll, List.foldl_append]

/-- The leaves of a document as properties. -/
def leafProperties (doc : Document) : List (String × PropertyValue) :=
  (Json.leaves (.obj doc)).map fun l => (Path.spell l.1, l.2)

/-- Flattening inserts the leaves under the text of their routes, in document order. -/
theorem flatten_eq_ofPairs (doc : Document) :
    doc.flatten = PropertySet.ofPairs doc.leafProperties :=
  flattenInto_eq doc .empty

/-- A document is no leaf itself. -/
theorem ne_nil_of_mem_leaves {doc : Document} {route : List Segment} {v : PropertyValue}
    (hl : (route, v) ∈ Json.leaves (.obj doc)) :
    route ≠ [] := by
  rintro rfl
  have hnode := (Json.nil_mem_leaves_iff _ _).mp hl
  cases v <;> cases hnode

/-- Leaves of a document without dots in its keys have different texts. -/
theorem nodup_keys_leafProperties {doc : Document} (hwf : (Json.obj doc).WellFormed)
    (hkeys : (Json.obj doc).EveryKey fun k => '.' ∉ k.toList) :
    (Entries.keys doc.leafProperties).Nodup := by
  have hkeysEq : Entries.keys doc.leafProperties =
      (Json.leaves (.obj doc)).map fun l => Path.spell l.1 := by
    simp [Entries.keys, leafProperties, Function.comp_def]
  rw [hkeysEq]
  -- The pieces of the texts are the routes as they are written, which differ.
  apply List.Nodup.of_map fun text => Path.pieces text.toList
  have hpieces : ((Json.leaves (.obj doc)).map fun l => Path.spell l.1).map
      (fun text => Path.pieces text.toList) =
        (Json.leaves (.obj doc)).map Json.written := by
    rw [List.map_map]
    apply List.map_congr_left
    rintro ⟨route, v⟩ hl
    exact Path.pieces_spell (ne_nil_of_mem_leaves hl) (Json.keysAre_of_mem_leaves hkeys hl)
  rw [hpieces]
  exact Json.nodup_written hwf

/-- No leaf gets lost if no key has a dot. -/
theorem entries_flatten {doc : Document} (hwf : (Json.obj doc).WellFormed)
    (hkeys : (Json.obj doc).EveryKey fun k => '.' ∉ k.toList) :
    doc.flatten.entries = doc.leafProperties := by
  rw [flatten_eq_ofPairs, PropertySet.entries_ofPairs,
    Entries.ofPairs_eq_self (nodup_keys_leafProperties hwf hkeys)]

/-- The pieces of a flattened key are the steps to its leaf, as they are written. -/
theorem forall₂_entries_flatten {doc : Document} (hwf : (Json.obj doc).WellFormed)
    (hkeys : (Json.obj doc).EveryKey fun k => '.' ∉ k.toList) :
    List.Forall₂ (fun e l => e.1.toList.splitOn '.' = l.1.map Segment.chars ∧ e.2 = l.2)
      doc.flatten.entries (Json.leaves (.obj doc)) := by
  rw [entries_flatten hwf hkeys, leafProperties, List.forall₂_map_left_iff, List.forall₂_same]
  rintro ⟨route, v⟩ hl
  refine ⟨?_, rfl⟩
  rw [← Path.pieces_eq_splitOn]
  exact Path.pieces_spell (ne_nil_of_mem_leaves hl) (Json.keysAre_of_mem_leaves hkeys hl)

/-- **What flattening lists**: the leaves in document order, each under the text of its route; if
no key has a dot then these texts are different. -/
theorem flatten_enumerates :
    (∀ doc : Document, (Json.obj doc).WellFormed →
      (∀ route v, (route, v) ∈ Json.leaves (.obj doc) ↔
        Json.at? route (.obj doc) = some v.toJson) ∧
      (Json.leaves (.obj doc)).Pairwise fun a b => Json.RouteBefore (.obj doc) a.1 b.1) ∧
    (∀ doc : Document, (Json.obj doc).WellFormed →
      ((Json.obj doc).EveryKey fun k => '.' ∉ k.toList) →
      List.Forall₂ (fun e l => e.1.toList.splitOn '.' = l.1.map Segment.chars ∧ e.2 = l.2)
          doc.flatten.entries (Json.leaves (.obj doc)) ∧
        (Entries.keys doc.flatten.entries).Nodup) ∧
    (∀ doc : Document,
      doc.flatten = PropertySet.ofPairs doc.leafProperties ∧
        Entries.keys doc.flatten.entries = (Entries.keys doc.leafProperties).eraseDups ∧
        ∀ key, doc.flatten.get? key = Entries.get? doc.leafProperties.reverse key) := by
  refine ⟨fun doc hwf => ⟨Json.mem_leaves_iff hwf, Json.pairwise_leaves hwf⟩,
    fun doc hwf hkeys => ⟨forall₂_entries_flatten hwf hkeys, ?_⟩, fun doc => ?_⟩
  · rw [entries_flatten hwf hkeys]
    exact nodup_keys_leafProperties hwf hkeys
  · have hentries : doc.flatten.entries = Entries.ofPairs doc.leafProperties := by
      rw [flatten_eq_ofPairs, PropertySet.entries_ofPairs]
    refine ⟨flatten_eq_ofPairs doc, ?_, fun key => ?_⟩
    · rw [hentries, Entries.keys_ofPairs]
    · rw [PropertySet.get?, hentries, Entries.get?_ofPairs]

/-- Empty keys and keys of digits are told apart from positions by their places.  Of two leaves
with one text the first gives the place and the second one the value. -/
theorem flatten_enumerates_same_text :
    List.Forall₂ (fun e l => e.1.toList.splitOn '.' = l.1.map Segment.chars ∧ e.2 = l.2)
        (flatten [("", .arr [.null, .obj [("07", .str "x")]]), ("a", .obj []),
          ("b", .bool true)]).entries
        [([.key "", .index 0], .null), ([.key "", .index 1, .key "07"], .str "x"),
          ([.key "b"], .bool true)] ∧
      Json.at? [.key "", .index 1, .key "07"]
        (.obj [("", .arr [.null, .obj [("07", .str "x")]]), ("a", .obj []),
          ("b", .bool true)]) = some (.str "x") ∧
      Entries.keys (flatten [("a", .obj [("b", .bool true)]), ("c", .null),
        ("a.b", .bool false)]).entries = ["a.b", "c"] ∧
      (flatten [("a", .obj [("b", .bool true)]), ("c", .null),
        ("a.b", .bool false)]).get? "a.b" = some (.bool false) := by
  have hwf : (Json.obj [("", .arr [.null, .obj [("07", .str "x")]]), ("a", .obj []),
      ("b", .bool true)]).WellFormed := by
    simp [Json.WellFormed, Json.WellFormedItems, Json.WellFormedMembers]
  have hkeys : (Json.obj [("", .arr [.null, .obj [("07", .str "x")]]), ("a", .obj []),
      ("b", .bool true)]).EveryKey fun k => '.' ∉ k.toList := by
    simp [Json.EveryKey, Json.EveryKeyOfItems, Json.EveryKeyOfMembers]
  have hlast := flatten_enumerates.2.2 [("a", .obj [("b", .bool true)]), ("c", .null),
    ("a.b", .bool false)]
  refine ⟨(flatten_enumerates.2.1 _ hwf hkeys).1, ?_, hlast.2.1, hlast.2.2 "a.b"⟩
  exact ((flatten_enumerates.1 _ hwf).1 _ (.str "x")).mp (by decide)

end Document

end VnfPayload
