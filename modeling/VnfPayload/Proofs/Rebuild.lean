import VnfPayload.Proofs.Flattening

/-!
# Rebuilding a document from its leaves

Flattening a document and folding the properties into an empty one gives the document
back, short of what has no leaf in it: `Document.prune` says what is left of it.

A leafless container leaves no trace of its own.  In a mapping its key is gone.  In a
sequence its position is filled with a null by the next item that has a leaf, and there
is no such item behind the last ones.

The proof follows the document.  `Json.assignAll?_leaves` says what the leaves of a node
make of a null; between the members of a mapping, and between the items of a sequence, it
needs to know what the half-built container looks like, which `assignAll?_leavesOfMembers`
and `assignAll?_leavesOfItems` state for an accumulated beginning.
-/

namespace VnfPayload

namespace Json

mutual

/-- No scalar and no null lies in the node. -/
def leafless : Json → Bool
  | .obj members => leaflessMembers members
  | .arr items => leaflessItems items
  | _ => false

/-- All items are leafless. -/
def leaflessItems : List Json → Bool
  | [] => true
  | x :: rest => leafless x && leaflessItems rest

/-- The values of all members are leafless. -/
def leaflessMembers : List (String × Json) → Bool
  | [] => true
  | (_, x) :: rest => leafless x && leaflessMembers rest

end

mutual

/-- What is left of a node without its leafless containers. -/
def prune : Json → Json
  | .obj members => .obj (pruneMembers members)
  | .arr items => .arr (pruneItems items)
  | node => node

/-- Leafless items at the end are dropped, all others become null. -/
def pruneItems : List Json → List Json
  | [] => []
  | x :: rest =>
      if leaflessItems (x :: rest) then []
      else (if leafless x then .null else prune x) :: pruneItems rest

/-- Members with leafless values are dropped. -/
def pruneMembers : List (String × Json) → List (String × Json)
  | [] => []
  | (k, x) :: rest =>
      if leafless x then pruneMembers rest else (k, prune x) :: pruneMembers rest

end

mutual

/-- No container of the node is empty. -/
def Filled : Json → Prop
  | .obj members => members ≠ [] ∧ FilledMembers members
  | .arr items => items ≠ [] ∧ FilledItems items
  | _ => True

/-- No container of the items is empty. -/
def FilledItems : List Json → Prop
  | [] => True
  | x :: rest => Filled x ∧ FilledItems rest

/-- No container of the members' values is empty. -/
def FilledMembers : List (String × Json) → Prop
  | [] => True
  | (_, x) :: rest => Filled x ∧ FilledMembers rest

end

/-- The node after assignments at several routes, one after the other. -/
def assignAll? (ls : List (List Segment × PropertyValue)) (node : Json) : Option Json :=
  ls.foldlM (fun node l => assign? l.2 l.1 node) node

@[simp] theorem assignAll?_nil (node : Json) :
    assignAll? [] node = some node := rfl

theorem assignAll?_cons (l : List Segment × PropertyValue)
    (ls : List (List Segment × PropertyValue)) (node : Json) :
    assignAll? (l :: ls) node = (assign? l.2 l.1 node).bind (assignAll? ls) := rfl

theorem assignAll?_append (ls ls' : List (List Segment × PropertyValue)) (node : Json) :
    assignAll? (ls ++ ls') node = (assignAll? ls node).bind (assignAll? ls') :=
  List.foldlM_append

/-! ## Nodes without leaves -/

mutual

theorem leaves_eq_nil_iff : ∀ node : Json, leaves node = [] ↔ leafless node = true
  | .null | .bool _ | .num _ | .str _ => by
      simp [leaves, leafless]
  | .arr items => by
      simpa [leaves, leafless] using leavesOfItems_eq_nil_iff items 0
  | .obj members => by
      simpa [leaves, leafless] using leavesOfMembers_eq_nil_iff members

theorem leavesOfItems_eq_nil_iff : ∀ (items : List Json) (position : Nat),
    leavesOfItems position items = [] ↔ leaflessItems items = true
  | [], _ => by
      simp [leavesOfItems, leaflessItems]
  | x :: items, position => by
      simp [leavesOfItems, leaflessItems, leaves_eq_nil_iff x,
        leavesOfItems_eq_nil_iff items (position + 1)]

theorem leavesOfMembers_eq_nil_iff : ∀ members : List (String × Json),
    leavesOfMembers members = [] ↔ leaflessMembers members = true
  | [] => by
      simp [leavesOfMembers, leaflessMembers]
  | (_, x) :: members => by
      simp [leavesOfMembers, leaflessMembers, leaves_eq_nil_iff x,
        leavesOfMembers_eq_nil_iff members]

end

theorem pruneItems_of_leafless {items : List Json} (h : leaflessItems items = true) :
    pruneItems items = [] := by
  cases items with
  | nil =>
      rfl
  | cons x items =>
      rw [pruneItems, if_pos h]

mutual

/-- A node without empty containers has a leaf. -/
theorem leafless_of_filled : ∀ {node : Json}, Filled node → leafless node = false
  | .null, _ | .bool _, _ | .num _, _ | .str _, _ => rfl
  | .arr [], h => absurd rfl h.1
  | .arr (x :: items), h => by
      simp [leafless, leaflessItems, leafless_of_filled h.2.1]
  | .obj [], h => absurd rfl h.1
  | .obj ((_, x) :: members), h => by
      simp [leafless, leaflessMembers, leafless_of_filled h.2.1]

end

mutual

/-- Nothing is lost of a node without empty containers. -/
theorem prune_of_filled : ∀ {node : Json}, Filled node → prune node = node
  | .null, _ | .bool _, _ | .num _, _ | .str _, _ => rfl
  | .arr items, h => by
      rw [prune, pruneItems_of_filled h.2]
  | .obj members, h => by
      rw [prune, pruneMembers_of_filled h.2]

theorem pruneItems_of_filled : ∀ {items : List Json}, FilledItems items →
    pruneItems items = items
  | [], _ => rfl
  | x :: items, h => by
      have hx := leafless_of_filled h.1
      simp [pruneItems, leaflessItems, hx, prune_of_filled h.1, pruneItems_of_filled h.2]

theorem pruneMembers_of_filled : ∀ {members : List (String × Json)},
    FilledMembers members → pruneMembers members = members
  | [], _ => rfl
  | (k, x) :: members, h => by
      have hx := leafless_of_filled h.1
      simp [pruneMembers, hx, prune_of_filled h.1, pruneMembers_of_filled h.2]

end

/-! ## Assigning the leaves -/

/-- Assignments behind one step are made inside its slot. -/
theorem assignAll?_map_cons (s : Segment) {ls : List (List Segment × PropertyValue)}
    (hne : ls ≠ []) (node : Json) :
    assignAll? (ls.map fun l => (s :: l.1, l.2)) node =
      (slot? s node).bind fun x => (assignAll? ls x).map (put s node) := by
  induction ls generalizing node with
  | nil =>
      exact absurd rfl hne
  | cons l ls ih =>
      rw [List.map_cons, assignAll?_cons, assign?]
      cases hx : slot? s node with
      | none =>
          rfl
      | some x =>
          have hadmits := admits_of_slot? hx
          cases hy : assign? l.2 l.1 x with
          | none =>
              simp [assignAll?_cons, hy]
          | some y =>
              cases ls with
              | nil =>
                  simp [assignAll?_cons, hy]
              | cons l' ls =>
                  have hput : put s (put s node y) = put s node := funext (put_put s node y)
                  have htail := ih (by simp) (put s node y)
                  rw [slot?_put_self hadmits, hput] at htail
                  simpa [assignAll?_cons l, hy] using htail

/-- A null counts as the container that the first step asks for. -/
theorem assignAll?_null (s : Segment) (rest : List Segment) (v : PropertyValue)
    (ls : List (List Segment × PropertyValue)) :
    assignAll? ((s :: rest, v) :: ls) .null =
      assignAll? ((s :: rest, v) :: ls) s.container.empty := by
  have hslot : slot? s s.container.empty = some .null := by
    cases s <;> rfl
  have hput : put s .null = put s s.container.empty := by
    cases s <;> rfl
  simp only [assignAll?_cons, assign?, hslot, slot?_null, hput]

theorem slot?_key_of_notMem {members : List (String × Json)} {k : String}
    (h : k ∉ Entries.keys members) :
    slot? (.key k) (.obj members) = some .null := by
  have hget : Entries.get? members k = none := (Entries.get?_eq_none_iff members k).mpr h
  simp [slot?, Admits, kind, Segment.container, ContainerKind.node, child?, hget]

theorem slot?_index_of_length_le {items : List Json} {i : Nat} (h : items.length ≤ i) :
    slot? (.index i) (.arr items) = some .null := by
  simp [slot?, Admits, kind, Segment.container, ContainerKind.node, child?, h]

mutual

/-- What the leaves of a node make of a null. -/
theorem assignAll?_leaves : ∀ {node : Json}, WellFormed node →
    assignAll? (leaves node) .null = some (if leafless node then .null else prune node)
  | .null, _ | .bool _, _ | .num _, _ | .str _, _ => rfl
  | .arr items, h => by
      rw [leaves, leafless, prune]
      cases hls : leavesOfItems 0 items with
      | nil =>
          rw [(leavesOfItems_eq_nil_iff items 0).mp hls]
          rfl
      | cons l ls =>
          have hleaf : leaflessItems items = false := by
            rw [Bool.eq_false_iff]
            intro hnone
            rw [(leavesOfItems_eq_nil_iff items 0).mpr hnone] at hls
            cases hls
          obtain ⟨route, v⟩ := l
          obtain ⟨i, x, rest, -, -, rfl⟩ :=
            (mem_leavesOfItems items 0 route v).mp (hls ▸ List.mem_cons_self)
          rw [assignAll?_null, ← hls]
          have hitems := assignAll?_leavesOfItems h [] (Nat.zero_le 0)
          simpa [Segment.container, ContainerKind.empty, hleaf] using hitems
  | .obj members, h => by
      rw [leaves, leafless, prune]
      cases hls : leavesOfMembers members with
      | nil =>
          rw [(leavesOfMembers_eq_nil_iff members).mp hls]
          rfl
      | cons l ls =>
          have hleaf : leaflessMembers members = false := by
            rw [Bool.eq_false_iff]
            intro hnone
            rw [(leavesOfMembers_eq_nil_iff members).mpr hnone] at hls
            cases hls
          obtain ⟨route, v⟩ := l
          obtain ⟨k, x, rest, -, -, rfl⟩ :=
            (mem_leavesOfMembers members route v).mp (hls ▸ List.mem_cons_self)
          rw [assignAll?_null, ← hls]
          have hmembers := assignAll?_leavesOfMembers h.2 [] (by simpa using h.1)
          simpa [Segment.container, ContainerKind.empty, hleaf] using hmembers

/-- The leaves of items that follow a half-built sequence: up to the first position with a
leaf it is filled up with nulls. -/
theorem assignAll?_leavesOfItems : ∀ {items : List Json}, WellFormedItems items →
    ∀ (acc : List Json) {position : Nat}, acc.length ≤ position →
      assignAll? (leavesOfItems position items) (.arr acc) =
        some (.arr (acc ++
          if leaflessItems items then []
          else List.replicate (position - acc.length) .null ++ pruneItems items))
  | [], _, acc, position, _ => by
      simp [leavesOfItems, leaflessItems]
  | x :: items, h, acc, position, hle => by
      rw [leavesOfItems, assignAll?_append]
      cases hx : leafless x with
      | true =>
          have hnil := (leaves_eq_nil_iff x).mpr hx
          have hrest := assignAll?_leavesOfItems h.2 acc (Nat.le_succ_of_le hle)
          have hpad : position + 1 - acc.length = position - acc.length + 1 := by
            omega
          cases hitems : leaflessItems items <;>
            simp [hnil, hrest, leaflessItems, hx, hitems, pruneItems, hpad,
              List.replicate_succ']
      | false =>
          have hne : leaves x ≠ [] := by
            simp [leaves_eq_nil_iff, hx]
          have hslot := slot?_index_of_length_le hle
          have hx' : assignAll? ((leaves x).map fun l => (.index position :: l.1, l.2))
              (.arr acc) =
                some (.arr (acc ++ List.replicate (position - acc.length) .null ++
                  [prune x])) := by
            rw [assignAll?_map_cons _ hne, hslot]
            simp [assignAll?_leaves h.1, hx, put, putAt_of_length_le hle]
          have hlength :
              (acc ++ List.replicate (position - acc.length) Json.null ++
                [prune x]).length = position + 1 := by
            simp
            omega
          have hrest := assignAll?_leavesOfItems h.2 _ (Nat.le_of_eq hlength)
          rw [hx', Option.bind_some, hrest, hlength]
          cases hitems : leaflessItems items with
          | true =>
              simp [leaflessItems, hx, pruneItems, pruneItems_of_leafless hitems]
          | false =>
              simp [leaflessItems, hx, hitems, pruneItems]

/-- The leaves of members that follow a half-built mapping. -/
theorem assignAll?_leavesOfMembers : ∀ {members : List (String × Json)},
    WellFormedMembers members → ∀ (acc : List (String × Json)),
      (Entries.keys acc ++ Entries.keys members).Nodup →
      assignAll? (leavesOfMembers members) (.obj acc) =
        some (.obj (acc ++ pruneMembers members))
  | [], _, acc, _ => by
      simp [leavesOfMembers, pruneMembers]
  | (k, x) :: members, h, acc, hkeys => by
      rw [leavesOfMembers, assignAll?_append]
      have hk : k ∉ Entries.keys acc := by
        intro hmem
        exact (List.nodup_append.mp hkeys).2.2 k hmem k (by simp) rfl
      cases hx : leafless x with
      | true =>
          have hnil := (leaves_eq_nil_iff x).mpr hx
          have hrest := assignAll?_leavesOfMembers h.2 acc (hkeys.sublist (by simp))
          simp [hnil, hrest, pruneMembers, hx]
      | false =>
          have hne : leaves x ≠ [] := by
            simp [leaves_eq_nil_iff, hx]
          have hslot := slot?_key_of_notMem hk
          have hrest := assignAll?_leavesOfMembers h.2 (acc ++ [(k, prune x)])
            (by simpa [Entries.keys] using hkeys)
          rw [assignAll?_map_cons _ hne, hslot]
          simp [assignAll?_leaves h.1, hx, put, Entries.insert_of_notMem hk, hrest,
            pruneMembers]

end

end Json

namespace Document

open Json (assign? assignAll? at?)

/-- What is left of a document without its leafless containers. -/
def prune (doc : Document) : Document :=
  Json.pruneMembers doc

/-- Routes as properties whose keys are the texts of the routes. -/
def spelled (ls : List (List Segment × PropertyValue)) : List (String × PropertyValue) :=
  ls.map fun l => (Path.spell l.1, l.2)

/-- Routes that a path can spell, short of positions that are too large. -/
def Spellable (ls : List (List Segment × PropertyValue)) : Prop :=
  ∀ l ∈ ls, l.1 ≠ [] ∧ Path.KeysAre Path.IsKey l.1

theorem place?_spell {route : List Segment} (hne : route ≠ [])
    (hkeys : Path.KeysAre Path.IsKey route) (h : ∀ s ∈ route, s.Within)
    (v : PropertyValue) (root : Json) :
    place? root (Path.spell route, v) = assign? v route root := by
  simp [place?, Path.parse_spell hne hkeys h]

/-- Folding in spelled routes is assigning at the routes, if no position is too large. -/
theorem placeAll?_spelled {ls : List (List Segment × PropertyValue)} (hls : Spellable ls)
    (h : ∀ l ∈ ls, ∀ s ∈ l.1, s.Within) (root : Json) :
    placeAll? root (spelled ls) = assignAll? ls root := by
  induction ls generalizing root with
  | nil =>
      rfl
  | cons l ls ih =>
      obtain ⟨hne, hkeys⟩ := hls l List.mem_cons_self
      have hhead := place?_spell hne hkeys (h l List.mem_cons_self) l.2 root
      have htail := ih (fun l' hl' => hls l' (List.mem_cons_of_mem _ hl'))
        fun l' hl' => h l' (List.mem_cons_of_mem _ hl')
      rw [spelled, List.map_cons, placeAll?_cons, hhead, Json.assignAll?_cons]
      exact congrArg _ (funext htail)

/-- If a position is too large, folding in spelled routes stops at the first such route,
provided that nothing else stands in the way. -/
theorem materializeAll_spelled_of_exceeds {ls : List (List Segment × PropertyValue)}
    (hls : Spellable ls) (h : ∃ l ∈ ls, ∃ s ∈ l.1, ¬ s.Within) {doc : Document}
    {after : Json} (hassign : assignAll? ls (.obj doc) = some after) :
    ∃ path fault,
      (doc.materializeAll (spelled ls)).2 = .error (.malformedPath path fault) := by
  induction ls generalizing doc with
  | nil =>
      obtain ⟨l, hl, -⟩ := h
      cases hl
  | cons l ls ih =>
      obtain ⟨hne, hkeys⟩ := hls l List.mem_cons_self
      obtain ⟨route, v⟩ := l
      by_cases hroute : ∀ s ∈ route, s.Within
      · have hrest : ∃ l ∈ ls, ∃ s ∈ l.1, ¬ s.Within := by
          obtain ⟨l', hl', s, hs, hexceeds⟩ := h
          rcases List.mem_cons.mp hl' with rfl | hmem
          · exact absurd (hroute s hs) hexceeds
          · exact ⟨l', hmem, s, hs, hexceeds⟩
        obtain ⟨between, hhead, htail⟩ := Option.bind_eq_some_iff.mp hassign
        obtain ⟨found, rfl⟩ := Json.assign?_obj hhead
        have hrun : doc.materialize (Path.spell route) v = (found, .ok ()) := by
          rw [materialize_eq_ok_iff, place?_spell hne hkeys hroute]
          exact hhead
        obtain ⟨path, fault, hfault⟩ :=
          ih (fun l' hl' => hls l' (List.mem_cons_of_mem _ hl')) hrest htail
        refine ⟨path, fault, ?_⟩
        rw [← hfault, spelled, List.map_cons, materializeAll, hrun]
        rfl
      · obtain ⟨piece, hparse⟩ := Path.parse_spell_of_exceeds hne hkeys (by simpa using hroute)
        refine ⟨Path.spell route, .indexTooLarge piece, ?_⟩
        simp [spelled, materializeAll, materialize, hparse]

/-- The routes of a document's leaves can be spelled if its keys can. -/
theorem spellable_leaves {doc : Document} (hkeys : (Json.obj doc).EveryKey Path.IsKey) :
    Spellable (Json.leaves (.obj doc)) := by
  rintro ⟨route, v⟩ hl
  refine ⟨?_, Json.keysAre_of_mem_leaves hkeys hl⟩
  rintro rfl
  have hnode := (Json.nil_mem_leaves_iff _ _).mp hl
  cases v <;> cases hnode

/-- **A document is rebuilt from its leaves**, short of leafless containers, exactly if no leaf
stands at or below a position larger than 4096; otherwise a path is malformed. -/
theorem materializeAll_flatten {doc : Document} (hwf : (Json.obj doc).WellFormed)
    (hkeys : (Json.obj doc).EveryKey Path.IsKey) :
    ((materializeAll [] doc.flatten.entries).2 = .ok () ↔
        ∀ (route : List Segment) (v : PropertyValue),
          at? route (.obj doc) = some v.toJson → ∀ i, .index i ∈ route → i ≤ 4096)
      ∧
    ((materializeAll [] doc.flatten.entries).2 = .ok () →
        (materializeAll [] doc.flatten.entries).1 = doc.prune)
      ∧
    (∀ e, (materializeAll [] doc.flatten.entries).2 = .error e →
        ∃ path fault, e = .malformedPath path fault)
      ∧
    (Json.FilledMembers doc → doc.prune = doc) := by
  have hentries : doc.flatten.entries = spelled (Json.leaves (.obj doc)) :=
    entries_flatten hwf (Json.everyKey_mono (fun k hk => hk.2.1) hkeys)
  have hspellable := spellable_leaves hkeys
  have hassign : assignAll? (Json.leaves (.obj doc)) (.obj []) = some (.obj doc.prune) :=
    Json.assignAll?_leavesOfMembers hwf.2 [] (by simpa using hwf.1)
  have hlimit : (∀ (route : List Segment) (v : PropertyValue),
      at? route (.obj doc) = some v.toJson → ∀ i, .index i ∈ route → i ≤ 4096) ↔
        ∀ l ∈ Json.leaves (.obj doc), ∀ s ∈ l.1, s.Within := by
    constructor
    · rintro h ⟨route, v⟩ hl s hs
      cases s with
      | key k =>
          trivial
      | index i =>
          exact h route v ((Json.mem_leaves_iff hwf route v).mp hl) i hs
    · intro h route v hat i hi
      exact h (route, v) ((Json.mem_leaves_iff hwf route v).mpr hat) (.index i) hi
  rw [hentries, hlimit]
  by_cases hwithin : ∀ l ∈ Json.leaves (.obj doc), ∀ s ∈ l.1, s.Within
  · have hrun :
        materializeAll [] (spelled (Json.leaves (.obj doc))) = (doc.prune, .ok ()) := by
      rw [materializeAll_eq_ok_iff, placeAll?_spelled hspellable hwithin, hassign]
    rw [hrun]
    refine ⟨⟨fun _ => hwithin, fun _ => rfl⟩, fun _ => rfl, ?_,
      Json.pruneMembers_of_filled⟩
    intro e he
    cases he
  · obtain ⟨path, fault, hrun⟩ :=
      materializeAll_spelled_of_exceeds hspellable (by simpa using hwithin) hassign
    rw [hrun]
    refine ⟨⟨fun h => (by cases h), fun h => absurd h hwithin⟩, fun h => (by cases h), ?_,
      Json.pruneMembers_of_filled⟩
    intro e he
    cases he
    exact ⟨path, fault, rfl⟩

/-- Empty containers at every kind of place. -/
theorem materializeAll_flatten_empty_containers :
    (Json.obj [("b", .arr [.obj [], .bool true, .arr []]), ("a", .obj [("x", .obj [])]),
        ("c", .obj [("k", .null)])]).WellFormed ∧
      materializeAll [] (flatten [("b", .arr [.obj [], .bool true, .arr []]),
          ("a", .obj [("x", .obj [])]), ("c", .obj [("k", .null)])]).entries =
        ([("b", .arr [.null, .bool true]), ("c", .obj [("k", .null)])], .ok ()) := by
  have hwf : (Json.obj [("b", .arr [.obj [], .bool true, .arr []]),
      ("a", .obj [("x", .obj [])]), ("c", .obj [("k", .null)])]).WellFormed := by
    simp [Json.WellFormed, Json.WellFormedMembers, Json.WellFormedItems]
  have hkeys : (Json.obj [("b", .arr [.obj [], .bool true, .arr []]),
      ("a", .obj [("x", .obj [])]), ("c", .obj [("k", .null)])]).EveryKey Path.IsKey := by
    simp [Json.EveryKey, Json.EveryKeyOfMembers, Json.EveryKeyOfItems, Path.IsKey]
  have h := materializeAll_flatten hwf hkeys
  refine ⟨hwf, Prod.ext (h.2.1 rfl) rfl⟩

end Document

end VnfPayload
