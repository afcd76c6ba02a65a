import VnfPayload.Proofs.PathText
import VnfPayload.Proofs.WellFormed
import Mathlib.Data.List.Nodup

/-!
# The leaves of a document

`Json.leaves` lists the scalars and nulls of a node in depth-first order, each with the
route that leads to it.

Main statements:

* `Json.mem_leaves_iff` says that the leaves are the scalars and nulls that routes lead to;
* `Json.pairwise_leaves` says that they come in document order, in which one route comes before
  another one if its step is the earlier one where they part;
* `Json.nodup_written` says that their routes are written differently, step by step.
-/

namespace VnfPayload

namespace Json

mutual

/-- The scalars and nulls of a node with their routes, in depth-first order. -/
def leaves : Json → List (List Segment × PropertyValue)
  | .obj members => leavesOfMembers members
  | .arr items => leavesOfItems 0 items
  | .null => [([], .null)]
  | .bool b => [([], .bool b)]
  | .num n => [([], .num n)]
  | .str s => [([], .str s)]

/-- The leaves of the members of a mapping. -/
def leavesOfMembers : List (String × Json) → List (List Segment × PropertyValue)
  | [] => []
  | (k, x) :: rest =>
      (leaves x).map (fun l => (.key k :: l.1, l.2)) ++ leavesOfMembers rest

/-- The leaves of the items of a sequence, the first of which stands at `position`. -/
def leavesOfItems (position : Nat) : List Json → List (List Segment × PropertyValue)
  | [] => []
  | x :: rest =>
      (leaves x).map (fun l => (.index position :: l.1, l.2)) ++
        leavesOfItems (position + 1) rest

end

mutual

/-- Every key of every mapping has a property. -/
def EveryKey (P : String → Prop) : Json → Prop
  | .arr items => EveryKeyOfItems P items
  | .obj members => EveryKeyOfMembers P members
  | _ => True

/-- Every key in every item has a property. -/
def EveryKeyOfItems (P : String → Prop) : List Json → Prop
  | [] => True
  | x :: rest => EveryKey P x ∧ EveryKeyOfItems P rest

/-- Every key of the members and in their values has a property. -/
def EveryKeyOfMembers (P : String → Prop) : List (String × Json) → Prop
  | [] => True
  | (k, x) :: rest => P k ∧ EveryKey P x ∧ EveryKeyOfMembers P rest

end

/-! ## Leaves and routes -/

theorem mem_leavesOfMembers (members : List (String × Json)) (route : List Segment)
    (v : PropertyValue) :
    (route, v) ∈ leavesOfMembers members ↔
      ∃ k x rest, (k, x) ∈ members ∧ (rest, v) ∈ leaves x ∧ route = .key k :: rest := by
  induction members with
  | nil =>
      simp [leavesOfMembers]
  | cons e members ih =>
      obtain ⟨key, y⟩ := e
      rw [leavesOfMembers, List.mem_append, List.mem_map, ih]
      constructor
      · rintro (⟨⟨rest, w⟩, hl, heq⟩ | ⟨k, x, rest, hmem, hl, rfl⟩)
        · cases heq
          exact ⟨key, y, rest, List.mem_cons_self, hl, rfl⟩
        · exact ⟨k, x, rest, List.mem_cons_of_mem _ hmem, hl, rfl⟩
      · rintro ⟨k, x, rest, hmem, hl, rfl⟩
        rcases List.mem_cons.mp hmem with heq | hmem
        · cases heq
          exact Or.inl ⟨_, hl, rfl⟩
        · exact Or.inr ⟨k, x, rest, hmem, hl, rfl⟩

theorem mem_leavesOfItems (items : List Json) (position : Nat) (route : List Segment)
    (v : PropertyValue) :
    (route, v) ∈ leavesOfItems position items ↔
      ∃ i x rest, items[i]? = some x ∧ (rest, v) ∈ leaves x ∧
        route = .index (position + i) :: rest := by
  induction items generalizing position with
  | nil =>
      simp [leavesOfItems]
  | cons y items ih =>
      rw [leavesOfItems, List.mem_append, List.mem_map, ih]
      constructor
      · rintro (⟨⟨rest, w⟩, hl, heq⟩ | ⟨i, x, rest, hget, hl, rfl⟩)
        · cases heq
          exact ⟨0, y, rest, rfl, hl, rfl⟩
        · exact ⟨i + 1, x, rest, hget, hl, by rw [Nat.add_assoc, Nat.add_comm 1]⟩
      · rintro ⟨i, x, rest, hget, hl, rfl⟩
        cases i with
        | zero =>
            cases hget
            exact Or.inl ⟨_, hl, rfl⟩
        | succ i =>
            exact Or.inr ⟨i, x, rest, hget, hl, by rw [Nat.add_assoc, Nat.add_comm 1]⟩

theorem leaves_toJson (v : PropertyValue) :
    leaves v.toJson = [([], v)] := by
  cases v <;> rfl

/-- A leaf at the node itself is all that there is of the node. -/
theorem nil_mem_leaves_iff (node : Json) (v : PropertyValue) :
    ([], v) ∈ leaves node ↔ node = v.toJson := by
  constructor
  · intro h
    cases node with
    | obj members =>
        obtain ⟨k, x, rest, -, -, heq⟩ := (mem_leavesOfMembers _ _ _).mp h
        cases heq
    | arr items =>
        obtain ⟨i, x, rest, -, -, heq⟩ := (mem_leavesOfItems _ _ _ _).mp h
        cases heq
    | _ =>
        cases List.mem_singleton.mp h
        rfl
  · rintro rfl
    simp [leaves_toJson]

/-- The leaves behind a step are those of the node that it leads to. -/
theorem cons_mem_leaves_iff {node : Json} (h : WellFormed node) (s : Segment)
    (route : List Segment) (v : PropertyValue) :
    (s :: route, v) ∈ leaves node ↔
      ∃ x, child? s node = some x ∧ (route, v) ∈ leaves x := by
  cases node with
  | obj members =>
      rw [leaves, mem_leavesOfMembers]
      constructor
      · rintro ⟨k, x, rest, hmem, hl, heq⟩
        cases heq
        exact ⟨x, Entries.get?_of_mem h.1 hmem, hl⟩
      · rintro ⟨x, hchild, hl⟩
        cases s with
        | key k =>
            exact ⟨k, x, route, Entries.mem_of_get? hchild, hl, rfl⟩
        | index i =>
            cases hchild
  | arr items =>
      rw [leaves, mem_leavesOfItems]
      constructor
      · rintro ⟨i, x, rest, hget, hl, heq⟩
        cases heq
        exact ⟨x, by simpa [child?] using hget, hl⟩
      · rintro ⟨x, hchild, hl⟩
        cases s with
        | key k =>
            cases hchild
        | index i =>
            exact ⟨i, x, route, hchild, hl, by rw [Nat.zero_add]⟩
  | _ =>
      cases s <;> simp [leaves, child?]

/-- The leaves of a node are the scalars and nulls that routes lead to. -/
theorem mem_leaves_iff {node : Json} (h : WellFormed node) (route : List Segment)
    (v : PropertyValue) :
    (route, v) ∈ leaves node ↔ at? route node = some v.toJson := by
  induction route generalizing node with
  | nil =>
      simp [nil_mem_leaves_iff, at?]
  | cons s route ih =>
      rw [cons_mem_leaves_iff h, at?, Option.bind_eq_some_iff]
      constructor
      · rintro ⟨x, hchild, hl⟩
        exact ⟨x, hchild, (ih (wellFormed_child? h hchild)).mp hl⟩
      · rintro ⟨x, hchild, hat⟩
        exact ⟨x, hchild, (ih (wellFormed_child? h hchild)).mpr hat⟩

theorem everyKeyOfItems_iff (P : String → Prop) (items : List Json) :
    EveryKeyOfItems P items ↔ ∀ x ∈ items, EveryKey P x := by
  induction items with
  | nil =>
      simp [EveryKeyOfItems]
  | cons x items ih =>
      simp [EveryKeyOfItems, ih]

theorem everyKeyOfMembers_iff (P : String → Prop) (members : List (String × Json)) :
    EveryKeyOfMembers P members ↔ ∀ k x, (k, x) ∈ members → P k ∧ EveryKey P x := by
  induction members with
  | nil =>
      simp [EveryKeyOfMembers]
  | cons e members ih =>
      obtain ⟨key, y⟩ := e
      rw [EveryKeyOfMembers, ih]
      constructor
      · rintro ⟨hkey, hy, hrest⟩ k x hmem
        rcases List.mem_cons.mp hmem with heq | hmem
        · cases heq
          exact ⟨hkey, hy⟩
        · exact hrest k x hmem
      · intro h
        have hhead := h key y List.mem_cons_self
        exact ⟨hhead.1, hhead.2, fun k x hmem => h k x (List.mem_cons_of_mem _ hmem)⟩

mutual

theorem everyKey_mono {P Q : String → Prop} (hPQ : ∀ k, P k → Q k) :
    ∀ {node : Json}, EveryKey P node → EveryKey Q node
  | .null, _ | .bool _, _ | .num _, _ | .str _, _ => trivial
  | .arr _, h => everyKeyOfItems_mono hPQ h
  | .obj _, h => everyKeyOfMembers_mono hPQ h

theorem everyKeyOfItems_mono {P Q : String → Prop} (hPQ : ∀ k, P k → Q k) :
    ∀ {items : List Json}, EveryKeyOfItems P items → EveryKeyOfItems Q items
  | [], _ => trivial
  | _ :: _, h => ⟨everyKey_mono hPQ h.1, everyKeyOfItems_mono hPQ h.2⟩

theorem everyKeyOfMembers_mono {P Q : String → Prop} (hPQ : ∀ k, P k → Q k) :
    ∀ {members : List (String × Json)},
      EveryKeyOfMembers P members → EveryKeyOfMembers Q members
  | [], _ => trivial
  | (k, _) :: _, h => ⟨hPQ k h.1, everyKey_mono hPQ h.2.1, everyKeyOfMembers_mono hPQ h.2.2⟩

end

/-- What holds of every key holds of the keys on the way to a leaf. -/
theorem keysAre_of_mem_leaves {P : String → Prop} {node : Json} (h : EveryKey P node)
    {route : List Segment} {v : PropertyValue} (hl : (route, v) ∈ leaves node) :
    Path.KeysAre P route := by
  induction route generalizing node with
  | nil =>
      intro k hk
      cases hk
  | cons s route ih =>
      cases node with
      | obj members =>
          obtain ⟨k, x, rest, hmem, hrest, heq⟩ := (mem_leavesOfMembers _ _ _).mp hl
          cases heq
          obtain ⟨hk, hx⟩ := (everyKeyOfMembers_iff P members).mp h k x hmem
          intro key hkey
          rcases List.mem_cons.mp hkey with heq | hkey
          · cases heq
            exact hk
          · exact ih hx hrest key hkey
      | arr items =>
          obtain ⟨i, x, rest, hget, hrest, heq⟩ := (mem_leavesOfItems _ _ _ _).mp hl
          cases heq
          have hx := (everyKeyOfItems_iff P items).mp h x (List.mem_of_getElem? hget)
          intro key hkey
          rcases List.mem_cons.mp hkey with heq | hkey
          · cases heq
          · exact ih hx hrest key hkey
      | _ =>
          simp [leaves] at hl

/-! ## Document order -/

/-- One step of a container comes before another one: keys in the order of the members, positions
in ascending order. -/
inductive StepBefore : Json → Segment → Segment → Prop
  | key {members : List (String × Json)} {j k : String}
      (h : [j, k].Sublist (Entries.keys members)) :
      StepBefore (.obj members) (.key j) (.key k)
  | index {items : List Json} {i j : Nat} (h : i < j) :
      StepBefore (.arr items) (.index i) (.index j)

/-- One route of a node comes before another one: where they part, its step is the earlier one. -/
inductive RouteBefore (node : Json) : List Segment → List Segment → Prop
  | part (before : List Segment) {x : Json} (hx : at? before node = some x) {s t : Segment}
      (h : StepBefore x s t) (rest rest' : List Segment) :
      RouteBefore node (before ++ s :: rest) (before ++ t :: rest')

theorem RouteBefore.cons {node x : Json} {p q : List Segment} (h : RouteBefore x p q)
    {s : Segment} (hchild : child? s node = some x) :
    RouteBefore node (s :: p) (s :: q) := by
  cases h with
  | @part before y hx t u h rest rest' =>
      have hat : at? (s :: before) node = some y := by
        rw [at?, hchild]
        exact hx
      exact .part (s :: before) hat h rest rest'

mutual

/-- The leaves of a well-formed node are listed in document order. -/
theorem pairwise_leaves : ∀ {node : Json}, WellFormed node →
    (leaves node).Pairwise fun a b => RouteBefore node a.1 b.1
  | .null, _ | .bool _, _ | .num _, _ | .str _, _ => by
      simp [leaves]
  | .arr _, h =>
      pairwise_leavesOfItems [] h
  | .obj _, h =>
      pairwise_leavesOfMembers [] h.1 h.2

/-- The items are the last ones of the sequence. -/
theorem pairwise_leavesOfItems (front : List Json) : ∀ {items : List Json},
    WellFormedItems items →
    (leavesOfItems front.length items).Pairwise fun a b =>
      RouteBefore (.arr (front ++ items)) a.1 b.1
  | [], _ => by
      simp [leavesOfItems]
  | x :: items, h => by
      have hrest := pairwise_leavesOfItems (front ++ [x]) h.2
      rw [List.append_assoc, List.singleton_append, List.length_append,
        List.length_singleton] at hrest
      rw [leavesOfItems, List.pairwise_append]
      refine ⟨?_, hrest, ?_⟩
      · have hchild : child? (.index front.length) (.arr (front ++ x :: items)) = some x := by
          simp [child?]
        rw [List.pairwise_map]
        exact (pairwise_leaves h.1).imp fun hab => hab.cons hchild
      · intro a ha b hb
        obtain ⟨l, -, rfl⟩ := List.mem_map.mp ha
        obtain ⟨i, y, rest, -, -, hroute⟩ := (mem_leavesOfItems _ _ b.1 b.2).mp hb
        rw [hroute]
        exact .part [] rfl (.index (by omega)) l.1 rest

/-- The members are the last ones of the mapping. -/
theorem pairwise_leavesOfMembers (front : List (String × Json)) :
    ∀ {members : List (String × Json)}, (Entries.keys (front ++ members)).Nodup →
    WellFormedMembers members →
    (leavesOfMembers members).Pairwise fun a b =>
      RouteBefore (.obj (front ++ members)) a.1 b.1
  | [], _, _ => by
      simp [leavesOfMembers]
  | (k, x) :: members, hkeys, h => by
      have hrest := pairwise_leavesOfMembers (front ++ [(k, x)])
        (by rwa [List.append_assoc]) h.2
      rw [List.append_assoc, List.singleton_append] at hrest
      rw [leavesOfMembers, List.pairwise_append]
      refine ⟨?_, hrest, ?_⟩
      · have hchild : child? (.key k) (.obj (front ++ (k, x) :: members)) = some x :=
          Entries.get?_of_mem hkeys (List.mem_append_right _ List.mem_cons_self)
        rw [List.pairwise_map]
        exact (pairwise_leaves h.1).imp fun hab => hab.cons hchild
      · intro a ha b hb
        obtain ⟨l, -, rfl⟩ := List.mem_map.mp ha
        obtain ⟨key, y, rest, hmem, -, hroute⟩ := (mem_leavesOfMembers _ b.1 b.2).mp hb
        have hlast : [key].Sublist (Entries.keys members) :=
          List.singleton_sublist.mpr (List.mem_map_of_mem hmem)
        have hsub : [k, key].Sublist (Entries.keys (front ++ (k, x) :: members)) := by
          rw [Entries.keys, List.map_append]
          exact (hlast.cons_cons k).trans (List.sublist_append_right _ _)
        rw [hroute]
        exact .part [] rfl (.key hsub) l.1 rest

end

/-! ## Different leaves have different texts -/

theorem toDigits_injective {i j : Nat} (h : Nat.toDigits 10 i = Nat.toDigits 10 j) :
    i = j := by
  have hi := Nat.ofDigitChars_ten_toDigits (n := i)
  rw [h, Nat.ofDigitChars_ten_toDigits] at hi
  exact hi.symm

/-- The route of a leaf, each step as it is written. -/
def written (l : List Segment × PropertyValue) : List (List Char) :=
  l.1.map Segment.chars

/-- Steps of one container are written differently. -/
theorem StepBefore.chars_ne {node : Json} {s t : Segment} (h : StepBefore node s t)
    (hwf : WellFormed node) :
    s.chars ≠ t.chars := by
  cases h with
  | key h =>
      have hpair := hwf.1.sublist h
      simp only [List.nodup_cons, List.mem_singleton] at hpair
      exact fun heq => hpair.1 (String.toList_injective heq)
  | index h =>
      exact fun heq => Nat.ne_of_lt h (toDigits_injective heq)

theorem wellFormed_at? {route : List Segment} {node x : Json} (hnode : WellFormed node)
    (hx : at? route node = some x) :
    WellFormed x := by
  induction route generalizing node with
  | nil =>
      obtain rfl : node = x := Option.some.inj hx
      exact hnode
  | cons s route ih =>
      obtain ⟨y, hy, hrest⟩ := Option.bind_eq_some_iff.mp hx
      exact ih (wellFormed_child? hnode hy) hrest

theorem RouteBefore.chars_ne {node : Json} {p q : List Segment} (h : RouteBefore node p q)
    (hwf : WellFormed node) :
    p.map Segment.chars ≠ q.map Segment.chars := by
  cases h with
  | part before hx h rest rest' =>
      rw [List.map_append, List.map_append, List.map_cons, List.map_cons]
      intro heq
      exact h.chars_ne (wellFormed_at? hwf hx) (List.cons.inj (List.append_cancel_left heq)).1

/-- The leaves of a well-formed node are written differently. -/
theorem nodup_written {node : Json} (h : WellFormed node) :
    ((leaves node).map written).Nodup := by
  rw [List.Nodup, List.pairwise_map]
  exact (pairwise_leaves h).imp fun hab => hab.chars_ne h

end Json

end VnfPayload
