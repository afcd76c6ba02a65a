import VnfPayload.Path

/-!
# The text of a route

`Path.spell` writes the steps of a route between dots, positions in decimal.  A key can be
told from a position, and from a part of another key, if it is not empty, has no dot and is
not made of digits only; `Path.IsKey` says so.

Main statements:

* `pieces_eq_splitOn` says that the pieces of a text are those of the library's `splitOn`;
* `pieces_spell` recovers the pieces of a route;
* `parse_spell` recovers the steps, as long as no position is too large, and
  `parse_spell_of_exceeds` says that the text is refused otherwise.
-/

namespace VnfPayload

namespace Segment

/-- A step as it is written. -/
def chars : Segment → List Char
  | .key k => k.toList
  | .index i => Nat.toDigits 10 i

/-- The step is no position that a path may not name. -/
def Within : Segment → Prop
  | .key _ => True
  | .index i => i ≤ Path.maxIndex

end Segment

namespace Path

/-- The text of a route. -/
def spell (route : List Segment) : String :=
  String.ofList (join (route.map Segment.chars))

/-- A key that a path can spell. -/
def IsKey (k : String) : Prop :=
  k ≠ "" ∧ '.' ∉ k.toList ∧ k.toList.all Char.isDigit = false

/-- The keys among the steps of a route have a property. -/
def KeysAre (P : String → Prop) (route : List Segment) : Prop :=
  ∀ k, .key k ∈ route → P k

/-! ## Pieces -/

theorem pieces_eq_splitOn (cs : List Char) :
    pieces cs = cs.splitOn '.' := by
  induction cs with
  | nil =>
      rfl
  | cons c cs ih =>
      rw [pieces, List.splitOn_cons_eq_if_modifyHead, ih]
      by_cases h : c = '.'
      · simp [h]
      · cases hsplit : cs.splitOn '.' with
        | nil =>
            exact absurd hsplit (List.splitOn_ne_nil _ _)
        | cons p ps =>
            simp [h]

/-- The text before a dot and the text after it are cut apart from each other. -/
theorem pieces_append_dot (cs ds : List Char) :
    pieces (cs ++ '.' :: ds) = pieces cs ++ pieces ds := by
  simp only [pieces_eq_splitOn, List.splitOn_append_cons_self]

theorem join_pieces (cs : List Char) : join (pieces cs) = cs := by
  rw [pieces_eq_splitOn, join, List.intercalate_splitOn]

/-- Pieces without dots are recovered from their joined text. -/
theorem pieces_join {ps : List (List Char)} (hne : ps ≠ []) (hdot : ∀ p ∈ ps, '.' ∉ p) :
    pieces (join ps) = ps := by
  rw [pieces_eq_splitOn, join, List.splitOn_intercalate '.' hdot hne]

/-- Joining one more piece to others. -/
theorem join_append_singleton {ps : List (List Char)} (hne : ps ≠ []) (q : List Char) :
    join (ps ++ [q]) = join ps ++ '.' :: q := by
  induction ps with
  | nil =>
      exact absurd rfl hne
  | cons p ps ih =>
      cases ps with
      | nil =>
          simp [join, List.intercalate_cons_cons]
      | cons p' ps =>
          have htail := ih (by simp)
          simp only [join, List.cons_append, List.intercalate_cons_cons] at htail ⊢
          rw [htail]
          simp

/-- The text of a route with one more step. -/
theorem spell_append_singleton {route : List Segment} (hne : route ≠ []) (s : Segment) :
    spell (route ++ [s]) = spell route ++ "." ++ String.ofList s.chars := by
  apply String.toList_injective
  rw [spell, List.map_append, List.map_singleton, join_append_singleton (by simpa using hne)]
  simp [spell]

/-- A position has no dot. -/
theorem dot_notMem_toDigits (i : Nat) :
    '.' ∉ Nat.toDigits 10 i := by
  intro h
  have hdigit := Nat.isDigit_of_mem_toDigits (by omega) (by omega) h
  revert hdigit
  decide

/-- The text of a route is cut into its steps, if no key of it has a dot. -/
theorem pieces_spell {route : List Segment} (hne : route ≠ [])
    (hkeys : KeysAre (fun k => '.' ∉ k.toList) route) :
    pieces (spell route).toList = route.map Segment.chars := by
  have hdot : ∀ p ∈ route.map Segment.chars, '.' ∉ p := by
    intro p hp
    obtain ⟨s, hs, rfl⟩ := List.mem_map.mp hp
    cases s with
    | key k =>
        exact hkeys k hs
    | index i =>
        exact dot_notMem_toDigits i
  rw [spell, String.toList_ofList, pieces_join (by simpa using hne) hdot]

/-! ## Steps -/

theorem segment_of_key {k : String} (h : IsKey k) :
    segment (Segment.key k).chars = .ok (.key k) := by
  simp [segment, Segment.chars, h.2.2]

theorem segment_of_index (i : Nat) :
    segment (Segment.index i).chars =
      if i ≤ maxIndex then .ok (.index i)
      else .error (.indexTooLarge (String.ofList (Nat.toDigits 10 i))) := by
  have hall : (Nat.toDigits 10 i).all Char.isDigit = true := by
    rw [List.all_eq_true]
    intro c hc
    exact Nat.isDigit_of_mem_toDigits (by omega) (by omega) hc
  simp [segment, Segment.chars, hall]

theorem segment_chars {s : Segment} (hkey : ∀ k, s = .key k → IsKey k) (h : s.Within) :
    segment s.chars = .ok s := by
  cases s with
  | key k =>
      exact segment_of_key (hkey k rfl)
  | index i =>
      rw [segment_of_index]
      exact if_pos h

theorem segment_chars_of_exceeds {s : Segment} (h : ¬ s.Within) :
    ∃ piece, segment s.chars = .error (.indexTooLarge piece) := by
  cases s with
  | key k =>
      exact absurd trivial h
  | index i =>
      rw [segment_of_index]
      exact ⟨_, if_neg h⟩

/-- A step is never written as an empty piece. -/
theorem chars_ne_nil {s : Segment} (hkey : ∀ k, s = .key k → IsKey k) :
    s.chars ≠ [] := by
  cases s with
  | key k =>
      intro h
      exact (hkey k rfl).1 (by simpa [Segment.chars] using h)
  | index i =>
      exact Nat.toDigits_ne_nil

theorem keysAre_cons {P : String → Prop} {s : Segment} {route : List Segment}
    (h : KeysAre P (s :: route)) :
    (∀ k, s = .key k → P k) ∧ KeysAre P route :=
  ⟨fun k hk => h k (by simp [hk]), fun k hk => h k (List.mem_cons_of_mem _ hk)⟩

theorem segments_chars {route : List Segment} (hkeys : KeysAre IsKey route)
    (h : ∀ s ∈ route, s.Within) (first : Bool) :
    segments first (route.map Segment.chars) = .ok route := by
  induction route generalizing first with
  | nil =>
      rfl
  | cons s route ih =>
      obtain ⟨hkey, hrest⟩ := keysAre_cons hkeys
      have hhead := segment_chars hkey (h s List.mem_cons_self)
      have htail := ih hrest (fun t ht => h t (List.mem_cons_of_mem _ ht)) false
      rw [List.map_cons, segments]
      simp only [List.isEmpty_iff, chars_ne_nil hkey, if_false, hhead, htail]
      rfl

theorem segments_chars_of_exceeds {route : List Segment} (hkeys : KeysAre IsKey route)
    (h : ∃ s ∈ route, ¬ s.Within) (first : Bool) :
    ∃ piece, segments first (route.map Segment.chars) = .error (.indexTooLarge piece) := by
  induction route generalizing first with
  | nil =>
      obtain ⟨s, hs, -⟩ := h
      cases hs
  | cons s route ih =>
      obtain ⟨hkey, hrest⟩ := keysAre_cons hkeys
      rw [List.map_cons, segments]
      simp only [List.isEmpty_iff, chars_ne_nil hkey, if_false]
      by_cases hs : s.Within
      · obtain ⟨t, ht, hexceeds⟩ := h
        have htail : ∃ t ∈ route, ¬ t.Within := by
          rcases List.mem_cons.mp ht with rfl | hmem
          · exact absurd hs hexceeds
          · exact ⟨t, hmem, hexceeds⟩
        obtain ⟨piece, hpiece⟩ := ih hrest htail false
        refine ⟨piece, ?_⟩
        rw [segment_chars hkey hs, hpiece]
        rfl
      · obtain ⟨piece, hpiece⟩ := segment_chars_of_exceeds hs
        refine ⟨piece, ?_⟩
        rw [hpiece]
        rfl

/-- Parsing the text of a route is reading its steps one by one. -/
theorem parse_spell_eq {route : List Segment} (hne : route ≠ [])
    (hkeys : KeysAre IsKey route) :
    parse (spell route) = segments true (route.map Segment.chars) := by
  have hpieces := pieces_spell hne fun k hk => (hkeys k hk).2.1
  have htext : (spell route).toList ≠ [] := by
    intro hnil
    rw [hnil] at hpieces
    cases route with
    | nil =>
        exact hne rfl
    | cons s route =>
        have hchars : s.chars = [] := by
          simpa [pieces] using (List.cons.inj hpieces).1.symm
        exact chars_ne_nil (keysAre_cons hkeys).1 hchars
  simp [parse, htext, hpieces]

/-- The text of a route names the route. -/
theorem parse_spell {route : List Segment} (hne : route ≠ [])
    (hkeys : KeysAre IsKey route) (h : ∀ s ∈ route, s.Within) :
    parse (spell route) = .ok route := by
  rw [parse_spell_eq hne hkeys, segments_chars hkeys h]

/-- The text of a route with too large a position is no path. -/
theorem parse_spell_of_exceeds {route : List Segment} (hne : route ≠ [])
    (hkeys : KeysAre IsKey route) (h : ∃ s ∈ route, ¬ s.Within) :
    ∃ piece, parse (spell route) = .error (.indexTooLarge piece) := by
  rw [parse_spell_eq hne hkeys]
  exact segments_chars_of_exceeds hkeys h true

end Path

end VnfPayload
