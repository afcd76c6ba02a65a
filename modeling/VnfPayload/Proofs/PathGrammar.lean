import VnfPayload.Document
import VnfPayload.Proofs.PathSteps
import Mathlib.Data.List.Induction
import Mathlib.Data.Nat.Digits.Defs

/-!
# The grammar of paths

A path is a sequence of pieces between dots.  None of them is empty, and those made of ASCII
digits, the numerals, have a value of at most `Path.maxIndex`, however long they are written.
A numeral stands for the position of its value and every other piece for the key that it is.

A text that is no such sequence is refused for the leftmost piece that offends, and
`Path.Offence` says for what fault, by the place of the piece among the others.

Main statements:

* `Path.parse_eq_ok_iff_sound` and `Path.parse_eq_error_iff` say which texts are read and which
  are refused, with what result;
* `Path.parse_grammar` puts them together, with the texts of the reasons and with the routes that
  are read back from their own text: those whose keys a path can spell and whose positions are
  within the limit.
-/

namespace VnfPayload

namespace Path

/-- A text of ASCII digits. -/
def IsNumeral (piece : List Char) : Prop :=
  ∀ c ∈ piece, '0' ≤ c ∧ c ≤ '9'

instance (piece : List Char) : Decidable (IsNumeral piece) :=
  List.decidableBAll _ piece

/-- The decimal value of a numeral, with the digit of the ones at its end. -/
def value (numeral : List Char) : Nat :=
  Nat.ofDigits 10 (numeral.reverse.map fun c => c.toNat - '0'.toNat)

/-- A piece that a path may have. -/
def Sound (piece : List Char) : Prop :=
  piece ≠ [] ∧ (IsNumeral piece → value piece ≤ maxIndex)

instance (piece : List Char) : Decidable (Sound piece) :=
  inferInstanceAs (Decidable (_ ∧ _))

/-- The step that a piece stands for. -/
def step (piece : List Char) : Segment :=
  if IsNumeral piece then .index (value piece) else .key (String.ofList piece)

/-- The fault of a piece that stands between other ones. -/
inductive Offence : (before : List (List Char)) → (piece : List Char) →
    (after : List (List Char)) → PathFault → Prop
  | leading (after : List (List Char)) :
      Offence [] [] after .leadingSeparator
  | trailing (before : List (List Char)) (hbefore : before ≠ []) :
      Offence before [] [] .trailingSeparator
  | between (before after : List (List Char)) (hbefore : before ≠ []) (hafter : after ≠ []) :
      Offence before [] after .emptySegment
  | tooLarge (before : List (List Char)) (piece : List Char) (after : List (List Char))
      (hne : piece ≠ []) (hnumeral : IsNumeral piece) (hlarge : maxIndex < value piece) :
      Offence before piece after (.indexTooLarge (String.ofList piece))

/-! ## Numerals -/

theorem all_isDigit_iff (piece : List Char) :
    piece.all Char.isDigit = true ↔ IsNumeral piece := by
  rw [List.all_eq_true]
  refine forall₂_congr fun c _ => ?_
  simp [Char.isDigit, Char.le_def]

theorem value_append_singleton (piece : List Char) (c : Char) :
    value (piece ++ [c]) = 10 * value piece + (c.toNat - '0'.toNat) := by
  rw [value, List.reverse_append, List.reverse_singleton, List.singleton_append, List.map_cons,
    Nat.ofDigits_cons, Nat.add_comm]
  rfl

/-- Reading the digits from the left gives the value. -/
theorem ofDigitChars_eq_value (piece : List Char) :
    Nat.ofDigitChars 10 piece 0 = value piece := by
  induction piece using List.reverseRecOn with
  | nil =>
      rfl
  | append_singleton piece c ih =>
      rw [Nat.ofDigitChars_append, ih, value_append_singleton]
      rfl

theorem segment_of_numeral {piece : List Char} (h : IsNumeral piece) :
    segment piece =
      if value piece ≤ maxIndex then .ok (.index (value piece))
      else .error (.indexTooLarge (String.ofList piece)) := by
  rw [segment, if_pos ((all_isDigit_iff piece).mpr h), ofDigitChars_eq_value]

theorem segment_of_not_numeral {piece : List Char} (h : ¬ IsNumeral piece) :
    segment piece = .ok (.key (String.ofList piece)) := by
  rw [segment, if_neg (mt (all_isDigit_iff piece).mp h)]

/-! ## Texts that are paths -/

/-- A piece names a step if a path may have it and stands for the step. -/
theorem names_iff (piece : List Char) (s : Segment) :
    Names piece s ↔ Sound piece ∧ step piece = s := by
  by_cases hnumeral : IsNumeral piece
  · by_cases hle : value piece ≤ maxIndex
    · simp [Names, Sound, step, segment_of_numeral, hnumeral, hle]
    · simp [Names, Sound, segment_of_numeral, hnumeral, hle]
  · simp [Names, Sound, step, segment_of_not_numeral, hnumeral]

theorem not_sound_nil : ¬ Sound [] :=
  fun h => h.1 rfl

/-- Pieces stand for the steps of a path if a path may have each of them. -/
theorem forall₂_names_iff (ps : List (List Char)) (route : List Segment) :
    List.Forall₂ Names ps route ↔ (∀ piece ∈ ps, Sound piece) ∧ route = ps.map step := by
  induction ps generalizing route with
  | nil =>
      simp
  | cons p ps ih =>
      rw [List.forall₂_cons_left_iff]
      simp only [names_iff, ih, List.forall_mem_cons, List.map_cons]
      constructor
      · rintro ⟨s, rest, ⟨hp, rfl⟩, ⟨hps, rfl⟩, rfl⟩
        exact ⟨⟨hp, hps⟩, rfl⟩
      · rintro ⟨⟨hp, hps⟩, rfl⟩
        exact ⟨_, _, ⟨hp, rfl⟩, ⟨hps, rfl⟩, rfl⟩

theorem parse_eq_ok_iff_sound (path : String) (route : List Segment) :
    parse path = .ok route ↔
      (∀ piece ∈ path.toList.splitOn '.', Sound piece) ∧
        route = (path.toList.splitOn '.').map step := by
  rw [parse_eq_ok_iff, pieces_eq_splitOn, forall₂_names_iff]

/-! ## Texts that are refused -/

variable {before after ps : List (List Char)} {piece : List Char} {fault : PathFault}

theorem segment_eq_error_iff (piece : List Char) (fault : PathFault) :
    segment piece = .error fault ↔
      IsNumeral piece ∧ maxIndex < value piece ∧ fault = .indexTooLarge (String.ofList piece) := by
  by_cases hnumeral : IsNumeral piece
  · by_cases hle : value piece ≤ maxIndex
    · simp [segment_of_numeral, hnumeral, hle, Nat.not_lt.mpr hle]
    · simp [segment_of_numeral, hnumeral, hle, Nat.not_le.mp hle, eq_comm]
  · simp [segment_of_not_numeral, hnumeral]

/-- The fault of an empty piece is up to its place. -/
theorem offence_nil_iff :
    Offence before [] after fault ↔ fault = emptyPiece before.isEmpty after.isEmpty := by
  constructor
  · intro h
    cases h with
    | leading _ =>
        rfl
    | trailing _ hbefore =>
        simp [emptyPiece, hbefore]
    | between _ _ hbefore hafter =>
        simp [emptyPiece, hbefore, hafter]
    | tooLarge _ _ _ hne =>
        exact absurd rfl hne
  · rintro rfl
    cases before with
    | nil =>
        exact .leading after
    | cons p before =>
        cases after with
        | nil =>
            exact .trailing _ (List.cons_ne_nil p before)
        | cons q after =>
            exact .between _ _ (List.cons_ne_nil p before) (List.cons_ne_nil q after)

/-- A piece that is not empty offends if it is read as too large a position. -/
theorem offence_iff_of_ne_nil (hne : piece ≠ []) :
    Offence before piece after fault ↔ segment piece = .error fault := by
  rw [segment_eq_error_iff]
  constructor
  · intro h
    cases h with
    | leading _ =>
        exact absurd rfl hne
    | trailing _ _ =>
        exact absurd rfl hne
    | between _ _ _ _ =>
        exact absurd rfl hne
    | tooLarge _ _ _ _ hnumeral hlarge =>
        exact ⟨hnumeral, hlarge, rfl⟩
  · rintro ⟨hnumeral, hlarge, rfl⟩
    exact .tooLarge before piece after hne hnumeral hlarge

/-- The leftmost of the pieces that offends has the fault, where `earlier` are pieces that stand
before all of them. -/
def FirstOffence (earlier ps : List (List Char)) (fault : PathFault) : Prop :=
  ∃ before piece after, ps = before ++ piece :: after ∧ (∀ p ∈ before, Sound p) ∧
    Offence (earlier ++ before) piece after fault

theorem not_firstOffence_nil (earlier : List (List Char)) :
    ¬ FirstOffence earlier [] fault := by
  rintro ⟨before, piece, after, heq, -⟩
  cases before <;> cases heq

/-- The first piece offends, or it does not and one of the others does. -/
theorem firstOffence_cons_iff (earlier : List (List Char)) :
    FirstOffence earlier (piece :: ps) fault ↔
      Offence earlier piece ps fault ∨
        (Sound piece ∧ FirstOffence (earlier ++ [piece]) ps fault) := by
  constructor
  · rintro ⟨before, q, after, heq, hbefore, hoffence⟩
    cases before with
    | nil =>
        cases heq
        rw [List.append_nil] at hoffence
        exact Or.inl hoffence
    | cons p before =>
        cases heq
        rw [List.forall_mem_cons] at hbefore
        refine Or.inr ⟨hbefore.1, before, q, after, rfl, hbefore.2, ?_⟩
        rwa [List.append_assoc]
  · rintro (hoffence | ⟨hsound, before, q, after, rfl, hbefore, hoffence⟩)
    · refine ⟨[], piece, ps, rfl, nofun, ?_⟩
      rwa [List.append_nil]
    · refine ⟨piece :: before, q, after, rfl, List.forall_mem_cons.mpr ⟨hsound, hbefore⟩, ?_⟩
      rwa [List.append_assoc] at hoffence

/-- Reading the pieces one by one stops at the leftmost one that offends. -/
theorem segments_eq_error_iff (earlier ps : List (List Char)) (fault : PathFault) :
    segments earlier.isEmpty ps = .error fault ↔ FirstOffence earlier ps fault := by
  induction ps generalizing earlier with
  | nil =>
      simp [segments, not_firstOffence_nil]
  | cons piece ps ih =>
      rw [segments, firstOffence_cons_iff]
      by_cases hne : piece = []
      · subst hne
        simp [offence_nil_iff, not_sound_nil, eq_comm]
      · have hlater : segments false ps = .error fault ↔
            FirstOffence (earlier ++ [piece]) ps fault := by
          have hfirst : (earlier ++ [piece]).isEmpty = false :=
            List.isEmpty_eq_false_iff.mpr (List.append_ne_nil_of_right_ne_nil _ (by simp))
          rw [← ih, hfirst]
        rw [if_neg (by simpa using hne), offence_iff_of_ne_nil hne]
        cases hsegment : segment piece with
        | error fault' =>
            have hunsound : ¬ Sound piece := fun hsound => by
              have hnames := (names_iff piece (step piece)).mpr ⟨hsound, rfl⟩
              cases hsegment.symm.trans hnames.2
            simp [hunsound, bind, Except.bind]
        | ok s =>
            have hsound : Sound piece := ((names_iff piece s).mp ⟨hne, hsegment⟩).1
            simp only [← hlater, hsound]
            cases hsegments : segments false ps with
            | error fault' =>
                simp [bind, Except.bind]
            | ok ss =>
                simp [bind, Except.bind, pure, Except.pure]

theorem parse_eq_error_iff (path : String) (fault : PathFault) :
    parse path = .error fault ↔
      (path = "" ∧ fault = .empty) ∨
        (path ≠ "" ∧ FirstOffence [] (path.toList.splitOn '.') fault) := by
  rw [parse, pieces_eq_splitOn]
  by_cases hempty : path = ""
  · simp [hempty, eq_comm]
  · simp [hempty, ← segments_eq_error_iff]

theorem reason_indexTooLarge (piece : String) :
    PathFault.reason (.indexTooLarge piece) = "index " ++ piece ++ " exceeds limit 4096" := by
  have hlimit : " exceeds limit " ++ toString maxIndex = " exceeds limit 4096" := rfl
  rw [← hlimit, ← String.append_assoc]
  rfl

/-- **The grammar of paths**: which texts are read as which steps, for which piece and fault all
others are refused, and which routes are read back from their text. -/
theorem parse_grammar :
    (∀ path route, parse path = .ok route ↔
      path ≠ "" ∧ (∀ piece ∈ path.toList.splitOn '.', Sound piece) ∧
        route = (path.toList.splitOn '.').map step) ∧
    (∀ path fault, parse path = .error fault ↔
      (path = "" ∧ fault = .empty) ∨
        (path ≠ "" ∧ ∃ before piece after,
          path.toList.splitOn '.' = before ++ piece :: after ∧ (∀ p ∈ before, Sound p) ∧
            Offence before piece after fault)) ∧
    (∀ path fault, parse path = .error fault → ∀ (doc : Document) (v : PropertyValue),
      doc.materialize path v = (doc, .error (.malformedPath path fault))) ∧
    (PathFault.reason .empty = "path is empty" ∧
      PathFault.reason .leadingSeparator = "leading separator" ∧
      PathFault.reason .trailingSeparator = "trailing separator" ∧
      PathFault.reason .emptySegment = "empty segment" ∧
      ∀ piece, PathFault.reason (.indexTooLarge piece) =
        "index " ++ piece ++ " exceeds limit 4096") ∧
    (∀ route, route ≠ [] → KeysAre IsKey route → (∀ s ∈ route, s.Within) →
      parse (spell route) = .ok route) := by
  refine ⟨fun path route => ?_, parse_eq_error_iff, fun path fault h doc v => ?_,
    ⟨rfl, rfl, rfl, rfl, reason_indexTooLarge⟩, fun route hne hkeys hwithin => ?_⟩
  · rw [parse_eq_ok_iff_sound]
    refine ⟨fun ⟨hsound, hroute⟩ => ⟨?_, hsound, hroute⟩, fun ⟨_, h⟩ => h⟩
    -- The empty text has one piece, which is empty.
    rintro rfl
    exact not_sound_nil (hsound [] List.mem_cons_self)
  · rw [Document.materialize, h]
  · exact parse_spell hne hkeys hwithin

/-- Digits of other scripts make a key, and zeros before a position count for nothing.  Of two
pieces that offend, the left one is reported. -/
theorem parse_grammar_other_digits :
    parse "٣.00000000000000000000007" = .ok [.key "٣", .index 7] ∧
      parse "a..5000" = .error .emptySegment ∧
      Document.materialize [] "a..5000" .null =
        ([], .error (.malformedPath "a..5000" .emptySegment)) ∧
      parse (spell [.key "a", .index 4096]) = .ok [.key "a", .index 4096] := by
  have herror : parse "a..5000" = .error .emptySegment := by
    refine (parse_grammar.2.1 _ _).mpr (Or.inr ⟨by decide, [['a']], [], [['5', '0', '0', '0']],
      rfl, by decide, ?_⟩)
    exact .between _ _ (List.cons_ne_nil _ _) (List.cons_ne_nil _ _)
  refine ⟨(parse_grammar.1 _ _).mpr ⟨by decide, by decide, by decide⟩, herror,
    parse_grammar.2.2.1 _ _ herror _ _, ?_⟩
  refine parse_grammar.2.2.2.2 _ (List.cons_ne_nil _ _) ?_ ?_
  · simp [KeysAre, IsKey]
  · simp [Segment.Within, maxIndex]

end Path

end VnfPayload
