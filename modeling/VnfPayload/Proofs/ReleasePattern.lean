import VnfPayload.Pattern.Reader
import VnfPayload.Proofs.PathGrammar
import VnfPayload.Proofs.PatternMatches
import VnfPayload.Registry.Validation

/-!
# The form of versions

R-005 asks for versions of three groups of digits between dots.  `IsRelease` says what that means,
and `releaseText` says the same as a regular expression.  The pattern that is read from this text
is in a version exactly if the version has the form: `Pattern.isIn_threeRows_iff`.  The
validation looks at the pieces of the version instead, and agrees with both:
`Template.isVersion_iff`.
-/

namespace VnfPayload

/-- Three groups of ASCII digits between dots. -/
def IsRelease (version : String) : Prop :=
  ∃ major minor patch : List Char,
    version.toList = major ++ '.' :: (minor ++ '.' :: patch) ∧
      ∀ group ∈ [major, minor, patch], group ≠ [] ∧ Path.IsNumeral group

namespace Pattern

open Unicode (CharSet)

/-! ## Rows of characters -/

variable {cs tail group : List Char} {set : CharSet} {i j n : Nat}

theorem drop_of_drop_eq_append (h : cs.drop i = group ++ tail) :
    cs.drop (i + group.length) = tail := by
  rw [← List.drop_drop, h, List.drop_left]

theorem drop_of_drop_eq_cons {c : Char} (h : cs.drop i = c :: tail) : cs.drop (i + 1) = tail := by
  rw [← List.drop_drop, h, List.drop_one, List.tail_cons]

theorem matches_chars_iff :
    Matches cs.toArray (.chars set) i j ↔
      ∃ c tail, cs.drop i = c :: tail ∧ set.contains c = true ∧ j = i + 1 := by
  rw [Matches, List.getElem?_toArray]
  constructor
  · rintro ⟨rfl, c, hc, hset⟩
    obtain ⟨hi, rfl⟩ := List.getElem?_eq_some_iff.mp hc
    exact ⟨_, _, List.drop_eq_getElem_cons hi, hset, rfl⟩
  · rintro ⟨c, tail, hdrop, hset, rfl⟩
    refine ⟨rfl, c, ?_, hset⟩
    rw [← List.head?_drop, hdrop, List.head?_cons]

theorem steps_chars_iff :
    Steps (Matches cs.toArray (.chars set)) n i j ↔
      ∃ group tail, cs.drop i = group ++ tail ∧ group.length = n ∧
        (∀ c ∈ group, set.contains c = true) ∧ j = i + n := by
  induction n generalizing i with
  | zero =>
      constructor
      · rintro rfl
        exact ⟨[], cs.drop i, rfl, rfl, nofun, rfl⟩
      · rintro ⟨group, tail, -, -, -, rfl⟩
        rfl
  | succ n ih =>
      rw [Steps]
      simp only [matches_chars_iff, ih]
      constructor
      · rintro ⟨k, ⟨c, tail, hc, hset, rfl⟩, group, tail', hgroup, rfl, hall, rfl⟩
        have htail : cs.drop (i + 1) = tail := drop_of_drop_eq_cons hc
        refine ⟨c :: group, tail', ?_, rfl, List.forall_mem_cons.mpr ⟨hset, hall⟩, by omega⟩
        rw [hc, ← htail, hgroup, List.cons_append]
      · rintro ⟨group, tail, hgroup, hlength, hall, rfl⟩
        obtain ⟨c, group, rfl⟩ := List.exists_cons_of_length_eq_add_one hlength
        obtain ⟨hset, hrest⟩ := List.forall_mem_cons.mp hall
        refine ⟨i + 1, ⟨c, group ++ tail, hgroup, hset, rfl⟩, group, tail, ?_,
          Nat.succ.inj hlength, hrest, by omega⟩
        exact drop_of_drop_eq_cons hgroup

/-- One character of a set or more. -/
def rowOf (set : CharSet) : Pattern :=
  .repeated (.chars set) 1 none

theorem matches_rowOf_iff :
    Matches cs.toArray (rowOf set) i j ↔
      ∃ group tail, cs.drop i = group ++ tail ∧ group ≠ [] ∧
        (∀ c ∈ group, set.contains c = true) ∧ j = i + group.length := by
  rw [rowOf, Matches]
  simp only [steps_chars_iff]
  constructor
  · rintro ⟨more, -, group, tail, hgroup, hlength, hall, rfl⟩
    refine ⟨group, tail, hgroup, ?_, hall, by omega⟩
    rintro rfl
    exact absurd hlength (by simp; omega)
  · rintro ⟨group, tail, hgroup, hne, hall, rfl⟩
    have hpos := List.length_pos_iff.mpr hne
    exact ⟨group.length - 1, by simp, group, tail, hgroup, by omega, hall, by omega⟩

/-! ## The pattern of versions -/

/-- The pattern of a version of the usual form. -/
def releaseText : String :=
  "^[0-9]+\\.[0-9]+\\.[0-9]+$"

/-- The pattern of a dot. -/
def dot : Pattern :=
  .chars (.ofChar '.')

/-- Three rows of characters of a set between dots, and nothing around them. -/
def threeRows (set : CharSet) : Pattern :=
  .seq (.assertion .textStart .empty) (.seq (rowOf set) (.seq dot (.seq (rowOf set) (.seq dot
    (.seq (rowOf set) (.assertion .textEnd .empty))))))

/-- The digits of ASCII. -/
def digits : CharSet :=
  .ofRange 48 57

/-- A class is read as a union that starts with the empty set. -/
theorem union_digits : CharSet.empty.union digits = digits := by
  rw [CharSet.union, CharSet.empty, List.nil_merge]
  rfl

theorem read?_releaseText : read? releaseText = some (threeRows digits) := by
  have hrun : ∃ s, (readAlternatives (4 * releaseText.toList.length + 4)).run
      ⟨releaseText.toList, Flags.start, []⟩ =
        some (threeRows (CharSet.empty.union digits), s) ∧ s.rest = [] :=
    ⟨_, rfl, rfl⟩
  obtain ⟨s, hrun, hrest⟩ := hrun
  rw [union_digits] at hrun
  simp only [read?, hrun, hrest]
  rfl

theorem matches_digits_iff :
    Matches cs.toArray (rowOf digits) i j ↔
      ∃ group tail, cs.drop i = group ++ tail ∧ (group ≠ [] ∧ Path.IsNumeral group) ∧
        j = i + group.length := by
  have hdigit : ∀ c : Char, digits.contains c = true ↔ '0' ≤ c ∧ c ≤ '9' := by
    intro c
    simp [CharSet.contains, CharSet.containsCode, digits, CharSet.ofRange, Char.le_def,
      UInt32.le_iff_toNat_le]
  rw [matches_rowOf_iff]
  simp only [hdigit, and_assoc]
  rfl

theorem matches_dot_iff :
    Matches cs.toArray dot i j ↔ ∃ tail, cs.drop i = '.' :: tail ∧ j = i + 1 := by
  have hdot : ∀ c : Char, (CharSet.ofChar '.').contains c = true ↔ c = '.' := by
    intro c
    have hcode : (CharSet.ofChar '.').contains c = true ↔ c.toNat = '.'.toNat := by
      simp [CharSet.contains, CharSet.containsCode, CharSet.ofChar, CharSet.ofRange]
      omega
    rw [hcode, Char.toNat_inj]
  rw [dot, matches_chars_iff]
  simp only [hdot]
  constructor
  · rintro ⟨c, tail, hdrop, rfl, rfl⟩
    exact ⟨tail, hdrop, rfl⟩
  · rintro ⟨tail, hdrop, rfl⟩
    exact ⟨'.', tail, hdrop, rfl, rfl⟩

theorem holds_textStart_iff (hi : i ≤ cs.length) :
    Assertion.textStart.holds .empty (before cs.toArray i) cs.toArray[i]? = true ↔ i = 0 := by
  rw [Assertion.holds, Option.isNone_iff_eq_none, before]
  by_cases hzero : i = 0
  · simp [hzero]
  · rw [if_neg hzero, List.getElem?_toArray, List.getElem?_eq_none_iff]
    exact iff_of_false (by omega) hzero

theorem holds_textEnd_iff :
    Assertion.textEnd.holds .empty (before cs.toArray i) cs.toArray[i]? = true ↔
      cs.drop i = [] := by
  rw [Assertion.holds, Option.isNone_iff_eq_none, List.getElem?_toArray,
    List.getElem?_eq_none_iff, List.drop_eq_nil_iff]

theorem isIn_threeRows_iff (version : String) :
    (threeRows digits).isIn version = true ↔ IsRelease version := by
  rw [isIn_iff, IsRelease]
  generalize version.toList = cs
  constructor
  · rintro ⟨i, hi, j, _, ⟨rfl, hstart⟩, _, m₁, _, m₂, _, m₃, _, m₄, _, m₅, rfl, hend⟩
    obtain rfl := (holds_textStart_iff hi).mp hstart
    obtain ⟨major, tail₁, h₁, hmajor, rfl⟩ := matches_digits_iff.mp m₁
    obtain ⟨tail₂, h₂, rfl⟩ := matches_dot_iff.mp m₂
    obtain ⟨minor, tail₃, h₃, hminor, rfl⟩ := matches_digits_iff.mp m₃
    obtain ⟨tail₄, h₄, rfl⟩ := matches_dot_iff.mp m₄
    obtain ⟨patch, tail₅, h₅, hpatch, rfl⟩ := matches_digits_iff.mp m₅
    -- Each match begins with what the one before it has left.
    obtain rfl := (drop_of_drop_eq_append h₁).symm.trans h₂
    obtain rfl := (drop_of_drop_eq_cons h₂).symm.trans h₃
    obtain rfl := (drop_of_drop_eq_append h₃).symm.trans h₄
    obtain rfl := (drop_of_drop_eq_cons h₄).symm.trans h₅
    obtain rfl := (drop_of_drop_eq_append h₅).symm.trans (holds_textEnd_iff.mp hend)
    rw [List.append_nil] at h₁
    exact ⟨major, minor, patch, h₁, by simp [hmajor, hminor, hpatch]⟩
  · rintro ⟨major, minor, patch, htext, hgroups⟩
    simp only [List.forall_mem_cons] at hgroups
    obtain ⟨hmajor, hminor, hpatch, -⟩ := hgroups
    have h₁ : cs.drop 0 = major ++ '.' :: (minor ++ '.' :: patch) := htext
    have h₂ := drop_of_drop_eq_append h₁
    have h₃ := drop_of_drop_eq_cons h₂
    have h₄ := drop_of_drop_eq_append h₃
    have h₅ := drop_of_drop_eq_cons h₄
    have h₆ := drop_of_drop_eq_append (h₅.trans (List.append_nil patch).symm)
    exact ⟨0, Nat.zero_le _, _, 0, ⟨rfl, (holds_textStart_iff (Nat.zero_le _)).mpr rfl⟩,
      _, matches_digits_iff.mpr ⟨major, _, h₁, hmajor, rfl⟩,
      _, matches_dot_iff.mpr ⟨_, h₂, rfl⟩,
      _, matches_digits_iff.mpr ⟨minor, _, h₃, hminor, rfl⟩,
      _, matches_dot_iff.mpr ⟨_, h₄, rfl⟩,
      _, matches_digits_iff.mpr ⟨patch, _, h₅.trans (List.append_nil patch).symm, hpatch, rfl⟩,
      rfl, holds_textEnd_iff.mpr h₆⟩

end Pattern

theorem isRelease_iff (version : String) :
    IsRelease version ↔
      ∃ p, Pattern.read? Pattern.releaseText = some p ∧ p.isIn version = true := by
  rw [Pattern.read?_releaseText]
  simp [Pattern.isIn_threeRows_iff]

namespace Template

/-- The validation takes the version to pieces. -/
theorem isVersion_iff (version : String) : isVersion version = true ↔ IsRelease version := by
  have hgroup : ∀ group : List Char, (!group.isEmpty && group.all Char.isDigit) = true ↔
      group ≠ [] ∧ Path.IsNumeral group := by
    intro group
    rw [Bool.and_eq_true, Path.all_isDigit_iff]
    simp
  rw [isVersion, Bool.and_eq_true, decide_eq_true_iff, List.all_eq_true]
  simp only [hgroup]
  constructor
  · rintro ⟨hlength, hgroups⟩
    obtain ⟨major, minor, patch, hpieces⟩ := List.length_eq_three.mp hlength
    refine ⟨major, minor, patch, ?_, hpieces ▸ hgroups⟩
    rw [← Path.join_pieces version.toList, hpieces]
    simp [Path.join, List.intercalate]
  · rintro ⟨major, minor, patch, htext, hgroups⟩
    have hdot : ∀ group ∈ [major, minor, patch], '.' ∉ group := by
      intro group hgroup hmem
      have hdigit := (hgroups group hgroup).2 '.' hmem
      exact absurd hdigit (by decide)
    have hpieces : Path.pieces version.toList = [major, minor, patch] := by
      rw [htext, ← Path.pieces_join (List.cons_ne_nil _ _) hdot]
      simp [Path.join, List.intercalate]
    rw [hpieces]
    exact ⟨rfl, hgroups⟩

instance (version : String) : Decidable (IsRelease version) :=
  decidable_of_iff _ (isVersion_iff version)

end Template

end VnfPayload
