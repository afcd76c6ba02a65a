import VnfPayload.Json.Reader

/-!
# Integers are read back

An integer is written in decimal, without superfluous zeros, and with a sign only below
zero.  Its text is read as the same integer as long as what follows cannot be taken for a
part of the number.

Main statements:

* `head?_toDigits_ne_zero` says that positive numbers do not begin with a zero;
* `readNumber_text` says that the text of an integer is read as the integer.
-/

namespace VnfPayload.Json

/-- Whether an integer may begin with a character. -/
def startsNumber (c : Char) : Bool :=
  c = '-' || c.isDigit

/-- Whether a character may go on with a number whose digits were read. -/
def continuesNumber (c : Char) : Bool :=
  c.isDigit || c = '.' || c = 'e' || c = 'E'

/-- A text that does not go on with the number before it. -/
def EndsNumber : List Char → Prop
  | [] => True
  | c :: _ => continuesNumber c = false

theorem ne_of_startsNumber {c d : Char} (hc : startsNumber c = true)
    (hd : startsNumber d = false) :
    c ≠ d := by
  rintro rfl
  rw [hc] at hd
  cases hd

theorem isBlank_of_startsNumber {c : Char} (hc : startsNumber c = true) :
    isBlank c = false := by
  have hspace : c ≠ ' ' := ne_of_startsNumber hc rfl
  have htab : c ≠ '\t' := ne_of_startsNumber hc rfl
  have hline : c ≠ '\n' := ne_of_startsNumber hc rfl
  have hreturn : c ≠ '\r' := ne_of_startsNumber hc rfl
  simp [isBlank, hspace, htab, hline, hreturn]

/-- Positive numbers do not begin with a zero. -/
theorem head?_toDigits_ne_zero {n : Nat} (hn : 0 < n) :
    (Nat.toDigits 10 n).head? ≠ some '0' := by
  induction n using Nat.strongRecOn with
  | ind n ih =>
      rw [Nat.toDigits_eq_if (by decide)]
      split
      next hlt =>
        have hall : ∀ m < 10, 0 < m → Nat.digitChar m ≠ '0' := by decide
        simpa using hall n hlt hn
      next hge =>
        have hhead := ih (n / 10) (by omega) (by omega)
        have hne : Nat.toDigits 10 (n / 10) ≠ [] := Nat.toDigits_ne_nil
        cases hdigits : Nat.toDigits 10 (n / 10) with
        | nil =>
            exact absurd hdigits hne
        | cons c cs =>
            simpa [hdigits] using hhead

/-- The digits of a number are taken up to a text that ends it. -/
theorem takeDigits_toDigits (n : Nat) {rest : List Char} (hrest : EndsNumber rest) :
    takeDigits (Nat.toDigits 10 n ++ rest) = (Nat.toDigits 10 n, rest) := by
  have hdigits : ∀ c ∈ Nat.toDigits 10 n, c.isDigit = true := fun c hc =>
    Nat.isDigit_of_mem_toDigits (by decide) (by decide) hc
  rw [takeDigits, List.takeWhile_append_of_pos hdigits,
    List.dropWhile_append_of_pos hdigits]
  cases rest with
  | nil =>
      simp
  | cons c rest =>
      have hc : c.isDigit = false := by
        simp only [EndsNumber, continuesNumber, Bool.or_eq_false_iff] at hrest
        exact hrest.1.1.1
      simp [hc]

theorem readWhole_toDigits (n : Nat) {rest : List Char} (hrest : EndsNumber rest) :
    readWhole (Nat.toDigits 10 n ++ rest) = some (Nat.toDigits 10 n, rest) := by
  rw [readWhole, takeDigits_toDigits n hrest]
  split
  next heq =>
    rw [Prod.mk.injEq] at heq
    exact absurd heq.1 Nat.toDigits_ne_nil
  next c cs _ heq =>
    rw [Prod.mk.injEq] at heq
    rcases Nat.eq_zero_or_pos n with rfl | hn
    · simp [Nat.toDigits_zero] at heq
    · exact absurd (by rw [heq.1]; rfl) (head?_toDigits_ne_zero hn)
  next heq =>
    rw [heq]

theorem readFraction_of_endsNumber {rest : List Char} (hrest : EndsNumber rest) :
    readFraction rest = some (none, rest) := by
  cases rest with
  | nil =>
      rfl
  | cons c rest =>
      have hc : c ≠ '.' := by
        rintro rfl
        simp [EndsNumber, continuesNumber] at hrest
      simp [readFraction, hc]

theorem readExponent_of_endsNumber {rest : List Char} (hrest : EndsNumber rest) :
    readExponent rest = some (none, rest) := by
  cases rest with
  | nil =>
      rfl
  | cons c rest =>
      simp only [EndsNumber, continuesNumber, Bool.or_eq_false_iff, decide_eq_false_iff_not]
        at hrest
      simp [readExponent, hrest.1.2, hrest.2]

/-- Whole digits without a fraction and an exponent are an integer, if it fits; a zero
may not have a sign. -/
theorem ofParts_toDigits {negative : Bool} {n : Nat} {i : WideInt}
    (hzero : negative = true → n ≠ 0)
    (hi : i.val = if negative then -(n : Int) else n) :
    ofParts negative (Nat.toDigits 10 n) none none = some (.int i) := by
  have hfits : WideInt.ofInt? i.val = some i := by
    rw [WideInt.ofInt?, dif_pos ⟨i.lower, i.upper⟩]
  have hsign : (negative && decide (n = 0)) = false := by
    cases negative with
    | false =>
        rfl
    | true =>
        simpa using hzero rfl
  simp [ofParts, Nat.ofDigitChars_ten_toDigits, hsign, ← hi, hfits]

theorem readUnsigned_toDigits {negative : Bool} {n : Nat} {i : WideInt}
    (hzero : negative = true → n ≠ 0)
    (hi : i.val = if negative then -(n : Int) else n)
    {rest : List Char} (hrest : EndsNumber rest) :
    readUnsigned negative (Nat.toDigits 10 n ++ rest) = some (.int i, rest) := by
  simp [readUnsigned, readWhole_toDigits n hrest, readFraction_of_endsNumber hrest,
    readExponent_of_endsNumber hrest, ofParts_toDigits hzero hi]

/-- A number is written with at least one digit, which comes first. -/
theorem exists_toDigits_cons (n : Nat) :
    ∃ c cs, Nat.toDigits 10 n = c :: cs ∧ c.isDigit = true := by
  cases hdigits : Nat.toDigits 10 n with
  | nil =>
      exact absurd hdigits Nat.toDigits_ne_nil
  | cons c cs =>
      have hmem : c ∈ Nat.toDigits 10 n := by simp [hdigits]
      exact ⟨c, cs, rfl, Nat.isDigit_of_mem_toDigits (by decide) (by decide) hmem⟩

/-- The text of an integer begins with a sign or a digit. -/
theorem exists_text_cons (i : WideInt) :
    ∃ c cs, i.text = c :: cs ∧ startsNumber c = true := by
  unfold WideInt.text
  split
  · exact ⟨_, _, rfl, rfl⟩
  · obtain ⟨c, cs, hcons, hc⟩ := exists_toDigits_cons i.val.natAbs
    exact ⟨c, cs, hcons, by simp [startsNumber, hc]⟩

/-- The text of an integer is read as the integer. -/
theorem readNumber_text (i : WideInt) {rest : List Char} (hrest : EndsNumber rest) :
    readNumber (i.text ++ rest) = some (.int i, rest) := by
  unfold WideInt.text
  split
  next hneg =>
    rw [List.cons_append, readNumber]
    exact readUnsigned_toDigits (fun _ => by omega) (by rw [if_pos rfl]; omega) hrest
  next hpos =>
    have hread : readUnsigned false (Nat.toDigits 10 i.val.natAbs ++ rest) =
        some (.int i, rest) :=
      readUnsigned_toDigits (by simp) (by rw [if_neg (by simp)]; omega) hrest
    obtain ⟨c, cs, hcons, hc⟩ := exists_toDigits_cons i.val.natAbs
    have hsign : c ≠ '-' := by
      rintro rfl
      exact absurd hc (by decide)
    rw [hcons, List.cons_append] at hread ⊢
    rw [← hread]
    simp [readNumber, hsign]

end VnfPayload.Json
