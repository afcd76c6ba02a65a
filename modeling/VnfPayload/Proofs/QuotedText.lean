import VnfPayload.Json.Quoted

/-!
# Quoted text is read back

The written form of a text escapes what may not stand between quotes.  Reading goes on up
to the closing quote, so the text may be followed by anything.

Main statements:

* `read_escape` says that the form of one character is read as this character;
* `read_write` says that a quoted text is read as the text.
-/

namespace VnfPayload

namespace Text

theorem hexDigit?_digitChar {n : Nat} (h : n < 16) :
    hexDigit? (Nat.digitChar n) = some n := by
  have hall : ∀ m < 16, hexDigit? (Nat.digitChar m) = some m := by decide
  exact hall n h

/-- Four hexadecimal digits of a number below 256. -/
theorem hexNumber?_digits {n : Nat} (h : n < 256) :
    hexNumber? ['0', '0', Nat.digitChar (n / 16), Nat.digitChar (n % 16)] = some n := by
  have hhigh := hexDigit?_digitChar (n := n / 16) (by omega)
  have hlow := hexDigit?_digitChar (n := n % 16) (by omega)
  have hzero : hexDigit? '0' = some 0 := hexDigit?_digitChar (n := 0) (by decide)
  simp only [hexNumber?, List.foldlM_cons, List.foldlM_nil, hzero, hhigh, hlow,
    Option.map_some, Option.bind_eq_bind, Option.bind_some, Option.pure_def,
    Option.some.injEq]
  omega

end Text

namespace Json.Quoted

/-- A letter that escapes a character stands for it, and does not begin a code point. -/
theorem unescape?_of_shortEscape? {c letter : Char} (h : shortEscape? c = some letter) :
    letter ≠ 'u' ∧ unescape? letter = some c := by
  have hall : ∀ e ∈ shortEscapes, e.1 ≠ 'u' ∧ unescape? e.1 = some e.2 := by decide
  obtain ⟨e, hfind, rfl⟩ := Option.map_eq_some_iff.mp h
  have he : e.2 = c := by simpa using List.find?_some hfind
  exact he ▸ hall e (List.mem_of_find?_eq_some hfind)

/-- A character without such a letter is neither a quote nor a backslash. -/
theorem ne_of_shortEscape?_eq_none {c : Char} (h : shortEscape? c = none) :
    c ≠ '"' ∧ c ≠ '\\' := by
  constructor
  · rintro rfl
    exact absurd h (by decide)
  · rintro rfl
    exact absurd h (by decide)

/-- The form of one character is read as this character. -/
theorem read_escape (c : Char) (rest : List Char) :
    read (escape c ++ rest) = prepend c (read rest) := by
  cases hshort : shortEscape? c with
  | some letter =>
      obtain ⟨hu, hletter⟩ := unescape?_of_shortEscape? hshort
      simp [escape, hshort, read, hu, hletter]
  | none =>
      obtain ⟨hquote, hslash⟩ := ne_of_shortEscape?_eq_none hshort
      by_cases hcontrol : c.toNat < 0x20
      · have hhex := Text.hexNumber?_digits (n := c.toNat) (by omega)
        have hlow : isLowSurrogate c.toNat = false := by
          simp [isLowSurrogate]
          omega
        have hhigh : isHighSurrogate c.toNat = false := by
          simp [isHighSurrogate]
          omega
        simp [escape, hshort, hcontrol, read, hhex, hlow, hhigh, Char.ofNat_toNat]
      · simp [escape, hshort, hcontrol, read, hslash]

theorem read_flatMap_escape (text rest : List Char) :
    read (text.flatMap escape ++ '"' :: rest) = some (text, rest) := by
  induction text with
  | nil =>
      simp [read]
  | cons c text ih =>
      rw [List.flatMap_cons, List.append_assoc, read_escape, ih]
      rfl

/-- After its opening quote, a quoted text is read as the text. -/
theorem read_write (s : String) (rest : List Char) :
    ∃ inner, write s ++ rest = '"' :: inner ∧ read inner = some (s.toList, rest) := by
  refine ⟨s.toList.flatMap escape ++ '"' :: rest, ?_, read_flatMap_escape _ _⟩
  simp [write]

end Json.Quoted

end VnfPayload
