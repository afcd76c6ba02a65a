import VnfPayload.Text.Hex

/-!
# Quoted text

The form in which JSON writes text: between quotes, with a quote, a backslash and the
control characters escaped.  The reader also takes the other escapes of the format; a
surrogate has to be one of a pair.
-/

namespace VnfPayload.Json.Quoted

/-- The escapes of one letter and the characters that they stand for. -/
def shortEscapes : List (Char × Char) :=
  [('"', '"'), ('\\', '\\'), ('b', '\x08'), ('f', '\x0c'), ('n', '\n'), ('r', '\r'),
    ('t', '\t')]

/-- The letter that escapes a character, if it has one. -/
def shortEscape? (c : Char) : Option Char :=
  (shortEscapes.find? fun e => e.2 = c).map Prod.fst

/-- The character that an escape of one letter stands for. -/
def unescape? (letter : Char) : Option Char :=
  if letter = '/' then some '/'
  else (shortEscapes.find? fun e => e.1 = letter).map Prod.snd

/-- The written form of a character inside quotes. -/
def escape (c : Char) : List Char :=
  match shortEscape? c with
  | some letter => ['\\', letter]
  | none =>
      if c.toNat < 0x20 then
        ['\\', 'u', '0', '0', Nat.digitChar (c.toNat / 16), Nat.digitChar (c.toNat % 16)]
      else [c]

/-- The text in quotes, with all escapes that it needs. -/
def write (s : String) : List Char :=
  '"' :: (s.toList.flatMap escape ++ ['"'])

/-- Whether the number is the first half of a pair of surrogates. -/
def isHighSurrogate (w : Nat) : Bool := 0xD800 ≤ w && w < 0xDC00

/-- Whether the number is the second half of a pair of surrogates. -/
def isLowSurrogate (w : Nat) : Bool := 0xDC00 ≤ w && w < 0xE000

/-- The character that a pair of surrogates stands for. -/
def ofSurrogates (high low : Nat) : Char :=
  Char.ofNat (0x10000 + (high - 0xD800) * 0x400 + (low - 0xDC00))

/-- Puts a character in front of the text that was read after it. -/
def prepend (c : Char) : Option (List Char × List Char) → Option (List Char × List Char)
  | some (text, rest) => some (c :: text, rest)
  | none => none

/-- Reads text up to its closing quote; gives the text and what follows the quote. -/
def read : List Char → Option (List Char × List Char)
  | [] => none
  | '"' :: rest => some ([], rest)
  | '\\' :: 'u' :: a :: b :: c :: d :: rest =>
      match Text.hexNumber? [a, b, c, d] with
      | none => none
      | some w =>
          if isLowSurrogate w then none
          else if isHighSurrogate w then
            match rest with
            | '\\' :: 'u' :: e :: f :: g :: h :: rest =>
                match Text.hexNumber? [e, f, g, h] with
                | none => none
                | some low =>
                    if isLowSurrogate low then prepend (ofSurrogates w low) (read rest)
                    else none
            | _ => none
          else prepend (Char.ofNat w) (read rest)
  | '\\' :: letter :: rest =>
      match unescape? letter with
      | none => none
      | some c => prepend c (read rest)
  | c :: rest => if c.toNat < 0x20 || c = '\\' then none else prepend c (read rest)

end VnfPayload.Json.Quoted
