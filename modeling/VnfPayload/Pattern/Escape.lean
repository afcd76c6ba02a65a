import VnfPayload.Pattern
import VnfPayload.Pattern.Input
import VnfPayload.Text.Hex

/-!
# Escapes in patterns

What follows a backslash: a character that stands for itself, a control character, a code
point, a class of one letter, a Unicode class, or an assertion.  The flags decide which
characters a class holds.
-/

namespace VnfPayload.Pattern

open Unicode (CharSet)

/-! ## Characters and classes -/

/-- The set with both cases of the letters in it, if the flags ask for that. -/
def folded (f : Flags) (s : CharSet) : CharSet :=
  if !f.caseless then s
  else if f.unicode then Unicode.closeUnderCase s
  else
    (List.range 26).foldl
      (fun t i =>
        if s.containsCode (65 + i) || s.containsCode (97 + i) then
          (t.union (CharSet.ofRange (65 + i) (65 + i))).union
            (CharSet.ofRange (97 + i) (97 + i))
        else t) s

/-- The characters that are not in the set; without Unicode, of the first 256. -/
def negated (f : Flags) (s : CharSet) : CharSet :=
  if f.unicode then s.complement else (CharSet.ofRange 0 0xFF).diff s

/-- A set as a pattern; without Unicode it may hold ASCII only. -/
def ofSet (f : Flags) (s : CharSet) : Read Pattern := do
  guard (f.unicode || (s.diff (CharSet.ofRange 0 0x7F)).ranges.isEmpty)
  return .chars s

/-- A character as a pattern, in both cases if the flags ask for that. -/
def ofChar (f : Flags) (c : Char) : Pattern :=
  .chars (folded f (CharSet.ofChar c))

/-- The digits under the flags in force. -/
def digitSet (f : Flags) : CharSet :=
  if f.unicode then Unicode.digits else CharSet.ofRange 48 57

/-- White space under the flags in force. -/
def spaceSet (f : Flags) : CharSet :=
  if f.unicode then Unicode.whiteSpace else CharSet.ofRanges [(9, 13), (32, 32)]

/-- The characters of words under the flags in force. -/
def wordSet (f : Flags) : CharSet :=
  if f.unicode then Unicode.wordChars
  else CharSet.ofRanges [(48, 57), (65, 90), (95, 95), (97, 122)]

/-- The class that an escape of one letter stands for; a capital letter negates it. -/
def escapeClass? (f : Flags) (c : Char) : Option CharSet :=
  match c with
  | 'd' => some (digitSet f)
  | 's' => some (spaceSet f)
  | 'w' => some (wordSet f)
  | 'D' => some (negated f (digitSet f))
  | 'S' => some (negated f (spaceSet f))
  | 'W' => some (negated f (wordSet f))
  | _ => none

/-- The classes with a name and their ranges, all of them within ASCII. -/
def asciiClasses : List (String × List (Nat × Nat)) :=
  [("alnum", [(48, 57), (65, 90), (97, 122)]),
    ("alpha", [(65, 90), (97, 122)]),
    ("ascii", [(0, 127)]),
    ("blank", [(9, 9), (32, 32)]),
    ("cntrl", [(0, 31), (127, 127)]),
    ("digit", [(48, 57)]),
    ("graph", [(33, 126)]),
    ("lower", [(97, 122)]),
    ("print", [(32, 126)]),
    ("punct", [(33, 47), (58, 64), (91, 96), (123, 126)]),
    ("space", [(9, 13), (32, 32)]),
    ("upper", [(65, 90)]),
    ("word", [(48, 57), (65, 90), (95, 95), (97, 122)]),
    ("xdigit", [(48, 57), (65, 70), (97, 102)])]

/-! ## Escapes -/

/-- What an escape stands for. -/
inductive Escape where
  | literal (c : Char)
  /-- A character given by two hexadecimal digits. -/
  | short (c : Char)
  | set (s : CharSet)
  | assertion (a : Assertion)

/-- The character of a code point in hexadecimal digits. -/
def namedChar (digits : List Char) : Read Char :=
  match (Text.hexNumber? digits).bind Text.charOf? with
  | some c => pure c
  | none => failure

/-- Reads so many characters, blanks between them aside. -/
def collect : (count : Nat) → Read (List Char)
  | 0 => return []
  | count + 1 => do
      skipSpace
      let c ← next
      bump
      return c :: (← collect count)

/-- Reads the characters up to a closing brace. -/
def collectBraced : (steps : Nat) → Read (List Char)
  | 0 => failure
  | steps + 1 => do
      skipSpace
      let c ← next
      bump
      if c = '\x7d' then return [] else return c :: (← collectBraced steps)

/-- Reads the digits of a hexadecimal escape of so many digits, or in braces. -/
def readHex (width : Nat) : Read Escape := do
  skipSpace
  if (← next) = '\x7b' then
    bump
    let digits ← collectBraced ((← get).rest.length + 1)
    guard !digits.isEmpty
    return .literal (← namedChar digits)
  else
    let c ← namedChar (← collect width)
    return if width = 2 then .short c else .literal c

/-- The text before and after the first separator, if there is one. -/
def splitOnce (sep : List Char) : List Char → Option (List Char × List Char)
  | [] => none
  | c :: cs =>
      if sep.isPrefixOf (c :: cs) then some ([], (c :: cs).drop sep.length)
      else (splitOnce sep cs).map fun r => (c :: r.1, r.2)

/-- The set of a Unicode class, and whether the class is to be negated. -/
def unicodeClass? (name : List Char) : Option (CharSet × Bool) :=
  let valued (r : List Char × List Char) : Option CharSet :=
    Unicode.valued? (Unicode.plainName r.1) (Unicode.plainName r.2)
  match splitOnce ['!', '='] name with
  | some r => (valued r).map fun s => (s, true)
  | none =>
      match splitOnce [':'] name with
      | some r => (valued r).map fun s => (s, false)
      | none =>
          match splitOnce ['='] name with
          | some r => (valued r).map fun s => (s, false)
          | none => (Unicode.named? (Unicode.plainName name)).map fun s => (s, false)

/-- Reads the name of a Unicode class, of one letter or in braces. -/
def readUnicodeClass (isNegated : Bool) : Read CharSet := do
  let f ← flags
  guard f.unicode
  skipSpace
  let c ← next
  let name ←
    if c = '\x7b' then do
      bump
      collectBraced ((← get).rest.length + 1)
    else do
      guard (c ≠ '\\')
      bumpSpace
      pure [c]
  match unicodeClass? name with
  | none => failure
  | some (s, differs) =>
      let s := folded f s
      return if isNegated != differs then negated f s else s

/-- The boundaries of words with a name. -/
def namedBoundary? (name : List Char) : Option Assertion :=
  match String.ofList name with
  | "start" => some .wordStart
  | "end" => some .wordEnd
  | "start-half" => some .wordStartHalf
  | "end-half" => some .wordEndHalf
  | _ => none

/-- Whether a character may be part of the name of a boundary. -/
def isBoundaryChar (c : Char) : Bool :=
  c.isAlpha || c = '-'

/-- Reads the letters and hyphens of a name. -/
def boundaryName : (steps : Nat) → Read (List Char)
  | 0 => return []
  | steps + 1 => do
      match ← peek with
      | some c =>
          if isBoundaryChar c then
            bumpSpace
            return c :: (← boundaryName steps)
          else return []
      | none => return []

/-- Reads what follows the escape of a boundary: a name in braces, if there is one. -/
def readBoundary : Read Assertion := do
  if (← peek) ≠ some '\x7b' then return .wordBoundary
  let s ← get
  bumpSpace
  let c ← next
  if isBoundaryChar c then
    let name ← boundaryName s.rest.length
    guard ((← peek) = some '\x7d')
    bump
    match namedBoundary? name with
    | some a => return a
    | none => failure
  else
    set s
    return .wordBoundary

/-- The characters that stand for themselves after a backslash. -/
def isEscapable (c : Char) : Bool :=
  c.toNat < 0x80 && !c.isAlphanum && c ≠ '<' && c ≠ '>'

/-- The control characters with an escape of one letter. -/
def controlEscapes : List (Char × Char) :=
  [('a', '\x07'), ('f', '\x0c'), ('t', '\t'), ('n', '\n'), ('r', '\r'), ('v', '\x0b')]

/-- Reads what follows a backslash. -/
def readEscape : Read Escape := do
  let f ← flags
  let c ← next
  bump
  if isEscapable c then return .literal c
  match controlEscapes.find? fun e => e.1 = c with
  | some e => return .literal e.2
  | none =>
      match escapeClass? f c with
      | some s => return .set s
      | none =>
          match c with
          | 'x' => readHex 2
          | 'u' => readHex 4
          | 'U' => readHex 8
          | 'p' => return .set (← readUnicodeClass false)
          | 'P' => return .set (← readUnicodeClass true)
          | 'A' => return .assertion .textStart
          | 'z' => return .assertion .textEnd
          | 'b' => return .assertion (← readBoundary)
          | 'B' => return .assertion .noWordBoundary
          | '<' => return .assertion .wordStart
          | '>' => return .assertion .wordEnd
          | _ => failure

end VnfPayload.Pattern
