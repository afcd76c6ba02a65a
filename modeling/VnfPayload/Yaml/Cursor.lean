/-!
# Positions in a YAML text

A cursor is what is left of a text together with its line, its column and the number of
characters before it.  Indentation is counted in columns from zero.  A line ends with a
line feed, a carriage return or both.
-/

namespace VnfPayload.Yaml

/-- Whether the character ends a line. -/
def isBreak (c : Char) : Bool :=
  c = '\n' || c = '\r'

/-- Whether the character is a space or a tab. -/
def isBlank (c : Char) : Bool :=
  c = ' ' || c = '\t'

/-- Whether a character belongs to the writing of flow collections. -/
def isFlow (c : Char) : Bool :=
  c = ',' || c = '[' || c = ']' || c = '\x7b' || c = '\x7d'

/-- Whether the text ends here or the character is white space. -/
def isGap : Option Char → Bool
  | none => true
  | some c => isBlank c || isBreak c

/-- Whether the line or the text ends here. -/
def isLineEnd : Option Char → Bool
  | none => true
  | some c => isBreak c

/-- Whether a character of flow collections stands here. -/
def isFlowAt : Option Char → Bool
  | none => false
  | some c => isFlow c

/-- A position in a text, with what is left of it. -/
structure Cursor where
  rest : List Char
  line : Nat
  column : Nat
  index : Nat
  /-- Whether only blanks stand before the position on its line. -/
  atLineStart : Bool

namespace Cursor

/-- The position at the beginning of a text. -/
def start (cs : List Char) : Cursor :=
  ⟨cs, 0, 0, 0, true⟩

/-- The next character, if there is one. -/
def peek (c : Cursor) : Option Char :=
  c.rest.head?

/-- The character at a distance, if there is one. -/
def peekAt (c : Cursor) (offset : Nat) : Option Char :=
  c.rest[offset]?

/-- The number of steps that lead past the whole text. -/
def remaining (c : Cursor) : Nat :=
  c.rest.length + 1

/-- Goes on by blanks or by characters of a comment. -/
def skipBlanks (c : Cursor) (count : Nat) : Cursor :=
  { c with rest := c.rest.drop count, column := c.column + count, index := c.index + count }

/-- Goes on by one blank. -/
def skipBlank (c : Cursor) : Cursor :=
  c.skipBlanks 1

/-- Goes on by characters that are not blank. -/
def skipMany (c : Cursor) (count : Nat) : Cursor :=
  { c.skipBlanks count with atLineStart := false }

/-- Goes on by one character that is not blank. -/
def skip (c : Cursor) : Cursor :=
  c.skipMany 1

/-- Goes on to the next line, if the line ends here. -/
def skipBreak (c : Cursor) : Cursor :=
  match c.rest with
  | '\r' :: '\n' :: rest => ⟨rest, c.line + 1, 0, c.index + 2, true⟩
  | '\n' :: rest => ⟨rest, c.line + 1, 0, c.index + 1, true⟩
  | '\r' :: rest => ⟨rest, c.line + 1, 0, c.index + 1, true⟩
  | _ => c

/-- Whether a line of a marker character three times begins here. -/
def isMarker (c : Cursor) (marker : Char) : Bool :=
  c.peek = some marker && c.peekAt 1 = some marker && c.peekAt 2 = some marker &&
    isGap (c.peekAt 3)

/-- Whether a line that starts or ends a document begins here. -/
def isDocumentMarker (c : Cursor) : Bool :=
  c.isMarker '-' || c.isMarker '.'

/-- Goes on to the end of the line. -/
def skipLine (c : Cursor) : Cursor :=
  c.skipBlanks (c.rest.takeWhile fun x => !isBreak x).length

end Cursor

/-- What was passed on the way to the end of a line. -/
structure Gap where
  length : Nat
  sawTab : Bool
  sawSpace : Bool

/-- The blanks and the comment that a text begins with.  Tabs count as blanks only if
allowed; a comment has to be set off by a blank. -/
def gap? (tabs : Bool) (passed : Gap) : List Char → Option Gap
  | ' ' :: rest => gap? tabs { passed with length := passed.length + 1, sawSpace := true } rest
  | '\t' :: rest =>
      if tabs then
        gap? tabs { passed with length := passed.length + 1, sawTab := true } rest
      else some passed
  | '#' :: rest =>
      if passed.sawTab || passed.sawSpace then
        some { passed with
          length := passed.length + 1 + (rest.takeWhile fun x => !isBreak x).length }
      else none
  | _ => some passed

/-- Passes blanks and a comment; fails at a comment that is not set off. -/
def Cursor.skipGap? (c : Cursor) (tabs : Bool) : Option (Cursor × Gap) :=
  (gap? tabs ⟨0, false, false⟩ c.rest).map fun g => (c.skipBlanks g.length, g)

end VnfPayload.Yaml
