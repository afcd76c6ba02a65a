import VnfPayload.Text

/-!
# The text of a pattern

What is left of a pattern while it is read, together with the flags in force, and the steps
that pass characters.  In verbose mode blanks and comments are passed with them.
-/

namespace VnfPayload.Pattern

/-- The flags that decide what a pattern means. -/
structure Flags where
  /-- Letters match in either case. -/
  caseless : Bool
  /-- The anchors match at lines. -/
  lines : Bool
  /-- A dot matches line feeds. -/
  dotAll : Bool
  /-- Classes are those of Unicode. -/
  unicode : Bool
  /-- Lines may end with a carriage return. -/
  carriage : Bool
  /-- Blanks and comments mean nothing. -/
  verbose : Bool

/-- The flags at the beginning of a pattern. -/
def Flags.start : Flags := ⟨false, false, false, true, false, false⟩

/-- What is left of a pattern, the flags in force, and the names of groups. -/
structure Input where
  rest : List Char
  flags : Flags
  names : List (List Char)

/-- A step of the reading, which may fail. -/
abbrev Read := StateT Input Option

/-- The next character, if there is one. -/
def peek : Read (Option Char) := do
  return (← get).rest.head?

/-- Goes on with another rest of the text. -/
def setRest (rest : List Char) : Read Unit :=
  modify fun s => { s with rest := rest }

/-- The flags in force. -/
def flags : Read Flags := do
  return (← get).flags

/-- The text after white space and comments, which go up to the end of their line. -/
def dropSpace : (steps : Nat) → List Char → List Char
  | 0, cs => cs
  | steps + 1, cs =>
      match cs with
      | [] => []
      | c :: rest =>
          if Text.isWhiteSpace c then dropSpace steps rest
          else if c = '#' then
            dropSpace steps ((rest.dropWhile (· ≠ '\n')).drop 1)
          else cs

/-- The text after what means nothing under the flags. -/
def spaced (f : Flags) (cs : List Char) : List Char :=
  if f.verbose then dropSpace cs.length cs else cs

/-- Passes what means nothing here. -/
def skipSpace : Read Unit :=
  modify fun s => { s with rest := spaced s.flags s.rest }

/-- Passes a character. -/
def bump : Read Unit :=
  modify fun s => { s with rest := s.rest.drop 1 }

/-- Passes a character and what means nothing after it. -/
def bumpSpace : Read Unit := do
  bump
  skipSpace

/-- Passes the text if it stands here; says whether it did. -/
def accept (text : List Char) : Read Bool := do
  let s ← get
  if text.isPrefixOf s.rest then
    setRest (s.rest.drop text.length)
    return true
  else return false

/-- The next character, which has to be there. -/
def next : Read Char := do
  match ← peek with
  | some c => return c
  | none => failure

end VnfPayload.Pattern
