import VnfPayload.Yaml.ScalarText
import VnfPayload.Yaml.Token

/-!
# The state of a YAML lexer

Where the scanning stands: the place in the text, the tokens so far, the indentations that
are open, and the places where a key may have begun.  A deeper column starts a block, a
smaller one ends it.  A mapping key is recognised only at the colon after it, so its tokens
are inserted where the key began.
-/

namespace VnfPayload.Yaml

namespace Lexer

/-- A place where a key may have begun. -/
structure KeyStart where
  possible : Bool
  required : Bool
  /-- The number of tokens before the key. -/
  token : Nat
  line : Nat
  column : Nat
  index : Nat

/-- No place: no key can begin there. -/
def KeyStart.none : KeyStart := ⟨false, false, 0, 0, 0, 0⟩

/-- An indentation that was left behind by a deeper one. -/
structure Outer where
  indent : Int
  /-- Whether the deeper one is a block of its own, which has to be ended. -/
  isBlock : Bool

end Lexer

open Lexer in
/-- Where the scanning of a text stands. -/
structure Lexer where
  cursor : Cursor
  tokens : Array Token
  /-- The column of the last token. -/
  lastColumn : Nat
  /-- The possible keys, one for each level of flow collections, innermost first. -/
  keys : List KeyStart
  /-- Whether a key may begin here. -/
  keyAllowed : Bool
  indent : Int
  outer : List Outer
  flowLevel : Nat
  /-- For each flow sequence, innermost first, whether a pair is open in it. -/
  pairs : List Bool
  /-- Whether the pair being read stands in a flow mapping. -/
  inFlowMapping : Bool
  /-- Where a value may stand directly after its colon. -/
  adjacentAt : Option Nat

namespace Lexer

/-- A step of the scanning, which may fail. -/
abbrev Scan := StateT Lexer Option

/-- The state before the first token. -/
def start (cs : List Char) : Lexer where
  cursor := Cursor.start cs
  tokens := #[]
  lastColumn := 0
  keys := [KeyStart.none]
  keyAllowed := true
  indent := -1
  outer := []
  flowLevel := 0
  pairs := []
  inFlowMapping := false
  adjacentAt := none

/-- The position in the text. -/
def here : Scan Cursor := do
  return (← get).cursor

/-- Goes on at a position. -/
def moveTo (c : Cursor) : Scan Unit :=
  modify fun s => { s with cursor := c }

/-- Adds a token that stands at a column. -/
def push (t : Token) (column : Nat) : Scan Unit :=
  modify fun s => { s with tokens := s.tokens.push t, lastColumn := column }

/-- Adds a token before those from a position on. -/
def insertAt (position : Nat) (t : Token) : Scan Unit :=
  modify fun s =>
    { s with
      tokens := (s.tokens.extract 0 position).push t ++
        s.tokens.extract position s.tokens.size }

/-- Says whether a key may begin at the next token. -/
def allowKey (allowed : Bool) : Scan Unit :=
  modify fun s => { s with keyAllowed := allowed }

/-- Whether a flow collection is open. -/
def inFlow : Scan Bool := do
  return 0 < (← get).flowLevel

/-- Passes blanks and a comment on the line. -/
def skipGap (tabs : Bool) : Scan Gap := fun s =>
  (s.cursor.skipGap? tabs).map fun r => (r.2, { s with cursor := r.1 })

/-! ## Indentation -/

/-- Ends the blocks that are deeper than a column. -/
def closeBlocks (column : Int) : (levels : Nat) → Scan Unit
  | 0 => pure ()
  | levels + 1 => do
      let s ← get
      if s.indent ≤ column then pure ()
      else
        match s.outer with
        | [] => pure ()
        | o :: rest =>
            set { s with indent := o.indent, outer := rest }
            if o.isBlock then push .blockEnd s.cursor.column
            closeBlocks column levels

/-- Ends the blocks that are deeper than a column, outside flow collections. -/
def unindent (column : Int) : Scan Unit := do
  let s ← get
  if s.flowLevel = 0 then closeBlocks column s.outer.length

/-- Drops the indentations that are no blocks. -/
def dropNonBlocks : (levels : Nat) → Scan Unit
  | 0 => pure ()
  | levels + 1 => do
      let s ← get
      match s.outer with
      | o :: rest =>
          if o.isBlock then pure ()
          else
            set { s with indent := o.indent, outer := rest }
            dropNonBlocks levels
      | [] => pure ()

/-- Starts a block at a column that is deeper than the indentation; its token goes to the
given position, or to the end. -/
def startBlock (column : Nat) (position : Option Nat) (t : Token) : Scan Unit := do
  if ← inFlow then return
  let s ← get
  match s.outer with
  | o :: rest =>
      if s.indent ≤ column && !o.isBlock then set { s with indent := o.indent, outer := rest }
  | [] => pure ()
  let s ← get
  if s.indent < column then
    set { s with outer := ⟨s.indent, true⟩ :: s.outer, indent := column }
    match position with
    | some p => insertAt p t
    | none => push t column

/-- Asks one column more of what follows in the innermost block. -/
def deepen : Scan Unit :=
  modify fun s =>
    match s.outer with
    | o :: _ =>
        if s.flowLevel = 0 && o.isBlock then
          { s with outer := ⟨s.indent, false⟩ :: s.outer, indent := s.indent + 1 }
        else s
    | [] => s

/-! ## Keys -/

/-- Replaces the innermost possible key. -/
def setKey (k : KeyStart) : Scan Unit :=
  modify fun s => { s with keys := k :: s.keys.drop 1 }

/-- The innermost possible key. -/
def currentKey : Scan KeyStart := do
  return (← get).keys.head?.getD KeyStart.none

/-- Notes that a key may begin here. -/
def saveKey : Scan Unit := do
  let s ← get
  if s.keyAllowed then
    let isBlock := match s.outer with
      | o :: _ => o.isBlock
      | [] => false
    let c := s.cursor
    setKey ⟨true, s.flowLevel = 0 && s.indent = c.column && isBlock, s.tokens.size,
      c.line, c.column, c.index⟩

/-- Gives up the innermost possible key, which must not be one that has to be. -/
def dropKey : Scan Unit := do
  let k ← currentKey
  guard !(k.possible && k.required)
  setKey { k with possible := false }

/-- Gives up the keys that can be none any more: outside flow collections a key does not
go beyond its line or 1024 characters. -/
def dropStaleKeys : Scan Unit := do
  let s ← get
  let c := s.cursor
  let isStale (k : KeyStart) : Bool :=
    k.possible && s.flowLevel = 0 && (k.line < c.line || k.index + 1024 < c.index)
  guard !(s.keys.any fun k => isStale k && k.required)
  set { s with
    keys := s.keys.map fun k => if isStale k then { k with possible := false } else k }

/-! ## Gaps between tokens -/

/-- Passes blanks, line breaks and comments up to the next token.  Blocks are not indented
by tabs. -/
def skipToToken : (steps : Nat) → Scan Unit
  | 0 => pure ()
  | steps + 1 => do
      let s ← get
      let c := s.cursor
      match c.peek with
      | some '\t' =>
          if s.flowLevel = 0 && !s.outer.isEmpty && c.atLineStart && c.column < s.indent then
            discard (skipGap true)
            guard (isLineEnd (← here).peek)
          else moveTo c.skipBlank
          skipToToken steps
      | some ' ' =>
          moveTo c.skipBlank
          skipToToken steps
      | some '#' =>
          moveTo c.skipLine
          skipToToken steps
      | some x =>
          if isBreak x then
            moveTo c.skipBreak
            if s.flowLevel = 0 then allowKey true
            skipToToken steps
      | none => pure ()

/-- Passes spaces, line breaks and comments after a question mark; says whether there were
any. -/
def skipSpaces : (steps : Nat) → (passed : Bool) → Scan Bool
  | 0, passed => pure passed
  | steps + 1, passed => do
      let s ← get
      let c := s.cursor
      match c.peek with
      | some ' ' =>
          moveTo c.skipBlank
          skipSpaces steps true
      | some '#' =>
          moveTo c.skipLine
          skipSpaces steps passed
      | some x =>
          if isBreak x then
            moveTo c.skipBreak
            if s.flowLevel = 0 then allowKey true
            skipSpaces steps true
          else pure passed
      | none => pure passed

end Lexer

end VnfPayload.Yaml
