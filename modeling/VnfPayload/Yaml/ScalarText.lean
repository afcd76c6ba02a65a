import VnfPayload.Yaml.Cursor
import VnfPayload.Text.Hex

/-!
# The text of YAML scalars

A scalar is plain, in single or double quotes, or a block of lines.  Within plain and
quoted scalars a line break with the blanks around it is folded: alone it becomes a space,
and of several the first is dropped.  Blocks keep their line breaks, or fold them.

The readers keep what they have read in reverse and are handed the steps that they may
still take; `Cursor.remaining` is always enough.
-/

namespace VnfPayload.Yaml

/-- What stands for the blanks and line breaks between two parts of a scalar. -/
structure Fold where
  /-- The blanks on one line, in reverse. -/
  blanks : List Char
  /-- Whether a line break was passed that is folded. -/
  broken : Bool
  /-- The number of further line breaks. -/
  further : Nat

namespace Fold

/-- Nothing was passed. -/
def none : Fold := ⟨[], false, 0⟩

/-- The text of the fold, in reverse, before a part that starts a line or does not. -/
def text (f : Fold) (newLine : Bool) : List Char :=
  if newLine then
    if f.broken && f.further = 0 then [' '] else List.replicate f.further '\n'
  else f.blanks

end Fold

/-! ## Quoted scalars -/

/-- The escapes of one letter in double quotes, and what they stand for. -/
def escapes : List (Char × Char) :=
  [('0', '\x00'), ('a', '\x07'), ('b', '\x08'), ('t', '\t'), ('\t', '\t'), ('n', '\n'),
    ('v', '\x0b'), ('f', '\x0c'), ('r', '\r'), ('e', '\x1b'), (' ', ' '), ('"', '"'),
    ('/', '/'), ('\\', '\\'), ('N', '\u0085'), ('_', '\u00a0'), ('L', '\u2028'),
    ('P', '\u2029')]

/-- The number of hexadecimal digits that an escape takes. -/
def escapeWidth? (letter : Char) : Option Nat :=
  if letter = 'x' then some 2
  else if letter = 'u' then some 4
  else if letter = 'U' then some 8
  else none

/-- Reads an escape after its backslash. -/
def readEscape (c : Cursor) : Option (Char × Cursor) :=
  match c.peek with
  | none => none
  | some letter =>
      match escapes.find? fun e => e.1 = letter with
      | some e => some (e.2, c.skip)
      | none =>
          match escapeWidth? letter with
          | none => none
          | some width =>
              let digits := (c.rest.drop 1).take width
              if digits.length < width then none
              else do
                let n ← Text.hexNumber? digits
                let x ← Text.charOf? n
                return (x, c.skipMany (width + 1))

/-- Reads the characters of a quoted scalar up to a blank, a line break or the closing
quote.  The truth value says whether an escaped line break ended them. -/
def quotedRun (single : Bool) :
    (steps : Nat) → Cursor → (acc : List Char) → Option (List Char × Cursor × Bool)
  | 0, _, _ => none
  | steps + 1, c, acc =>
      match c.peek with
      | none => some (acc, c, false)
      | some x =>
          if isBlank x || isBreak x then some (acc, c, false)
          else if single then
            if x = '\'' then
              if c.peekAt 1 = some '\'' then
                quotedRun single steps (c.skipMany 2) ('\'' :: acc)
              else some (acc, c, false)
            else quotedRun single steps c.skip (x :: acc)
          else if x = '"' then some (acc, c, false)
          else if x = '\\' then
            if (c.peekAt 1).any isBreak then some (acc, c.skip.skipBreak, true)
            else
              match readEscape c.skip with
              | none => none
              | some (y, c) => quotedRun single steps c (y :: acc)
          else quotedRun single steps c.skip (x :: acc)

/-- Passes the blanks and line breaks within a quoted scalar; `onNewLine` says whether a
line break was passed already. -/
def quotedFold (indent : Int) :
    (steps : Nat) → Cursor → Fold → (onNewLine : Bool) → Option (Fold × Cursor × Bool)
  | 0, _, _, _ => none
  | steps + 1, c, f, onNewLine =>
      match c.peek with
      | none => some (f, c, onNewLine)
      | some x =>
          if isBlank x then
            if onNewLine then
              if x = '\t' && c.column < indent then none
              else quotedFold indent steps c.skipBlank f true
            else
              quotedFold indent steps c.skipBlank { f with blanks := x :: f.blanks } false
          else if isBreak x then
            if onNewLine then
              quotedFold indent steps c.skipBreak { f with further := f.further + 1 } true
            else quotedFold indent steps c.skipBreak ⟨[], true, 0⟩ true
          else some (f, c, onNewLine)

/-- Reads a quoted scalar after its opening quote, up to its closing quote. -/
def quotedFrom (single : Bool) (indent : Int) :
    (steps : Nat) → Cursor → (acc : List Char) → Option (List Char × Cursor)
  | 0, _, _ => none
  | steps + 1, c, acc =>
      if c.column = 0 && c.isDocumentMarker then none
      else if c.peek.isNone || c.column < indent then none
      else
        match quotedRun single c.remaining c acc with
        | none => none
        | some (acc, c, escaped) =>
            if c.peek = some (if single then '\'' else '"') then some (acc, c)
            else
              match quotedFold indent c.remaining c Fold.none escaped with
              | none => none
              | some (f, c, newLine) =>
                  quotedFrom single indent steps c (f.text newLine ++ acc)

/-- Reads a quoted scalar.  What follows it on its line has to be a comment or a sign that
can follow a scalar. -/
def readQuoted (single inFlow : Bool) (indent : Int) (c : Cursor) :
    Option (String × Cursor) := do
  let (acc, e) ← quotedFrom single indent c.remaining c.skip []
  let (e, _) ← e.skip.skipGap? true
  let accepted := match e.peek with
    | none => true
    | some x =>
        isBreak x || (inFlow && (x = ',' || x = '\x7d' || x = ']' || x = ':')) ||
          (x = ':' && c.line = e.line)
  if accepted then some (String.ofList acc.reverse, e) else none

/-! ## Plain scalars -/

/-- Whether the character at the position may be part of a plain scalar. -/
def isPlainAt (inFlow : Bool) (c : Cursor) : Bool :=
  match c.peek with
  | none => false
  | some x =>
      if isBlank x || isBreak x then false
      else if x = ':' then !(isGap (c.peekAt 1) || (inFlow && isFlowAt (c.peekAt 1)))
      else !(inFlow && isFlow x)

/-- Reads the characters of a plain scalar up to a blank or its end. -/
def plainRun (inFlow : Bool) : (steps : Nat) → Cursor → (acc : List Char) → List Char × Cursor
  | 0, c, acc => (acc, c)
  | steps + 1, c, acc =>
      match c.peek with
      | none => (acc, c)
      | some x =>
          if isPlainAt inFlow c then plainRun inFlow steps c.skip (x :: acc) else (acc, c)

/-- Passes the blanks and line breaks within a plain scalar. -/
def plainFold (indent : Int) : (steps : Nat) → Cursor → Fold → Option (Fold × Cursor)
  | 0, _, _ => none
  | steps + 1, c, f =>
      match c.peek with
      | none => some (f, c)
      | some x =>
          if isBlank x then
            if !c.atLineStart then
              plainFold indent steps c.skipBlank { f with blanks := x :: f.blanks }
            else if x = '\t' && c.column < indent then
              match c.skipGap? true with
              | none => none
              | some (c, _) =>
                  if isLineEnd c.peek then plainFold indent steps c f else none
            else plainFold indent steps c.skipBlank f
          else if isBreak x then
            if c.atLineStart then
              plainFold indent steps c.skipBreak { f with further := f.further + 1 }
            else plainFold indent steps c.skipBreak { f with blanks := [], broken := true }
          else some (f, c)

/-- Reads a plain scalar; `f` stands between what was read and what follows. -/
def plainFrom (inFlow : Bool) (indent : Int) :
    (steps : Nat) → Cursor → (acc : List Char) → Fold → Option (List Char × Cursor)
  | 0, _, _, _ => none
  | steps + 1, c, acc, f =>
      if (c.column = 0 && c.isDocumentMarker) || c.peek = some '#' then some (acc, c)
      else if inFlow && c.peek = some '-' && isFlowAt (c.peekAt 1) then none
      else
        let (acc, c, f) :=
          if isPlainAt inFlow c then
            let (acc, c) := plainRun inFlow (steps + 1) c (f.text c.atLineStart ++ acc)
            (acc, { c with atLineStart := false }, Fold.none)
          else (acc, c, f)
        if c.peek.isNone || !isGap c.peek then some (acc, c)
        else
          match plainFold indent (steps + 1) c f with
          | none => none
          | some (f, c) =>
              if !inFlow && c.column < indent then some (acc, c)
              else plainFrom inFlow indent steps c acc f

/-- Reads a plain scalar, whose further lines have to be indented by `indent` outside flow
collections. -/
def readPlain (inFlow : Bool) (indent : Int) (c : Cursor) : Option (String × Cursor) := do
  if inFlow && c.column < indent then none
  let (acc, e) ← plainFrom inFlow indent c.remaining c [] Fold.none
  if acc.isEmpty then none else some (String.ofList acc.reverse, e)

/-! ## Block scalars -/

/-- What becomes of the line breaks at the end of a block. -/
inductive Chomping where
  | strip
  | clip
  | keep
deriving DecidableEq

/-- The treatment that a sign asks for. -/
def chomping? : Option Char → Option Chomping
  | some '+' => some .keep
  | some '-' => some .strip
  | _ => none

/-- The indentation that a digit asks for; zero is refused. -/
def increment? (x : Option Char) : Option (Option Nat) :=
  match x with
  | some d =>
      if d.isDigit then if d = '0' then none else some (some (d.toNat - '0'.toNat))
      else some none
  | none => some none

/-- Reads the signs after the beginning of a block: chomping and indentation, in either
order. -/
def blockHeader (c : Cursor) : Option (Chomping × Option Nat × Cursor) :=
  match chomping? c.peek with
  | some chomping => do
      let c := c.skip
      match ← increment? c.peek with
      | some n => return (chomping, some n, c.skip)
      | none => return (chomping, none, c)
  | none => do
      match ← increment? c.peek with
      | some n =>
          let c := c.skip
          match chomping? c.peek with
          | some chomping => return (chomping, some n, c.skip)
          | none => return (.clip, some n, c)
      | none => return (.clip, none, c)

/-- Passes the indentation of a line and the empty lines before it; counts these. -/
def blockIndent (indent : Nat) : (steps : Nat) → Cursor → (breaks : Nat) → Nat × Cursor
  | 0, c, breaks => (breaks, c)
  | steps + 1, c, breaks =>
      match c.peek with
      | some ' ' =>
          if c.column < indent then blockIndent indent steps c.skipBlank breaks
          else (breaks, c)
      | some x =>
          if isBreak x then blockIndent indent steps c.skipBreak (breaks + 1)
          else (breaks, c)
      | none => (breaks, c)

/-- Passes the empty lines at the beginning of a block; counts them, and finds the greatest
column on the way. -/
def blockFirstIndent : (steps : Nat) → Cursor → (breaks widest : Nat) → Nat × Nat × Cursor
  | 0, c, breaks, widest => (breaks, widest, c)
  | steps + 1, c, breaks, widest =>
      match c.peek with
      | some ' ' => blockFirstIndent steps c.skipBlank breaks widest
      | some x =>
          if isBreak x then
            blockFirstIndent steps c.skipBreak (breaks + 1) (max widest c.column)
          else (breaks, max widest c.column, c)
      | none => (breaks, max widest c.column, c)

/-- What was read of a block so far. -/
structure BlockLines where
  /-- The text, in reverse. -/
  acc : List Char
  /-- Whether a line break follows the text. -/
  broken : Bool
  /-- The number of empty lines after that. -/
  empty : Nat
  /-- Whether the last line began with a blank. -/
  afterBlank : Bool

/-- Reads the lines of a block of the given indentation. -/
def blockLines (literal : Bool) (indent : Nat) :
    (steps : Nat) → Cursor → BlockLines → BlockLines × Cursor
  | 0, c, b => (b, c)
  | steps + 1, c, b =>
      if c.column ≠ indent || c.peek.isNone then (b, c)
      else if indent = 0 && c.isMarker '.' then (b, c)
      else
        let blank := c.peek.any isBlank
        let joint :=
          if !literal && b.broken && !b.afterBlank && !blank then
            if b.empty = 0 then [' '] else List.replicate b.empty '\n'
          else List.replicate (b.empty + if b.broken then 1 else 0) '\n'
        let line := c.rest.takeWhile fun x => !isBreak x
        let acc := line.reverse ++ (joint ++ b.acc)
        let c := c.skipMany line.length
        if c.peek.isNone then (⟨acc, false, 0, blank⟩, c)
        else
          let (breaks, c) := blockIndent indent c.remaining c.skipBreak 0
          blockLines literal indent steps c ⟨acc, true, breaks, blank⟩

/-- The text of a block without any lines. -/
def emptyBlock (chomping : Chomping) (sawBreak : Bool) (breaks : Nat) : String :=
  match chomping with
  | .strip => ""
  | .clip => if sawBreak then "\n" else ""
  | .keep =>
      if !sawBreak then ""
      else if breaks = 0 then "\n"
      else String.ofList (List.replicate breaks '\n')

/-- Reads a block scalar within a node of the given indentation. -/
def readBlock (literal : Bool) (parent : Int) (c : Cursor) : Option (String × Cursor) := do
  let (chomping, increment, c) ← blockHeader c.skip
  let (c, _) ← c.skipGap? true
  if !isLineEnd c.peek then none
  let sawBreak := c.peek.isSome
  let c := c.skipBreak
  if c.peek = some '\t' then none
  let (breaks, indent, c) := match increment with
    | some n =>
        let indent := if 0 ≤ parent then parent.toNat + n else n
        let (breaks, c) := blockIndent indent c.remaining c 0
        (breaks, indent, c)
    | none =>
        let (breaks, widest, c) := blockFirstIndent c.remaining c 0 0
        let indent := max widest (parent + 1).toNat
        (breaks, if 0 < parent then max indent 1 else indent, c)
  if c.peek.isNone then return (emptyBlock chomping sawBreak breaks, c)
  if c.column < indent && parent < c.column then none
  let (b, c) := blockLines literal indent c.remaining c ⟨[], false, breaks, false⟩
  let tail :=
    (if chomping = .strip then []
    else
      List.replicate ((if b.broken then 1 else 0) +
        (if c.peek.isNone && max indent 1 ≤ c.column then 1 else 0)) '\n') ++
    (if chomping = .keep then List.replicate b.empty '\n' else [])
  return (String.ofList (tail ++ b.acc).reverse, c)

end VnfPayload.Yaml
