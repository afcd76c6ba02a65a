import VnfPayload.Yaml.Lexer

/-!
# Content in YAML

The tokens that carry text: scalars, anchors, aliases, tags and directives.
-/

namespace VnfPayload.Yaml.Lexer

/-! ## Scalars, anchors and tags -/

/-- Scans a scalar with one of the readers. -/
def scanText (plain : Bool) (read : Cursor → Option (String × Cursor)) : Scan Unit := do
  let c ← here
  match read c with
  | some (text, e) =>
      moveTo e
      push (.scalar plain text) c.column
  | none => failure

/-- Scans a scalar in quotes, after which a value may follow directly. -/
def scanQuoted (single : Bool) : Scan Unit := do
  saveKey
  allowKey false
  let s ← get
  scanText false (readQuoted single (0 < s.flowLevel) s.indent)
  let c ← here
  skipToToken c.remaining
  modify fun s => { s with adjacentAt := some s.cursor.index }

/-- Scans a plain scalar. -/
def scanPlain : Scan Unit := do
  saveKey
  allowKey false
  dropNonBlocks (← get).outer.length
  let s ← get
  scanText true (readPlain (0 < s.flowLevel) (s.indent + 1))
  if (← here).atLineStart then allowKey true

/-- Scans a block scalar, literal or folded. -/
def scanBlock (literal : Bool) : Scan Unit := do
  saveKey
  allowKey true
  dropNonBlocks (← get).outer.length
  let s ← get
  scanText false (readBlock literal s.indent)

/-- Whether the character may stand in the name of an anchor. -/
def isAnchorChar (c : Char) : Bool :=
  !(isBlank c || isBreak c || isFlow c || c = '\uFEFF')

/-- Scans an anchor or an alias with its name. -/
def scanAnchor (isAlias : Bool) : Scan Unit := do
  saveKey
  allowKey false
  let c ← here
  let name := (c.rest.drop 1).takeWhile isAnchorChar
  guard !name.isEmpty
  moveTo (c.skipMany (name.length + 1))
  let name := String.ofList name
  push (if isAlias then .alias name else .anchor name) c.column

/-- Whether the character may stand in the handle of a tag. -/
def isWordChar (c : Char) : Bool :=
  c.isAlphanum || c = '_' || c = '-'

/-- Whether the character may stand in a tag between angle brackets. -/
def isUriChar (c : Char) : Bool :=
  c.isAlphanum || c = '-' || "#;/?:@&=+$,_.!~*'()[]%".toList.contains c

/-- Whether a character may be part of a tag after its handle. -/
def isTagChar (c : Char) : Bool :=
  isUriChar c && !isFlow c && c ≠ '!'

/-- The byte of an escape with a percent sign. -/
def uriByte? : List Char → Option Nat
  | '%' :: a :: b :: _ => Text.hexNumber? [a, b]
  | _ => none

/-- The bytes that follow the first byte of a character in UTF-8, and the bits of that
byte. -/
def utf8Lead? (byte : Nat) : Option (Nat × Nat) :=
  if byte < 0x80 then some (0, byte)
  else if 0xC0 ≤ byte && byte < 0xE0 then some (1, byte - 0xC0)
  else if 0xE0 ≤ byte && byte < 0xF0 then some (2, byte - 0xE0)
  else if 0xF0 ≤ byte && byte < 0xF8 then some (3, byte - 0xF0)
  else none

/-- The code point of the escapes of the further bytes. -/
def uriRest? : (count : Nat) → Nat → List Char → Option Nat
  | 0, n, _ => some n
  | count + 1, n, cs => do
      let byte ← uriByte? cs
      if byte / 64 = 2 then uriRest? count (n * 64 + byte % 64) (cs.drop 3) else none

/-- Reads characters of a tag, with escapes by percent signs; gives their number too. -/
def uriText (accepts : Char → Bool) :
    (steps : Nat) → List Char → Option (List Char × Nat)
  | 0, _ => some ([], 0)
  | steps + 1, cs =>
      match cs with
      | [] => some ([], 0)
      | c :: rest =>
          if !accepts c then some ([], 0)
          else if c = '%' then do
            let (more, bits) ← utf8Lead? (← uriByte? cs)
            let x ← Text.charOf? (← uriRest? more bits (cs.drop 3))
            let width := 3 * (more + 1)
            let (text, n) ← uriText accepts steps (cs.drop width)
            return (x :: text, n + width)
          else do
            let (text, n) ← uriText accepts steps rest
            return (c :: text, n + 1)

/-- Scans characters of a tag; there need not be any. -/
def scanUri (accepts : Char → Bool) : Scan (List Char) := do
  let c ← here
  match uriText accepts c.remaining c.rest with
  | some (text, n) =>
      if n ≠ 0 then moveTo (c.skipMany n)
      return text
  | none => failure

/-- Scans the handle of a tag, or what looks like one so far. -/
def scanHandle : Scan (List Char) := do
  let c ← here
  guard (c.peek = some '!')
  let word := (c.rest.drop 1).takeWhile isWordChar
  let c := c.skipMany (word.length + 1)
  if c.peek = some '!' then
    moveTo c.skip
    return '!' :: word ++ ['!']
  else
    moveTo c
    return '!' :: word

/-- Scans a tag: verbatim, with a handle, or short. -/
def scanTag : Scan Unit := do
  saveKey
  allowKey false
  let c ← here
  let (handle, suffix) ←
    if c.peekAt 1 = some '<' then do
      moveTo (c.skipMany 2)
      let suffix ← scanUri isUriChar
      guard ((← here).peek = some '>')
      moveTo (← here).skip
      pure ([], suffix)
    else do
      let handle ← scanHandle
      let suffix ← scanUri isTagChar
      if 2 ≤ handle.length && handle.getLast? = some '!' then do
        guard !suffix.isEmpty
        pure (handle, suffix)
      else
        let suffix := handle.drop 1 ++ suffix
        if suffix.isEmpty then pure ([], ['!']) else pure (['!'], suffix)
  let e ← here
  guard (isGap e.peek || ((← inFlow) && isFlowAt e.peek))
  push (.tag (String.ofList handle) (String.ofList suffix)) c.column

/-! ## Directives -/

/-- Scans one number of a version. -/
def scanVersionNumber : Scan Unit := do
  let c ← here
  let digits := c.rest.takeWhile Char.isDigit
  guard (!digits.isEmpty && digits.length ≤ 9)
  moveTo (c.skipMany digits.length)

/-- Passes blanks. -/
def skipBlankRun : Scan Unit := do
  let c ← here
  moveTo (c.skipBlanks (c.rest.takeWhile isBlank).length)

/-- Scans the version of a directive. -/
def scanVersion : Scan Token := do
  skipBlankRun
  scanVersionNumber
  guard ((← here).peek = some '.')
  moveTo (← here).skip
  scanVersionNumber
  return .versionDirective

/-- Scans the handle of a directive and what it stands for. -/
def scanTagDirective : Scan Token := do
  skipBlankRun
  let handle ← scanHandle
  guard (handle = ['!'] || (2 ≤ handle.length && handle.getLast? = some '!'))
  skipBlankRun
  guard ((← here).peek.any fun x => x = '!' || isTagChar x)
  let start ← scanUri isUriChar
  guard (isGap (← here).peek)
  return .tagDirective (String.ofList handle) (String.ofList start)

/-- Scans a directive; those of other names are passed over. -/
def scanDirective : Scan Unit := do
  unindent (-1)
  dropKey
  allowKey false
  let c ← here
  let name := (c.rest.drop 1).takeWhile isWordChar
  let e := c.skipMany (name.length + 1)
  guard (!name.isEmpty && isGap e.peek)
  moveTo e
  let t ←
    if name = ['Y', 'A', 'M', 'L'] then scanVersion
    else if name = ['T', 'A', 'G'] then scanTagDirective
    else do
      moveTo e.skipLine
      pure (.tagDirective "" "")
  discard (skipGap true)
  let e ← here
  guard (isLineEnd e.peek)
  moveTo e.skipBreak
  push t c.column

end VnfPayload.Yaml.Lexer
