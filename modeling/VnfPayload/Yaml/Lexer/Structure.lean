import VnfPayload.Yaml.Lexer

/-!
# Structure in YAML

The tokens that give a document its structure: markers between documents, brackets and
commas of flow collections, dashes, question marks and colons.
-/

namespace VnfPayload.Yaml.Lexer

/-- Scans the end of the text, which ends all blocks. -/
def scanEnd : Scan Unit := do
  let s ← get
  guard !(s.keys.any fun k => k.required && k.possible)
  set { s with keys := s.keys.map fun (k : KeyStart) => { k with possible := false } }
  unindent (-1)
  push .streamEnd 0

/-- Scans a mark between documents, which ends all blocks. -/
def scanMarker (t : Token) : Scan Unit := do
  unindent (-1)
  dropKey
  allowKey false
  let c ← here
  moveTo (c.skipMany 3)
  push t c.column

/-- Closes the pair that is open in the innermost flow sequence. -/
def closePair (column : Nat) : Scan Unit := do
  let s ← get
  match s.pairs with
  | true :: rest =>
      set { s with pairs := false :: rest, inFlowMapping := false }
      push .flowMappingEnd column
  | _ => pure ()

/-- Scans the opening sign of a flow collection. -/
def scanFlowStart (isMapping : Bool) : Scan Unit := do
  saveKey
  deepen
  let c ← here
  modify fun s =>
    { s with
      keys := KeyStart.none :: s.keys
      flowLevel := s.flowLevel + 1
      keyAllowed := true
      cursor := c.skip
      pairs := if isMapping then s.pairs else false :: s.pairs
      inFlowMapping := isMapping || s.inFlowMapping }
  discard (skipGap true)
  push (if isMapping then .flowMappingStart else .flowSequenceStart) c.column

/-- Scans the closing sign of a flow collection. -/
def scanFlowEnd (isMapping : Bool) : Scan Unit := do
  dropKey
  modify fun s =>
    if s.flowLevel = 0 then s
    else { s with keys := s.keys.drop 1, flowLevel := s.flowLevel - 1 }
  allowKey false
  let c ← here
  if !isMapping then
    closePair c.column
    modify fun s => { s with pairs := s.pairs.drop 1 }
  moveTo c.skip
  discard (skipGap true)
  if ← inFlow then
    modify fun s => { s with adjacentAt := some s.cursor.index }
  push (if isMapping then .flowMappingEnd else .flowSequenceEnd) c.column

/-- Scans a comma of a flow collection. -/
def scanFlowEntry : Scan Unit := do
  dropKey
  allowKey true
  let c ← here
  closePair c.column
  moveTo c.skip
  discard (skipGap true)
  push .flowEntry c.column

/-- Scans the dash of an item; the first one starts a block. -/
def scanBlockEntry : Scan Unit := do
  let s ← get
  guard (s.flowLevel = 0 && s.keyAllowed)
  let c := s.cursor
  guard !(c.column = 0 && s.lastColumn = 0 && -1 < s.indent &&
    s.tokens.back?.any Token.isProperty)
  moveTo c.skip
  startBlock c.column none .blockSequenceStart
  let g ← skipGap true
  let e ← here
  guard !(g.sawTab && e.peek = some '-' && isGap (e.peekAt 1))
  discard (skipGap false)
  let e ← here
  if e.peek.any isBreak || isFlowAt e.peek then deepen
  dropKey
  allowKey true
  push .blockEntry e.column

/-- Scans the question mark of a key; the first one starts a block. -/
def scanKey : Scan Unit := do
  let s ← get
  let c := s.cursor
  if s.flowLevel = 0 then
    guard s.keyAllowed
    startBlock c.column none .blockMappingStart
  else modify fun s => { s with inFlowMapping := true }
  dropKey
  allowKey (s.flowLevel = 0)
  moveTo c.skip
  let passed ← skipSpaces c.remaining false
  guard passed
  guard ((← here).peek ≠ some '\t')
  push .key c.column

/-- Scans the colon of a value; what stands before it turns out to be a key. -/
def scanValue : Scan Unit := do
  let s ← get
  let k ← currentKey
  let c := s.cursor
  let opensPair := !s.pairs.isEmpty && !s.inFlowMapping
  if opensPair then modify fun s => { s with pairs := true :: s.pairs.drop 1 }
  moveTo c.skip
  if c.skip.peek = some '\t' then
    let g ← skipGap true
    let next := (← here).peek
    guard (g.sawSpace ||
      !next.any fun x => x = '-' || x = '_' || x.isAlphanum)
  if k.possible then
    insertAt k.token .key
    if opensPair then
      guard (c.line ≤ k.line)
      insertAt k.token .flowMappingStart
    startBlock k.column (some k.token) .blockMappingStart
    deepen
    let k' ← currentKey
    setKey { k' with possible := false }
    allowKey false
  else
    if opensPair then push .flowMappingStart c.column
    if s.flowLevel = 0 then
      guard s.keyAllowed
      startBlock c.column none .blockMappingStart
    deepen
    allowKey (s.flowLevel = 0)
  push .value c.column

/-- The colon of a value in a flow collection that may follow directly. -/
def scanFlowValue : Scan Unit := do
  let s ← get
  let c := s.cursor
  let next := c.peekAt 1
  guard !(s.adjacentAt ≠ some c.index && (next = some '[' || next = some '\x7b'))
  scanValue

end VnfPayload.Yaml.Lexer
