import VnfPayload.Yaml.Lexer.Content
import VnfPayload.Yaml.Lexer.Structure

/-!
# Scanning YAML

`Token.scan` cuts a text into tokens.  Where it cannot be scanned further, the tokens end
with `Token.invalid`.  Tokens that might still have turned out to be a key at that point are
dropped: they were never settled.
-/

namespace VnfPayload.Yaml

namespace Lexer

/-- Scans the token that begins here, by its first characters. -/
def scanToken : Scan Unit := do
  let s ← get
  let c := s.cursor
  let next := c.peekAt 1
  let flow := 0 < s.flowLevel
  match c.peek with
  | none => scanEnd
  | some '[' => scanFlowStart false
  | some '\x7b' => scanFlowStart true
  | some ']' => scanFlowEnd false
  | some '\x7d' => scanFlowEnd true
  | some ',' => scanFlowEntry
  | some '*' => scanAnchor true
  | some '&' => scanAnchor false
  | some '!' => scanTag
  | some '\'' => scanQuoted true
  | some '"' => scanQuoted false
  | some '%' => failure
  | some '@' => failure
  | some '\x60' => failure
  | some '-' => if isGap next then scanBlockEntry else scanPlain
  | some '?' => if isGap next then scanKey else scanPlain
  | some ':' =>
      if isGap next then scanValue
      else if flow && (isFlowAt next || s.adjacentAt = some c.index) then scanFlowValue
      else scanPlain
  | some '|' => if flow then scanPlain else scanBlock true
  | some '>' => if flow then scanPlain else scanBlock false
  | some _ => scanPlain

/-- Scans the next token, after the ends of the blocks that it leaves. -/
def scanNext : Scan Unit := do
  skipToToken (← here).remaining
  dropStaleKeys
  let c ← here
  unindent c.column
  if c.peek.isNone then scanEnd
  else if c.column = 0 && c.peek = some '%' then scanDirective
  else if c.column = 0 && c.isMarker '-' then scanMarker .documentStart
  else if c.column = 0 && c.isMarker '.' then
    scanMarker .documentEnd
    discard (skipGap true)
    guard (isLineEnd (← here).peek)
  else
    guard (!decide ((c.column : Int) < (← get).indent))
    scanToken

/-- The tokens of a text that could not be scanned further. -/
def cutOff (s : Lexer) : List Token :=
  let settled := s.keys.foldl (fun n k => if k.possible then min n k.token else n) s.tokens.size
  s.tokens.toList.take settled ++ [.invalid]

/-- Scans tokens up to the end of the text or to the first that cannot be scanned. -/
def scanFrom : (steps : Nat) → Lexer → List Token
  | 0, s => s.cutOff
  | steps + 1, s =>
      match scanNext.run s with
      | none => s.cutOff
      | some (_, s) =>
          if s.tokens.back? = some .streamEnd then s.tokens.toList else scanFrom steps s

end Lexer

/-- The tokens of a text.  Every step passes a character, but for the last one. -/
def Token.scan (cs : List Char) : List Token :=
  Lexer.scanFrom (cs.length + 2) (Lexer.start cs)

end VnfPayload.Yaml
