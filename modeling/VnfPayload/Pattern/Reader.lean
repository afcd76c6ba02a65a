import VnfPayload.Pattern.Class

/-!
# Reading patterns

`Pattern.read?` reads a regular expression: alternatives, groups with or without names,
greedy and lazy repetitions, classes with nested classes and set operations, escapes,
Unicode properties, assertions, and the flags

* `i` letters match in either case,
* `m` the anchors match at lines, and with `R` at lines that end with a carriage return,
* `s` a dot matches line feeds,
* `U` lazy and greedy repetitions change places, which does not matter here,
* `u` classes are those of Unicode, which is the default,
* `x` blanks and comments in the pattern mean nothing.

A flag holds up to the end of its group.  There are no back references and no assertions
about more than the neighbouring characters.
-/

namespace VnfPayload.Pattern

open Unicode (CharSet)

/-! ## Repetitions -/

/-- Passes white space, whatever the flags are. -/
def skipWhiteSpace : Read Unit :=
  modify fun s => { s with rest := s.rest.dropWhile Text.isWhiteSpace }

/-- Reads a decimal number of at most 32 bits, white space around it allowed; there need
not be one. -/
def readCount : Read (Option Nat) := do
  skipWhiteSpace
  let s ← get
  let digits := s.rest.takeWhile Char.isDigit
  setRest (s.rest.drop digits.length)
  skipWhiteSpace
  if digits.isEmpty then return none
  else
    let n := Nat.ofDigitChars 10 digits 0
    guard (n < 4294967296)
    return some n

/-- Reads the bounds of a repetition up to the closing brace; the upper one may be open. -/
def readBounds : Read (Nat × Option Nat) := do
  skipSpace
  let low ← readCount
  let bounds ←
    if (← peek) = some ',' then do
      bumpSpace
      match low with
      | none => failure
      | some low =>
          if (← peek) = some '\x7d' then pure (low, none)
          else
            match ← readCount with
            | some high => do
                guard (low ≤ high)
                pure (low, some high)
            | none => failure
    else
      match low with
      | some low => pure (low, some low)
      | none => failure
  guard ((← peek) = some '\x7d')
  bumpSpace
  return bounds

/-- The bounds that a sign of repetition stands for. -/
def signBounds? : Char → Option (Nat × Option Nat)
  | '?' => some (0, some 1)
  | '*' => some (0, none)
  | '+' => some (1, none)
  | _ => none

/-! ## Flags and groups -/

/-- Sets or clears the flag of a letter; other letters are refused. -/
def Flags.change (f : Flags) (letter : Char) (on : Bool) : Option Flags :=
  match letter with
  | 'i' => some { f with caseless := on }
  | 'm' => some { f with lines := on }
  | 's' => some { f with dotAll := on }
  | 'u' => some { f with unicode := on }
  | 'R' => some { f with carriage := on }
  | 'x' => some { f with verbose := on }
  | 'U' => some f
  | _ => none

/-- Reads flags up to a colon or a closing parenthesis; `seen` are the letters before.  A
sign of negation stands at most once, and not at the end. -/
def readFlags : (steps : Nat) → (seen : List Char) → Flags → Read (List Char × Flags)
  | 0, _, _ => failure
  | steps + 1, seen, f => do
      let c ← next
      if c = ':' || c = ')' then
        guard (seen.head? ≠ some '-')
        return (seen, f)
      else
        guard !(seen.contains c)
        bump
        if c = '-' then readFlags steps ('-' :: seen) f
        else
          match f.change c !(seen.contains '-') with
          | some f => readFlags steps (c :: seen) f
          | none => failure

/-- Whether a character may stand in the name of a group, at its beginning or later. -/
def isNameChar (first : Bool) (c : Char) : Bool :=
  c = '_' || Unicode.BinaryProperty.alphabetic.chars.contains c ||
    (!first && (c = '.' || c = '[' || c = ']' ||
      (Unicode.ofCategories ["Nd", "Nl", "No"]).contains c))

/-- Reads the name of a group, which may be given only once. -/
def readGroupName : Read Unit := do
  let s ← get
  let name := s.rest.takeWhile (· ≠ '>')
  match name with
  | [] => failure
  | c :: cs =>
      guard (isNameChar true c && cs.all (isNameChar false))
      guard (name.length < s.rest.length && !s.names.contains name)
      set { s with rest := s.rest.drop (name.length + 1), names := name :: s.names }

/-! ## Expressions -/

/-- What was read of a sequence, in reverse; flags are nothing that can be repeated. -/
abbrev Sequence := List (Option Pattern)

/-- The pattern of what was read of a sequence. -/
def ofSequence (ps : Sequence) : Pattern :=
  ps.foldl
    (fun q p =>
      match p with
      | none => q
      | some p =>
          match q with
          | .empty => p
          | q => .seq p q) .empty

/-- Repeats what was read last, which has to be a pattern. -/
def repeatLast (ps : Sequence) (bounds : Nat × Option Nat) : Read Sequence :=
  match ps with
  | some p :: rest => return some (.repeated p bounds.1 bounds.2) :: rest
  | _ => failure

/-- The anchor at the start or the end, of the text or of its lines. -/
def anchor (f : Flags) (atStart : Bool) : Pattern :=
  let a : Assertion :=
    if !f.lines then if atStart then .textStart else .textEnd
    else if f.carriage then if atStart then .lineStartCr else .lineEndCr
    else if atStart then .lineStart else .lineEnd
  .assertion a CharSet.empty

/-- The characters that a dot matches. -/
def dotSet (f : Flags) : CharSet :=
  if f.dotAll then CharSet.all
  else if f.carriage then (CharSet.ofRanges [(10, 10), (13, 13)]).complement
  else (CharSet.ofRange 10 10).complement

mutual

/-- Reads alternatives up to a closing parenthesis or the end. -/
def readAlternatives : (steps : Nat) → Read Pattern
  | 0 => failure
  | steps + 1 => do
      let p ← readSequence steps []
      if (← peek) = some '|' then
        bump
        return .alt p (← readAlternatives steps)
      else return p

/-- Reads a sequence up to the end of its alternative. -/
def readSequence : (steps : Nat) → Sequence → Read Pattern
  | 0, _ => failure
  | steps + 1, ps => do
      skipSpace
      let f ← flags
      match ← peek with
      | none => return ofSequence ps
      | some c =>
          if c = '|' || c = ')' then return ofSequence ps
          else if c = '(' then
            let p ← readGroup steps
            readSequence steps (p :: ps)
          else if c = '[' then
            let p ← ofSet f (← readClass steps)
            readSequence steps (some p :: ps)
          else if c = '\x7b' then
            guard (ps.head?.any Option.isSome)
            bump
            let bounds ← readBounds
            discard (accept ['?'])
            readSequence steps (← repeatLast ps bounds)
          else
            bump
            match signBounds? c with
            | some bounds =>
                discard (accept ['?'])
                readSequence steps (← repeatLast ps bounds)
            | none =>
                let p ← match c with
                  | '\\' => do
                      match ← readEscape with
                      | .literal c => pure (ofChar f c)
                      | .short c => do
                          guard (f.unicode || c.toNat < 0x80)
                          pure (ofChar f c)
                      | .set s => ofSet f s
                      | .assertion a => pure (.assertion a (wordSet f))
                  | '.' => do
                      guard f.unicode
                      pure (.chars (dotSet f))
                  | '^' => pure (anchor f true)
                  | '$' => pure (anchor f false)
                  | c => pure (ofChar f c)
                readSequence steps (some p :: ps)

/-- Reads a group, or flags that hold up to the end of the group around them. -/
def readGroup : (steps : Nat) → Read (Option Pattern)
  | 0 => failure
  | steps + 1 => do
      let f ← flags
      bumpSpace
      let named ←
        if ← accept ['?', 'P', '<'] then pure true else accept ['?', '<']
      let hasFlags ← if named then pure false else accept ['?']
      if named then readGroupName
      if hasFlags then
        let (seen, g) ← readFlags ((← get).rest.length + 1) [] f
        modify fun s => { s with flags := g }
        let c ← next
        bump
        if c = ')' then
          guard !seen.isEmpty
          return none
      let p ← readAlternatives steps
      guard ((← peek) = some ')')
      bump
      modify fun s => { s with flags := f }
      return some p

end

/-- The largest pattern that is accepted. -/
def maxSize : Nat := 300000

/-- The pattern that a text is, if it is one and not too large.  Each step passes a
character or goes one level of the grammar deeper. -/
def read? (text : String) : Option Pattern :=
  let cs := text.toList
  match (readAlternatives (4 * cs.length + 4)).run ⟨cs, Flags.start, []⟩ with
  | some (p, s) => if s.rest.isEmpty && p.size ≤ maxSize then some p else none
  | none => none

/-- Whether a pattern given as text is in a key; none for a text that is no pattern. -/
def matcher? (text : String) : Option (String → Bool) :=
  (read? text).map isIn

end VnfPayload.Pattern
