import VnfPayload.Pattern.Escape

/-!
# Classes in brackets

A class lists characters, ranges, escapes and further classes.  `&&`, `--` and `~~` combine
what stands on their sides, from left to right.
-/

namespace VnfPayload.Pattern

open Unicode (CharSet)

/-- The operations on classes: what is in both, in the first only, or in one of them only. -/
inductive SetOp where
  | inter
  | diff
  | symmDiff

/-- Applies an operation to two classes, each closed under case if the flags ask for it. -/
def SetOp.apply (f : Flags) : SetOp → CharSet → CharSet → CharSet
  | .inter, s, t => (folded f s).inter (folded f t)
  | .diff, s, t => (folded f s).diff (folded f t)
  | .symmDiff, s, t => (folded f s).symmDiff (folded f t)

/-- The class so far: a left operand with its operation, and the members after it. -/
structure ClassParts where
  left : Option (SetOp × CharSet)
  members : CharSet

/-- The class of its parts: the operation, if there is one, applied to its operands. -/
def ClassParts.total (f : Flags) (p : ClassParts) : CharSet :=
  match p.left with
  | none => p.members
  | some (op, s) => op.apply f s p.members

/-- Reads an ASCII class such as `[:alpha:]`, if there is one. -/
def readAsciiClass : Read (Option CharSet) := do
  let s ← get
  match s.rest with
  | '[' :: ':' :: rest =>
      let (isNegated, rest) := match rest with
        | '^' :: rest => (true, rest)
        | rest => (false, rest)
      let name := rest.takeWhile (· ≠ ':')
      let after := rest.dropWhile (· ≠ ':')
      match after, asciiClasses.find? fun e => e.1.toList = name with
      | ':' :: ']' :: after, some (_, ranges) =>
          setRest after
          let set := folded s.flags (CharSet.ofRanges ranges)
          return some (if isNegated then negated s.flags set else set)
      | _, _ => return none
  | _ => return none

/-- What is listed in a class, or one end of a range: a character or a set. -/
inductive Member where
  | char (c : Char)
  | set (s : CharSet)

/-- Reads one member of a class, or one end of a range.  Without Unicode a character beyond
ASCII has to be given by two digits. -/
def readMember : Read Member := do
  let f ← flags
  let c ← next
  bump
  match ← if c = '\\' then readEscape else pure (.literal c) with
  | .literal c =>
      guard (f.unicode || c.toNat < 0x80)
      return .char c
  | .short c => return .char c
  | .set s => return .set s
  | .assertion _ => failure

/-- The characters of a member. -/
def Member.chars : Member → CharSet
  | .char c => CharSet.ofChar c
  | .set s => s

/-- Reads a member of a class, or a range between two characters. -/
def readRange : Read CharSet := do
  let f ← flags
  let first ← readMember
  skipSpace
  let s ← get
  let isRange := match s.rest with
    | '-' :: rest =>
        match spaced f rest with
        | c :: _ => c ≠ ']' && c ≠ '-'
        | [] => true
    | _ => false
  if !isRange then return first.chars
  else
    bumpSpace
    let last ← readMember
    match first, last with
    | .char a, .char b =>
        guard (a.toNat ≤ b.toNat)
        return CharSet.ofRange a.toNat b.toNat
    | _, _ => failure

/-- Passes hyphens at the beginning of a class; says whether there were any. -/
def leadingHyphens : (steps : Nat) → (passed : Bool) → Read Bool
  | 0, passed => return passed
  | steps + 1, passed => do
      if (← peek) = some '-' then
        bumpSpace
        leadingHyphens steps true
      else return passed

/-- Reads what stands between an opening bracket and the members: a sign of negation,
hyphens, or a closing bracket that is a member. -/
def openClass : Read (Bool × CharSet) := do
  bumpSpace
  let isNegated := (← peek) = some '^'
  if isNegated then bumpSpace
  let hyphens ← leadingHyphens (← get).rest.length false
  if hyphens then return (isNegated, CharSet.ofChar '-')
  else if (← peek) = some ']' then
    bumpSpace
    return (isNegated, CharSet.ofChar ']')
  else return (isNegated, CharSet.empty)

/-- Passes the sign of an operation, if one stands here. -/
def acceptOp : Read (Option SetOp) := do
  if ← accept ['&', '&'] then return some .inter
  else if ← accept ['-', '-'] then return some .diff
  else if ← accept ['~', '~'] then return some .symmDiff
  else return none

mutual

/-- Reads a class up to its closing bracket. -/
def readClass : (steps : Nat) → Read CharSet
  | 0 => failure
  | steps + 1 => do
      let f ← flags
      let (isNegated, members) ← openClass
      let p ← readParts steps ⟨none, members⟩
      let s := folded f (p.total f)
      return if isNegated then negated f s else s

/-- Reads the members of a class, and the operations between them, up to its closing bracket. -/
def readParts : (steps : Nat) → ClassParts → Read ClassParts
  | 0, _ => failure
  | steps + 1, p => do
      let f ← flags
      skipSpace
      let c ← next
      if c = ']' then
        bump
        return p
      else if c = '[' then
        match ← readAsciiClass with
        | some s => readParts steps { p with members := p.members.union s }
        | none =>
            let s ← readClass steps
            readParts steps { p with members := p.members.union s }
      else
        match ← acceptOp with
        | some op => readParts steps ⟨some (op, p.total f), CharSet.empty⟩
        | none =>
            let s ← readRange
            readParts steps { p with members := p.members.union s }

end

end VnfPayload.Pattern
