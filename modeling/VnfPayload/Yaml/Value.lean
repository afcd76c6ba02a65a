import VnfPayload.Json
import VnfPayload.Yaml.Node

/-!
# The JSON value of a YAML node

A plain scalar is null, a truth value, a number or text, by its spelling; other scalars are
text.  The keys of a mapping are scalars, taken as they are written, and no key may occur
twice.  The key `<<` merges mappings: their members come after the mapping's own, and only
where the key is still missing.
-/

namespace VnfPayload.Yaml

/-! ## Plain scalars -/

/-- The text in small letters, within ASCII. -/
def lower (s : String) : String :=
  String.ofList (s.toList.map Char.toLower)

/-- Whether a plain scalar spells null. -/
def isNull (s : String) : Bool :=
  s = "" || s = "~" || lower s = "null"

/-- The truth value that a plain scalar spells, if it spells one. -/
def truth? (s : String) : Option Bool :=
  let w := lower s
  if ["true", "yes", "on", "y"].contains w then some true
  else if ["false", "no", "off", "n"].contains w then some false
  else none

/-- A sign and what follows it. -/
def splitSign : List Char → Bool × List Char
  | '-' :: cs => (true, cs)
  | '+' :: cs => (false, cs)
  | cs => (false, cs)

/-- The base that a number is written in, and its digits. -/
def splitBase : List Char → Nat × List Char
  | '0' :: c :: cs =>
      if c = 'x' || c = 'X' then (16, cs)
      else if c = 'o' || c = 'O' then (8, cs)
      else if c = 'b' || c = 'B' then (2, cs)
      else (10, '0' :: c :: cs)
  | cs => (10, cs)

/-- The value of a digit of a base. -/
def digit? (base : Nat) (c : Char) : Option Nat :=
  match Text.hexDigit? c with
  | some d => if d < base then some d else none
  | none => none

/-- The number that digits of a base spell, underscores aside. -/
def digits? (base : Nat) (cs : List Char) : Option Nat :=
  let ds := cs.filter (· ≠ '_')
  if ds.isEmpty then none
  else ds.foldlM (fun n c => (digit? base c).map (base * n + ·)) 0

/-- The integer that a plain scalar spells, if it fits 64 bits. -/
def integer? (s : String) : Option WideInt :=
  let (negative, cs) := splitSign s.toList
  let (base, cs) := splitBase cs
  match digits? base cs with
  | some n => WideInt.ofInt? (if negative then -n else n)
  | none => none

/-- The digits in front of a text, and what follows them. -/
def spanDigits (cs : List Char) : List Char × List Char :=
  (cs.takeWhile Char.isDigit, cs.dropWhile Char.isDigit)

/-- The power of ten that a number ends with, which has to be the rest of it. -/
def exponent? : List Char → Option Int
  | [] => some 0
  | c :: cs =>
      if c = 'e' || c = 'E' then
        let (negative, ds) := splitSign cs
        if ds.isEmpty || !ds.all Char.isDigit then none
        else
          let n : Int := Nat.ofDigitChars 10 ds 0
          some (if negative then -n else n)
      else none

/-- The number with or without a fraction that a plain scalar spells, if it is finite. -/
def real? (s : String) : Option Binary64 := do
  let (negative, cs) := splitSign s.toList
  let (whole, cs) := spanDigits cs
  let (part, cs) := match cs with
    | '.' :: cs => spanDigits cs
    | cs => ([], cs)
  if whole.isEmpty && part.isEmpty then none
  let e ← exponent? cs
  Binary64.ofDecimal? negative (Nat.ofDigitChars 10 (whole ++ part) 0) (e - part.length)

/-- The value that a plain scalar spells. -/
def plainValue (s : String) : Json :=
  if isNull s then .null
  else
    match truth? s with
    | some b => .bool b
    | none =>
        match integer? s with
        | some n => .num (.int n)
        | none =>
            match real? s with
            | some x => .num (.real x)
            | none => .str s

/-- The value of a scalar: its tag decides first, and then its spelling if it is plain. -/
def scalarValue (plain : Bool) (tag : Option TagKind) (s : String) : Json :=
  if tag = some .null then .null
  else if !plain || tag = some .text then .str s
  else plainValue s

namespace Node

/-- The key that a node is, if it can be one. -/
def key? : Node → Option String
  | .scalar plain tag text =>
      if tag = some .null || (plain && tag ≠ some .text && isNull text) then none
      else some text
  | _ => none

/-- Whether a key merges mappings. -/
def isMerge : Node → Bool
  | .scalar true tag "<<" => tag ≠ some .text
  | _ => false

/-- The members of a mapping, split into its own and those merged into it. -/
structure Members where
  own : Entries Json
  merged : List (String × Json)

/-- The members with those that are merged into them where the key is missing. -/
def Members.toEntries (m : Members) : Entries Json :=
  m.merged.foldl
    (fun es e => if (Entries.get? es e.1).isSome then es else Entries.insert es e.1 e.2)
    m.own

mutual

/-- The JSON value of a node, unless a key of it is repeated or no scalar. -/
def toJson? : Node → Option Json
  | .scalar plain tag text => some (scalarValue plain tag text)
  | .sequence items => (itemsToJson? items).map .arr
  | .mapping pairs => (pairsToJson? pairs).map fun m => .obj m.toEntries

/-- The JSON values of the items of a sequence. -/
def itemsToJson? : List Node → Option (List Json)
  | [] => some []
  | x :: xs =>
      match toJson? x, itemsToJson? xs with
      | some j, some js => some (j :: js)
      | _, _ => none

/-- The members of a mapping, its own and those merged into it. -/
def pairsToJson? : List (Node × Node) → Option Members
  | [] => some ⟨[], []⟩
  | (k, v) :: rest =>
      match pairsToJson? rest with
      | none => none
      | some m =>
          if isMerge k then
            (mergedMembers? v).map fun es => { m with merged := es ++ m.merged }
          else
            match k.key?, toJson? v with
            | some key, some j =>
                if (Entries.get? m.own key).isSome then none
                else some { m with own := (key, j) :: m.own }
            | _, _ => none

/-- The members that a merged node adds: those of a mapping, or of the mappings of a
sequence; null adds none. -/
def mergedMembers? : Node → Option (List (String × Json))
  | .mapping pairs => (pairsToJson? pairs).map Members.toEntries
  | .sequence items => mergedItems? items
  | .scalar plain tag text =>
      if scalarValue plain tag text = .null then some [] else none

/-- The members of the merged mappings of a sequence. -/
def mergedItems? : List Node → Option (List (String × Json))
  | [] => some []
  | x :: xs =>
      match mergedMembers? x, mergedItems? xs with
      | some es, some fs => some (es ++ fs)
      | _, _ => none

end

end Node

end VnfPayload.Yaml
