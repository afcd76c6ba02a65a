import VnfPayload.Json
import VnfPayload.Json.Quoted

/-!
# Reading JSON text

`Json.read?` reads a text that is one JSON value by the strict grammar, blanks around it
allowed.  A repeated key of an object keeps its first position and takes its last value.
Arrays and objects may be nested up to `Json.maxDepth` deep.

An integer literal that fits 64 bits is an integer; every other number is the nearest
binary64 number, and none is read when it is too large for one.
-/

namespace VnfPayload.Json

/-- How deep arrays and objects may be nested in a text. -/
def maxDepth : Nat := 127

/-- Whether the character may stand between the parts of a JSON text. -/
def isBlank (c : Char) : Bool :=
  c = ' ' || c = '\t' || c = '\n' || c = '\r'

/-- The text after the blanks in front of it. -/
def skipBlanks (cs : List Char) : List Char :=
  cs.dropWhile isBlank

/-- The digits in front of a text, and what follows them. -/
def takeDigits (cs : List Char) : List Char × List Char :=
  (cs.takeWhile Char.isDigit, cs.dropWhile Char.isDigit)

/-- The whole part of a number: it has no superfluous zero in front. -/
def readWhole (cs : List Char) : Option (List Char × List Char) :=
  match takeDigits cs with
  | ([], _) => none
  | ('0' :: _ :: _, _) => none
  | (ds, rest) => some (ds, rest)

/-- The digits after a point, if there is one. -/
def readFraction : List Char → Option (Option (List Char) × List Char)
  | '.' :: rest =>
      match takeDigits rest with
      | ([], _) => none
      | (ds, rest) => some (some ds, rest)
  | rest => some (none, rest)

/-- The digits of an exponent, of which there is at least one. -/
def readExponentDigits (negative : Bool) (cs : List Char) :
    Option (Option Int × List Char) :=
  match takeDigits cs with
  | ([], _) => none
  | (ds, rest) =>
      let n : Int := Nat.ofDigitChars 10 ds 0
      some (some (if negative then -n else n), rest)

/-- The exponent of a number, if there is one, with its sign. -/
def readExponent : List Char → Option (Option Int × List Char)
  | c :: rest =>
      if c = 'e' || c = 'E' then
        match rest with
        | '-' :: rest => readExponentDigits true rest
        | '+' :: rest => readExponentDigits false rest
        | rest => readExponentDigits false rest
      else some (none, c :: rest)
  | [] => some (none, [])

/-- The number of its parts.  Without fraction and exponent it is an integer if it fits 64 bits,
except for minus zero. -/
def ofParts (negative : Bool) (whole : List Char) (fraction : Option (List Char))
    (exponent : Option Int) : Option Number :=
  let digits := whole ++ fraction.getD []
  let n := Nat.ofDigitChars 10 digits 0
  let power : Int := exponent.getD 0 - (fraction.getD []).length
  let real := (Binary64.ofDecimal? negative n power).map Number.real
  if fraction.isSome || exponent.isSome || (negative && n = 0) then real
  else
    match WideInt.ofInt? (if negative then -n else n) with
    | some i => some (.int i)
    | none => real

/-- Reads a number after its sign. -/
def readUnsigned (negative : Bool) (cs : List Char) : Option (Number × List Char) := do
  let (whole, cs) ← readWhole cs
  let (fraction, cs) ← readFraction cs
  let (exponent, cs) ← readExponent cs
  let n ← ofParts negative whole fraction exponent
  return (n, cs)

/-- Reads a number, with a minus sign in front of it or without. -/
def readNumber : List Char → Option (Number × List Char)
  | '-' :: rest => readUnsigned true rest
  | rest => readUnsigned false rest

/-- What follows the first text in the second one, if it begins with it. -/
def dropBeginning? : List Char → List Char → Option (List Char)
  | [], cs => some cs
  | _ :: _, [] => none
  | p :: ps, c :: cs => if p = c then dropBeginning? ps cs else none

/-- Reads the rest of a word that stands for a value. -/
def readWord (word : List Char) (value : Json) (cs : List Char) :
    Option (Json × List Char) :=
  (dropBeginning? word cs).map fun rest => (value, rest)

/-- Reads a value that is neither an array nor an object. -/
def readScalar : List Char → Option (Json × List Char)
  | [] => none
  | '"' :: rest => (Quoted.read rest).map fun r => (.str (String.ofList r.1), r.2)
  | 'n' :: rest => readWord ['u', 'l', 'l'] .null rest
  | 't' :: rest => readWord ['r', 'u', 'e'] (.bool true) rest
  | 'f' :: rest => readWord ['a', 'l', 's', 'e'] (.bool false) rest
  | cs => (readNumber cs).map fun r => (.num r.1, r.2)

mutual

/-- Reads a value nested at most `depth` deep. -/
def readValue : (fuel depth : Nat) → List Char → Option (Json × List Char)
  | 0, _, _ => none
  | fuel + 1, depth, cs =>
      match skipBlanks cs with
      | '[' :: rest =>
          if depth = 0 then none
          else
            match skipBlanks rest with
            | ']' :: rest => some (.arr [], rest)
            | rest => (readItems fuel (depth - 1) rest).map fun r => (.arr r.1, r.2)
      | '\x7b' :: rest =>
          if depth = 0 then none
          else
            match skipBlanks rest with
            | '\x7d' :: rest => some (.obj [], rest)
            | rest =>
                (readMembers fuel (depth - 1) rest).map fun r =>
                  (.obj (Entries.ofPairs r.1), r.2)
      | cs => readScalar cs

/-- Reads the items of an array that is not empty, and its closing bracket. -/
def readItems : (fuel depth : Nat) → List Char → Option (List Json × List Char)
  | 0, _, _ => none
  | fuel + 1, depth, cs =>
      match readValue fuel depth cs with
      | none => none
      | some (x, rest) =>
          match skipBlanks rest with
          | ']' :: rest => some ([x], rest)
          | ',' :: rest => (readItems fuel depth rest).map fun r => (x :: r.1, r.2)
          | _ => none

/-- Reads the members of an object that is not empty, and its closing brace. -/
def readMembers : (fuel depth : Nat) → List Char →
    Option (List (String × Json) × List Char)
  | 0, _, _ => none
  | fuel + 1, depth, cs =>
      match skipBlanks cs with
      | '"' :: rest =>
          match Quoted.read rest with
          | none => none
          | some (key, rest) =>
              match skipBlanks rest with
              | ':' :: rest =>
                  match readValue fuel depth rest with
                  | none => none
                  | some (x, rest) =>
                      match skipBlanks rest with
                      | '\x7d' :: rest => some ([(String.ofList key, x)], rest)
                      | ',' :: rest =>
                          (readMembers fuel depth rest).map fun r =>
                            ((String.ofList key, x) :: r.1, r.2)
                      | _ => none
              | _ => none
      | _ => none

end

/-- Reads a text that is one value.  Every call of the readers goes one character or one
level of the grammar further, so twice the length of the text is fuel enough. -/
def readChars? (cs : List Char) : Option Json :=
  match readValue (2 * cs.length + 2) maxDepth cs with
  | some (j, rest) => if (skipBlanks rest).isEmpty then some j else none
  | none => none

/-- The value that a text is, if it is one. -/
def read? (s : String) : Option Json :=
  readChars? s.toList

end VnfPayload.Json
