import VnfPayload.Json
import VnfPayload.Json.Quoted

/-!
# JSON text

`Json.compact` writes a value without any blanks, `Json.pretty` with two blanks of
indentation a level and one item on a line.  Both keep the order of members.
-/

namespace VnfPayload.Json

mutual

/-- The text of a value without any blanks. -/
def compact : Json → List Char
  | .null => ['n', 'u', 'l', 'l']
  | .bool true => ['t', 'r', 'u', 'e']
  | .bool false => ['f', 'a', 'l', 's', 'e']
  | .num n => n.text
  | .str s => Quoted.write s
  | .arr [] => ['[', ']']
  | .arr (x :: xs) => '[' :: (compact x ++ compactItems xs)
  | .obj [] => ['\x7b', '\x7d']
  | .obj ((k, x) :: es) =>
      '\x7b' :: (Quoted.write k ++ ':' :: (compact x ++ compactMembers es))

/-- The items that follow a first one, and the closing bracket. -/
def compactItems : List Json → List Char
  | [] => [']']
  | x :: xs => ',' :: (compact x ++ compactItems xs)

/-- The members that follow a first one, and the closing brace. -/
def compactMembers : List (String × Json) → List Char
  | [] => ['\x7d']
  | (k, x) :: es => ',' :: (Quoted.write k ++ ':' :: (compact x ++ compactMembers es))

end

/-- A new line, indented for a level. -/
def lineBreak (level : Nat) : List Char :=
  '\n' :: List.replicate (2 * level) ' '

mutual

/-- The value on several lines, for a value that stands at the given level. -/
def prettyAt (level : Nat) : Json → List Char
  | .null => ['n', 'u', 'l', 'l']
  | .bool true => ['t', 'r', 'u', 'e']
  | .bool false => ['f', 'a', 'l', 's', 'e']
  | .num n => n.text
  | .str s => Quoted.write s
  | .arr [] => ['[', ']']
  | .arr (x :: xs) =>
      '[' :: (lineBreak (level + 1) ++ (prettyAt (level + 1) x ++ prettyItems level xs))
  | .obj [] => ['\x7b', '\x7d']
  | .obj ((k, x) :: es) =>
      '\x7b' :: (lineBreak (level + 1) ++ (Quoted.write k ++ ':' :: ' ' ::
        (prettyAt (level + 1) x ++ prettyMembers level es)))

/-- The items that follow a first one, and the closing bracket on its own line. -/
def prettyItems (level : Nat) : List Json → List Char
  | [] => lineBreak level ++ [']']
  | x :: xs =>
      ',' :: (lineBreak (level + 1) ++ (prettyAt (level + 1) x ++ prettyItems level xs))

/-- The members that follow a first one, and the closing brace on its own line. -/
def prettyMembers (level : Nat) : List (String × Json) → List Char
  | [] => lineBreak level ++ ['\x7d']
  | (k, x) :: es =>
      ',' :: (lineBreak (level + 1) ++ (Quoted.write k ++ ':' :: ' ' ::
        (prettyAt (level + 1) x ++ prettyMembers level es)))

end

/-- The text of a value on several lines. -/
def pretty (j : Json) : List Char :=
  prettyAt 0 j

/-- The text of a value in one line, as it is sent. -/
def text (j : Json) : String :=
  String.ofList j.compact

/-- The text of a value on several lines, for people to read. -/
def prettyText (j : Json) : String :=
  String.ofList j.pretty

end VnfPayload.Json
