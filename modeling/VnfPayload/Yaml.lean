import VnfPayload.Error
import VnfPayload.Text
import VnfPayload.Yaml.Value

/-!
# YAML files

A file is one YAML document whose root is a mapping.  Of several faults, an empty text is
noticed first and several documents next.
-/

namespace VnfPayload.Yaml

/-- The text without a byte order mark, up to its first null character. -/
def content (cs : List Char) : List Char :=
  let cs := match cs with
    | '\uFEFF' :: rest => rest
    | cs => cs
  cs.takeWhile (· ≠ '\x00')

/-- The JSON value of the one document of a text. -/
def read? (cs : List Char) : Option Json :=
  (Node.ofTokens? (Token.scan (content cs))).bind Node.toJson?

/-- Whether a line starts a document and says nothing else. -/
def startsDocument : List Char → Bool
  | '-' :: '-' :: '-' :: rest => Text.isBlank rest
  | _ => false

/-- The members of the mapping that a file is. -/
def readMapping (text : String) : Except ParseFault (Entries Json) :=
  let cs := text.toList
  if Text.isBlank cs then .error .emptyInput
  else if 1 < (Text.lines cs).countP startsDocument then .error .severalDocuments
  else
    match read? cs with
    | none => .error .malformed
    | some (.obj members) => .ok members
    | some _ => .error .rootNotMapping

end VnfPayload.Yaml
