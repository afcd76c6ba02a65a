/-!
# YAML tokens

The tokens that a text is cut into.  Block structure is written by indentation, so the
beginnings and ends of blocks are tokens that stand for no characters.  `Token.invalid`
stands where a text cannot be read further.
-/

namespace VnfPayload.Yaml

/-- A token of a text, as it is written or as the indentation implies it. -/
inductive Token where
  | versionDirective
  | tagDirective (handle start : String)
  | documentStart
  | documentEnd
  | blockSequenceStart
  | blockMappingStart
  | blockEnd
  | flowSequenceStart
  | flowSequenceEnd
  | flowMappingStart
  | flowMappingEnd
  | blockEntry
  | flowEntry
  | key
  | value
  | alias (name : String)
  | anchor (name : String)
  | tag (handle suffix : String)
  | scalar (plain : Bool) (text : String)
  | streamEnd
  | invalid
deriving DecidableEq

namespace Token

/-- Whether the token is a property of the node that follows it. -/
def isProperty : Token → Bool
  | .anchor _ => true
  | .tag .. => true
  | _ => false

end Token

end VnfPayload.Yaml
