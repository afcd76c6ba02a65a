import VnfPayload.Diagnostic
import VnfPayload.Path

/-!
# Errors

`Error` lists the causes for which a request, a message or a file is refused, and
`ParseFault` those for which a text cannot be read.  The wording stands in
`Error.message?` and `ParseFault.message?` alone.  A text that breaks the grammar of its
format, or holds a value of the wrong type, is refused without a wording of its own.
-/

namespace VnfPayload

/-- Why a text or a JSON value cannot be read. -/
inductive ParseFault where
  | malformed
  | emptyInput
  | severalDocuments
  | rootNotMapping
  | messageNotObject
  | propertiesNotObject (found : NodeKind)
  | missingField (name : String)
  | unknownField (name : String) (expected : List String)
  | unknownVariant (name : String) (expected : List String)
  | wrongType
deriving DecidableEq

/-- Names in quotes as alternatives: two are joined by "or", more are listed. -/
def alternatives : List String → String
  | [] => "nothing"
  | [a] => s!"`{a}`"
  | [a, b] => s!"`{a}` or `{b}`"
  | names => "one of " ++ ", ".intercalate (names.map fun a => s!"`{a}`")

/-- The wording of a fault, if it has one of its own. -/
def ParseFault.message? : ParseFault → Option String
  | .malformed => none
  | .emptyInput => some "empty input"
  | .severalDocuments => some "multi-document YAML is not supported"
  | .rootNotMapping => some "document root must be a YAML mapping"
  | .messageNotObject => some "message root must be a JSON object"
  | .propertiesNotObject found =>
      some s!"property set must be a JSON object, found {found.name}"
  | .missingField name => some s!"missing field `{name}`"
  | .unknownField name expected =>
      some (s!"unknown field `{name}`, expected " ++ alternatives expected)
  | .unknownVariant name expected =>
      some (s!"unknown variant `{name}`, expected " ++ alternatives expected)
  | .wrongType => none

/-- The kinds of errors, under which a caller tells them apart. -/
inductive ErrorKind where
  | malformedPath
  | structuralConflict
  | missingRequiredField
  | unsupportedValueType
  | unknownTemplate
  | config
  | parse
  | serialize
deriving DecidableEq

namespace ErrorKind

/-- The name of a kind of error on the wire. -/
def name : ErrorKind → String
  | .malformedPath => "malformed_path"
  | .structuralConflict => "structural_conflict"
  | .missingRequiredField => "missing_required_field"
  | .unsupportedValueType => "unsupported_value_type"
  | .unknownTemplate => "unknown_template"
  | .config => "config"
  | .parse => "parse"
  | .serialize => "serialize"

/-- The kinds of errors, in the order in which a fault lists their names. -/
def all : List ErrorKind :=
  [.malformedPath, .structuralConflict, .missingRequiredField, .unsupportedValueType,
    .unknownTemplate, .config, .parse, .serialize]

end ErrorKind

/-- Why a request is refused. -/
inductive Error where
  /-- The text of a path is no path. -/
  | malformedPath (path : String) (fault : PathFault)
  /-- The node at the beginning `node` of a path has another kind than it needs. -/
  | structuralConflict (path node : String) (expected found : NodeKind)
  /-- A field that every message carries has no value. -/
  | missingRequiredField (field source : String)
  /-- A property has a value of a kind that it may not have. -/
  | unsupportedValueType (key : String) (found : NodeKind)
  /-- No template is registered for the operation and version. -/
  | unknownTemplate (messageType version : String)
  /-- A registry breaks a rule. -/
  | invalidRegistry (count : Nat) (first : Diagnostic)
  /-- The pattern of sensitive keys cannot be read. -/
  | invalidPattern
  /-- A text cannot be read. -/
  | parse (fault : ParseFault)
deriving DecidableEq

namespace Error

/-- The kind of an error; an invalid registry and an invalid pattern share one. -/
def kind : Error → ErrorKind
  | .malformedPath .. => .malformedPath
  | .structuralConflict .. => .structuralConflict
  | .missingRequiredField .. => .missingRequiredField
  | .unsupportedValueType .. => .unsupportedValueType
  | .unknownTemplate .. => .unknownTemplate
  | .invalidRegistry .. => .config
  | .invalidPattern => .config
  | .parse _ => .parse

/-- The path, field or key that the error is about, if it is about one. -/
def subject? : Error → Option String
  | .malformedPath path _ => some path
  | .structuralConflict path .. => some path
  | .missingRequiredField field _ => some field
  | .unsupportedValueType key _ => some key
  | .unknownTemplate messageType _ => some messageType
  | .invalidRegistry .. => none
  | .invalidPattern => none
  | .parse _ => none

/-- The wording of the error, if it has one. -/
def message? : Error → Option String
  | .malformedPath path fault => some s!"malformed path '{path}': {fault.reason}"
  | .structuralConflict path node expected found =>
      some (s!"structural conflict in '{path}' at '{node}': " ++
        s!"expected {expected.name}, found {found.name}")
  | .missingRequiredField field source =>
      some s!"required field '{field}' is missing (source '{source}')"
  | .unsupportedValueType key found =>
      some s!"property '{key}' has unsupported value type {found.name}"
  | .unknownTemplate messageType version =>
      some s!"no {messageType} template registered for interface version {version}"
  | .invalidRegistry count first =>
      some s!"invalid configuration: {count} registry error(s), first: {first.text}"
  | .invalidPattern => none
  | .parse fault => fault.message?.map fun text => s!"parse error: {text}"

end Error

end VnfPayload
