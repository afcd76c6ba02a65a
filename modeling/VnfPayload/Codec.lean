import VnfPayload.Decode

/-!
# JSON forms of names and findings

Enumerated values are written as their names; a finding is a record.
-/

namespace VnfPayload

/-- Reads a severity by its name. -/
def Severity.ofJson : Json → Except ParseFault Severity :=
  Decode.named Severity.all Severity.name

/-- Reads a kind of error by its name. -/
def ErrorKind.ofJson : Json → Except ParseFault ErrorKind :=
  Decode.named ErrorKind.all ErrorKind.name

/-- Reads a kind of node by its name. -/
def NodeKind.ofJson : Json → Except ParseFault NodeKind :=
  Decode.named NodeKind.all NodeKind.name

namespace Diagnostic

/-- The finding as JSON: an absent place is left out. -/
def toJson (d : Diagnostic) : Json :=
  .obj (("severity", .str d.severity.name) :: ("code", .str d.code) ::
    ((match d.path with
      | some path => [("path", .str path)]
      | none => []) ++ [("message", .str d.message)]))

/-- The names of the members, in order of declaration. -/
def memberNames : List String :=
  ["severity", "code", "path", "message"]

/-- Checks one member of a finding by its name; members of other names are passed over. -/
def checkMember : String → Json → Except ParseFault Unit
  | "severity", j => Decode.check Severity.ofJson j
  | "code", j => Decode.check Decode.text j
  | "path", j => Decode.check (Decode.optional Decode.text) j
  | "message", j => Decode.check Decode.text j
  | _, _ => .ok ()

/-- Reads a finding, whose place may be absent. -/
def ofJson (j : Json) : Except ParseFault Diagnostic := do
  let members ← Decode.record memberNames 4 checkMember j
  let severity ← Decode.required members "severity" Severity.ofJson
  let code ← Decode.required members "code" Decode.text
  let path ← Decode.withDefault members "path" none (Decode.optional Decode.text)
  let message ← Decode.required members "message" Decode.text
  return ⟨severity, code, path, message⟩

end Diagnostic

end VnfPayload
