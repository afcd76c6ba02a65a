/-!
# Diagnostics

A diagnostic is one finding about a template: how severe it is, the code of the rule that
was broken, the place, and a message.
-/

namespace VnfPayload

/-- How bad a finding is: only errors make a registry invalid. -/
inductive Severity where
  | error
  | warning
deriving DecidableEq

namespace Severity

/-- The name of a severity on the wire. -/
def name : Severity → String
  | .error => "error"
  | .warning => "warning"

/-- The severities, in the order in which a fault lists their names. -/
def all : List Severity :=
  [.error, .warning]

end Severity

/-- A finding: the broken rule by its code, the place if there is one, and what is wrong there.
-/
structure Diagnostic where
  severity : Severity
  code : String
  path : Option String
  message : String
deriving DecidableEq

/-- The finding in one line. -/
def Diagnostic.text (d : Diagnostic) : String :=
  match d.path with
  | some path => s!"{d.code} at {path}: {d.message}"
  | none => s!"{d.code}: {d.message}"

end VnfPayload
