import VnfPayload.Event
import VnfPayload.Registry.Builtin
import VnfPayload.Registry.Validation
import VnfPayload.Yaml

/-!
# Registry files

A registry file lists templates and says whether they are added to the built-in ones.  The
last template for an operation and version wins.  A file with any error of validation is
refused as a whole; warnings are events.
-/

namespace VnfPayload

/-- What a registry file says. -/
structure RegistryFile where
  includeBuiltin : Bool
  templates : List Template
deriving DecidableEq

namespace RegistryFile

/-- The members that a registry file may have. -/
def memberNames : List String :=
  ["include_builtin", "templates"]

/-- Checks one member of a registry file; no other names are allowed. -/
def checkMember : String → Json → Except ParseFault Unit
  | "include_builtin", j => Decode.check Decode.truth j
  | "templates", j => Decode.check (Decode.items Template.ofJson) j
  | name, _ => .error (.unknownField name memberNames)

/-- Reads a registry file; by default it has no templates and leaves the built-in ones out. -/
def ofMembers (members : Entries Json) : Except ParseFault RegistryFile := do
  Decode.checkAll checkMember members
  let includeBuiltin ← Decode.withDefault members "include_builtin" false Decode.truth
  let templates ←
    Decode.withDefault members "templates" [] (Decode.items Template.ofJson)
  return ⟨includeBuiltin, templates⟩

/-- The registry that the templates of the file are added to. -/
def base (file : RegistryFile) : Registry :=
  if file.includeBuiltin then Registry.builtin else Registry.empty

/-- Adds templates to a registry; the events tell which ones were replaced. -/
def registerAll (r : Registry) : List Template → Registry × List Event
  | [] => (r, [])
  | t :: ts =>
      let (r', old) := r.register t
      let (r'', events) := registerAll r' ts
      match old with
      | some u => (r'', .replaced u.operation u.version :: events)
      | none => (r'', events)

/-- The registry of the file, if it is valid. -/
def toRegistry (file : RegistryFile) : Run Registry := do
  let (registry, events) := registerAll file.base file.templates
  Run.emitAll events
  let found := registry.validate
  Run.emitAll (found.warnings.map .registryWarning)
  match found.errors with
  | [] => return registry
  | first :: _ => Run.ofExcept (.error (.invalidRegistry found.errors.length first))

end RegistryFile

/-- Reads a registry file, which is a YAML mapping, and gives its registry. -/
def Registry.parse (text : String) : Run Registry :=
  match Yaml.readMapping text with
  | .error fault => Run.ofExcept (.error (.parse fault))
  | .ok members =>
      match RegistryFile.ofMembers members with
      | .error fault => Run.ofExcept (.error (.parse fault))
      | .ok file => file.toRegistry

end VnfPayload
