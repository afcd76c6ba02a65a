import VnfPayload.Decode
import VnfPayload.Registry.Builtin
import VnfPayload.Yaml

/-!
# Generator settings

Every setting has a default, so any mapping is a complete file of settings.
-/

namespace VnfPayload

/-- The settings of a generator. -/
structure Config where
  /-- The interface version of requests that name none. -/
  defaultVersion : String
  /-- The key of the property that names the interface version. -/
  versionKey : String
  /-- The pattern of the keys whose values are kept out of the log. -/
  sensitiveKeys : String
  /-- Whether messages are indented. -/
  indented : Bool
deriving DecidableEq

namespace Config

/-- The settings of a generator that was given none. -/
def standard : Config where
  defaultVersion := Registry.version2
  versionKey := "interfaceVersion"
  sensitiveKeys := "(?i)(password|secret|token|privatekey)"
  indented := false

/-- The settings as JSON, all of them written out. -/
def toJson (c : Config) : Json :=
  .obj [("default_interface_version", .str c.defaultVersion),
    ("version_property", .str c.versionKey), ("sensitive_keys", .str c.sensitiveKeys),
    ("pretty", .bool c.indented)]

/-- Checks one setting by its name; other names are passed over. -/
def checkMember : String → Json → Except ParseFault Unit
  | "default_interface_version", j => Decode.check Decode.text j
  | "version_property", j => Decode.check Decode.text j
  | "sensitive_keys", j => Decode.check Decode.text j
  | "pretty", j => Decode.check Decode.truth j
  | _, _ => .ok ()

/-- The names of the settings, in order of declaration. -/
def memberNames : List String :=
  ["default_interface_version", "version_property", "sensitive_keys", "pretty"]

/-- Reads settings; each one that is missing has its standard value. -/
def ofJson (j : Json) : Except ParseFault Config := do
  let members ← Decode.record memberNames 0 checkMember j
  let version ← Decode.withDefault members "default_interface_version"
    standard.defaultVersion Decode.text
  let key ← Decode.withDefault members "version_property" standard.versionKey Decode.text
  let keys ← Decode.withDefault members "sensitive_keys" standard.sensitiveKeys Decode.text
  let indented ← Decode.withDefault members "pretty" standard.indented Decode.truth
  return ⟨version, key, keys, indented⟩

/-- Reads a file of settings, which is a YAML mapping. -/
def parse (text : String) : Except Error Config :=
  match Yaml.readMapping text with
  | .ok members => (ofJson (.obj members)).mapError .parse
  | .error fault => .error (.parse fault)

end Config

end VnfPayload
