import VnfPayload.Property
import VnfPayload.Decode
import VnfPayload.Json.Reader

/-!
# Execution requests

A request names its lifecycle and carries two property sets.  `Request.parse` reads its
JSON text.  A property that is neither a scalar nor null has an error of its own, which is
looked for before anything else is read.

A `Context` is what the building of a payload reads: properties, the lifecycle name and a
description.  `Request.context` gives the context of a request.
-/

namespace VnfPayload

/-- What the building of a payload reads of a request. -/
structure Context where
  properties : PropertySet
  lifecycleName : Option String
  description : Option PropertyValue

/-- A request for an operation, as it comes from the lifecycle. -/
structure Request where
  lifecycleName : Option String
  properties : PropertySet
  systemProperties : PropertySet
deriving DecidableEq

/-- Reads a property set within a typed value. -/
def PropertySet.decode : Json → Except ParseFault PropertySet
  | .obj members =>
      match ofMembers members with
      | .ok set => .ok set
      | .error _ => .error .wrongType
  | _ => .error .wrongType

/-- The description that properties give: that of the request, or else that of the
instance.  Null counts as absent. -/
def PropertySet.description (s : PropertySet) : Option PropertyValue :=
  match s.getNonNull? "description" with
  | some v => some v
  | none => s.getNonNull? "vnfInstanceDescription"

namespace Request

/-- The context of a request, with the description that its properties give. -/
def context (r : Request) : Context :=
  ⟨r.properties, r.lifecycleName, r.properties.description⟩

/-- A request with properties and nothing else. -/
def ofProperties (properties : PropertySet) : Request :=
  ⟨none, properties, .empty⟩

/-- The members of a request, in order of declaration. -/
def memberNames : List String :=
  ["lifecycleName", "properties", "systemProperties"]

/-- The request as JSON: an absent lifecycle name and an empty set of system properties
are left out. -/
def toJson (r : Request) : Json :=
  .obj ((match r.lifecycleName with
      | some name => [("lifecycleName", .str name)]
      | none => []) ++
    ("properties", r.properties.toJson) ::
    (if r.systemProperties.isEmpty then []
    else [("systemProperties", r.systemProperties.toJson)]))

/-- Checks one member of a request by its name; other names are passed over. -/
def checkMember : String → Json → Except ParseFault Unit
  | "lifecycleName", j => Decode.check (Decode.optional Decode.text) j
  | "properties", j => Decode.check PropertySet.decode j
  | "systemProperties", j => Decode.check PropertySet.decode j
  | _, _ => .ok ()

/-- Reads a request, all of whose members may be absent. -/
def decode (j : Json) : Except ParseFault Request := do
  let members ← Decode.record memberNames 0 checkMember j
  let name ← Decode.withDefault members "lifecycleName" none (Decode.optional Decode.text)
  let properties ← Decode.withDefault members "properties" .empty PropertySet.decode
  let system ← Decode.withDefault members "systemProperties" .empty PropertySet.decode
  return ⟨name, properties, system⟩

/-- Checks that a member, if there is one, is a property set. -/
def checkProperties (j : Json) (name : String) : Except Error Unit :=
  match j.member? name with
  | some value => (PropertySet.ofJson value).map fun _ => ()
  | none => .ok ()

/-- Reads a request after a first look at its property sets. -/
def ofJson (j : Json) : Except Error Request := do
  checkProperties j "properties"
  checkProperties j "systemProperties"
  (decode j).mapError .parse

/-- Reads the JSON text of a request. -/
def parse (text : String) : Except Error Request :=
  match Json.read? text with
  | some j => ofJson j
  | none => .error (.parse .malformed)

end Request

end VnfPayload
