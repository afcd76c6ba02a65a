import VnfPayload.Operation
import VnfPayload.Decode

/-!
# Payload templates

A template says how the payload of one operation in one interface version is built: which
top-level fields it carries, where their values come from, and which property keys are
folded into it.  Templates are data with a JSON form: `Template.toJson` writes it and
`Template.ofJson` reads it.
-/

namespace VnfPayload

/-- Where the value of a field is read from. -/
inductive FieldSource where
  /-- The property of the given key. -/
  | property (key : String)
  /-- The name of the lifecycle. -/
  | lifecycleName
  /-- The description of the request. -/
  | description
deriving DecidableEq

namespace FieldSource

/-- The name of a source in errors. -/
def label : FieldSource → String
  | .property key => key
  | .lifecycleName => "lifecycleName"
  | .description => "description"

/-- The key of the property that a source reads, if it reads one. -/
def key? : FieldSource → Option String
  | .property key => some key
  | _ => none

/-- The names of the sources, in the order in which a fault lists them. -/
def names : List String :=
  ["property", "lifecycle_name", "description"]

/-- The source as JSON: its name, above the key if it reads a property. -/
def toJson : FieldSource → Json
  | .property key => .obj [("property", .str key)]
  | .lifecycleName => .str "lifecycle_name"
  | .description => .str "description"

/-- Reads a source; only a property has something under its name. -/
def ofJson (j : Json) : Except ParseFault FieldSource := do
  let (name, body) ← Decode.variant j
  if name = "property" then
    match body with
    | some value => (Decode.text value).map .property
    | none => .error .wrongType
  else if name = "lifecycle_name" then
    if Decode.isBare body then .ok .lifecycleName else .error .wrongType
  else if name = "description" then
    if Decode.isBare body then .ok .description else .error .wrongType
  else .error (.unknownVariant name names)

end FieldSource

/-- One top-level field of a payload. -/
inductive FieldRule where
  /-- A container that is always there, possibly empty. -/
  | container (name : String) (kind : ContainerKind)
  /-- A value copied when its source has one. -/
  | optional (name : String) (source : Option FieldSource)
  /-- A value whose source has to have one. -/
  | required (name : String) (source : Option FieldSource)
deriving DecidableEq

namespace FieldRule

/-- The name of the field in the payload. -/
def name : FieldRule → String
  | .container name _ => name
  | .optional name _ => name
  | .required name _ => name

/-- The source of a copied field: where none is given, the property of the same name. -/
def sourceOf (name : String) (source : Option FieldSource) : FieldSource :=
  source.getD (.property name)

/-- The source of a field that is copied. -/
def source? : FieldRule → Option FieldSource
  | .container .. => none
  | .optional name source => some (sourceOf name source)
  | .required name source => some (sourceOf name source)

/-- The names of the rules, in the order in which a fault lists them. -/
def names : List String :=
  ["container", "optional", "required"]

/-- The members that write a given source. -/
def sourceMembers : Option FieldSource → List (String × Json)
  | none => []
  | some source => [("from", source.toJson)]

/-- The rule as JSON: its name above its members. -/
def toJson : FieldRule → Json
  | .container name kind =>
      .obj [("container", .obj [("name", .str name), ("kind", .str kind.name)])]
  | .optional name source =>
      .obj [("optional", .obj (("name", .str name) :: sourceMembers source))]
  | .required name source =>
      .obj [("required", .obj (("name", .str name) :: sourceMembers source))]

/-- Reads a kind of container by its name. -/
def kindOfJson : Json → Except ParseFault ContainerKind :=
  Decode.named ContainerKind.all ContainerKind.name

/-- Checks one member of a container rule; other names are passed over. -/
def checkContainer : String → Json → Except ParseFault Unit
  | "name", j => Decode.check Decode.text j
  | "kind", j => Decode.check kindOfJson j
  | _, _ => .ok ()

/-- Checks one member of a rule that copies a value; other names are passed over. -/
def checkCopied : String → Json → Except ParseFault Unit
  | "name", j => Decode.check Decode.text j
  | "from", j => Decode.check (Decode.optional FieldSource.ofJson) j
  | _, _ => .ok ()

/-- Reads a container rule from what stands under its name. -/
def containerOfBody (body : Option Json) : Except ParseFault FieldRule := do
  let members ← Decode.body body
  Decode.checkAll checkContainer members
  let name ← Decode.required members "name" Decode.text
  let kind ← Decode.required members "kind" kindOfJson
  return .container name kind

/-- Reads a rule that copies a value from what stands under its name. -/
def copiedOfBody (rule : String → Option FieldSource → FieldRule) (body : Option Json) :
    Except ParseFault FieldRule := do
  let members ← Decode.body body
  Decode.checkAll checkCopied members
  let name ← Decode.required members "name" Decode.text
  let source ← Decode.withDefault members "from" none (Decode.optional FieldSource.ofJson)
  return rule name source

/-- Reads a rule by its name. -/
def ofJson (j : Json) : Except ParseFault FieldRule := do
  let (name, body) ← Decode.variant j
  if name = "container" then containerOfBody body
  else if name = "optional" then copiedOfBody .optional body
  else if name = "required" then copiedOfBody .required body
  else .error (.unknownVariant name names)

end FieldRule

/-- How the payload of one operation in one interface version is built. -/
structure Template where
  operation : Operation
  version : String
  /-- The top-level fields, in the order of the payload. -/
  fields : List FieldRule
  /-- The beginnings of the property keys that are folded into the payload. -/
  prefixes : List String
deriving DecidableEq

namespace Template

/-- Whether the template comes before another one: by the order of the operations, and for
one operation by the order of the versions as text. -/
def Precedes (a b : Template) : Prop :=
  a.operation.rank < b.operation.rank ∨
    a.operation.rank = b.operation.rank ∧ a.version < b.version

instance (a b : Template) : Decidable (Precedes a b) :=
  inferInstanceAs (Decidable (_ ∨ _))

theorem Precedes.trans {a b c : Template} (h : Precedes a b) (h' : Precedes b c) :
    Precedes a c := by
  rcases h with h | ⟨h, hv⟩ <;> rcases h' with h' | ⟨h', hv'⟩
  · exact .inl (Nat.lt_trans h h')
  · exact .inl (h' ▸ h)
  · exact .inl (h ▸ h')
  · exact .inr ⟨h.trans h', String.lt_trans hv hv'⟩

theorem Precedes.irrefl (a : Template) : ¬ Precedes a a := by
  rintro (h | ⟨_, h⟩)
  · exact Nat.lt_irrefl _ h
  · exact String.lt_irrefl _ h

/-- Two templates of which none comes first are for the same operation and version. -/
theorem same_of_not_precedes {a b : Template} (h : ¬ Precedes a b) (h' : ¬ Precedes b a) :
    a.operation = b.operation ∧ a.version = b.version := by
  have hr : a.operation.rank = b.operation.rank :=
    Nat.le_antisymm (Nat.le_of_not_lt fun hl => h' (.inl hl))
      (Nat.le_of_not_lt fun hl => h (.inl hl))
  refine ⟨Operation.rank_injective hr, String.le_antisymm ?_ ?_⟩
  · exact String.not_lt.mp fun hl => h' (.inr ⟨hr.symm, hl⟩)
  · exact String.not_lt.mp fun hl => h (.inr ⟨hr, hl⟩)

/-- The members of a template, in order of declaration. -/
def memberNames : List String :=
  ["operation", "version", "fields", "prefixes"]

/-- The template as JSON. -/
def toJson (t : Template) : Json :=
  .obj [("operation", .str t.operation.messageType), ("version", .str t.version),
    ("fields", .arr (t.fields.map FieldRule.toJson)),
    ("prefixes", .arr (t.prefixes.map Json.str))]

/-- Reads an operation by its message type. -/
def operationOfJson : Json → Except ParseFault Operation :=
  Decode.named Operation.all Operation.messageType

/-- Checks one member of a template by its name; other names are passed over. -/
def checkMember : String → Json → Except ParseFault Unit
  | "operation", j => Decode.check operationOfJson j
  | "version", j => Decode.check Decode.text j
  | "fields", j => Decode.check (Decode.items FieldRule.ofJson) j
  | "prefixes", j => Decode.check (Decode.items Decode.text) j
  | _, _ => .ok ()

/-- Reads a template, whose prefixes may be absent. -/
def ofJson (j : Json) : Except ParseFault Template := do
  let members ← Decode.record memberNames 3 checkMember j
  let operation ← Decode.required members "operation" operationOfJson
  let version ← Decode.required members "version" Decode.text
  let fields ← Decode.required members "fields" (Decode.items FieldRule.ofJson)
  let prefixes ← Decode.withDefault members "prefixes" [] (Decode.items Decode.text)
  return ⟨operation, version, fields, prefixes⟩

end Template

end VnfPayload
