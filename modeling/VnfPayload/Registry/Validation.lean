import VnfPayload.Registry

/-!
# Validation of templates

Five rules, each of which reports every offender:

* R-001: no two fields of a template have the same name;
* R-002: a prefix ends in a dot, and what stands before the dot is a path that starts
  with a key;
* R-003: a field has a name, and a copied field reads a property with a name;
* R-004: the first piece of a prefix is a container of the template (a warning);
* R-005: a version is three groups of digits (a warning).
-/

namespace VnfPayload

/-- What was found so far, errors and warnings apart. -/
structure Findings where
  errors : List Diagnostic
  warnings : List Diagnostic
deriving DecidableEq

namespace Findings

/-- Nothing was found. -/
def empty : Findings := ⟨[], []⟩

/-- Nothing was found that makes a template unusable. -/
def isValid (f : Findings) : Bool :=
  f.errors.isEmpty

end Findings

/-- What is wrong with a prefix. -/
inductive PrefixFault where
  | notTerminated
  | notPath (error : Error)
  | startsWithIndex
deriving DecidableEq

namespace PrefixFault

/-- The wording of a fault of the prefix `text`. -/
def message (text : String) : PrefixFault → String
  | .notTerminated => s!"prefix '{text}' must end with '.'"
  | .notPath error =>
      s!"prefix '{text}' is not a valid path: " ++ error.message?.getD ""
  | .startsWithIndex => s!"prefix '{text}' must start with a key, not an index"

/-- What stands before the final dot of a prefix. -/
def stem? (text : String) : Option String :=
  if text.toList.getLast? = some '.' then some (String.ofList text.toList.dropLast)
  else none

/-- The fault of a prefix, if it has one. -/
def find? (text : String) : Option PrefixFault :=
  match stem? text with
  | none => some .notTerminated
  | some stem =>
      match Path.parse stem with
      | .error fault => some (.notPath (.malformedPath stem fault))
      | .ok (.index _ :: _) => some .startsWithIndex
      | .ok _ => none

end PrefixFault

namespace Template

/-- The name of a template in findings. -/
def label (t : Template) : String :=
  s!"{t.operation.messageType}@{t.version}"

/-- The place of a field in findings. -/
def fieldPlace (t : Template) (i : Nat) : String :=
  s!"{t.label}.fields[{i}]"

/-- The place of a prefix in findings. -/
def prefixPlace (t : Template) (i : Nat) : String :=
  s!"{t.label}.prefixes[{i}]"

/-- A finding that makes a template unusable. -/
def errorAt (place code message : String) : Diagnostic :=
  ⟨.error, code, some place, message⟩

/-- A finding that does not. -/
def warningAt (place code message : String) : Diagnostic :=
  ⟨.warning, code, some place, message⟩

/-- R-001: one finding for each field with the name of an earlier one. -/
def repeatedNames (t : Template) : List Diagnostic :=
  t.fields.zipIdx.filterMap fun (field, i) =>
    if field.name ∈ (t.fields.take i).map FieldRule.name then
      some (errorAt (t.fieldPlace i) "R-001" s!"duplicate field name '{field.name}'")
    else none

/-- R-002: one finding for each malformed prefix. -/
def malformedPrefixes (t : Template) : List Diagnostic :=
  t.prefixes.zipIdx.filterMap fun (text, i) =>
    (PrefixFault.find? text).map fun fault =>
      errorAt (t.prefixPlace i) "R-002" (fault.message text)

/-- R-003: the findings about one field. -/
def namelessField (t : Template) (field : FieldRule) (i : Nat) : List Diagnostic :=
  (if field.name = "" then
    [errorAt (t.fieldPlace i) "R-003" "field name must not be empty"]
  else []) ++
  (if field.source? = some (.property "") then
    [errorAt (t.fieldPlace i ++ ".from") "R-003"
      s!"field '{field.name}' has an empty source property"]
  else [])

/-- R-003: fields without a name, and copied fields whose property has none. -/
def namelessFields (t : Template) : List Diagnostic :=
  t.fields.zipIdx.flatMap fun (field, i) => t.namelessField field i

/-- The names of the container fields, in order of declaration. -/
def containerNames (t : Template) : List String :=
  t.fields.filterMap fun field =>
    match field with
    | .container name _ => some name
    | _ => none

/-- The first piece of a prefix. -/
def root (text : String) : String :=
  Path.take text 1

/-- R-004: one finding for each prefix whose first piece is no container. -/
def undeclaredRoots (t : Template) : List Diagnostic :=
  t.prefixes.zipIdx.filterMap fun (text, i) =>
    let name := root text
    if name ≠ "" ∧ name ∉ t.containerNames then
      some (warningAt (t.prefixPlace i) "R-004"
        s!"'{name}' is not a declared container; it is created on first use")
    else none

/-- Whether a version is three non-empty groups of digits between dots. -/
def isVersion (version : String) : Bool :=
  let groups := Path.pieces version.toList
  groups.length = 3 && groups.all fun g => !g.isEmpty && g.all Char.isDigit

/-- R-005: a finding if the version has another form. -/
def unusualVersion (t : Template) : List Diagnostic :=
  if isVersion t.version then []
  else
    [warningAt (t.label ++ ".version") "R-005"
      s!"version '{t.version}' is not of the form MAJOR.MINOR.PATCH"]

/-- The findings of the first three rules, rule by rule. -/
def errors (t : Template) : List Diagnostic :=
  t.repeatedNames ++ t.malformedPrefixes ++ t.namelessFields

/-- The findings of the last two rules, rule by rule. -/
def warnings (t : Template) : List Diagnostic :=
  t.undeclaredRoots ++ t.unusualVersion

/-- Appends the findings about a template to earlier ones. -/
def validate (t : Template) (found : Findings) : Findings :=
  ⟨found.errors ++ t.errors, found.warnings ++ t.warnings⟩

end Template

/-- The findings about all templates of a registry, in registry order. -/
def Registry.validate (r : Registry) : Findings :=
  r.templates.foldl (fun found t => t.validate found) .empty

end VnfPayload
