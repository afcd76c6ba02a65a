import VnfPayload.Error

/-!
# Properties

A request comes as a flat set of properties: scalars and nulls under keys whose dots may
encode nesting.  A set keeps its properties in the order in which the keys were first
inserted, and no key occurs twice.
-/

namespace VnfPayload

/-- The value of a property: a scalar or null. -/
inductive PropertyValue where
  | null
  | bool (b : Bool)
  | num (n : Number)
  | str (s : String)
deriving DecidableEq

namespace PropertyValue

/-- The value as JSON. -/
def toJson : PropertyValue → Json
  | .null => .null
  | .bool b => .bool b
  | .num n => .num n
  | .str s => .str s

/-- The value that JSON stands for, unless it is structured. -/
def ofJson? : Json → Option PropertyValue
  | .null => some .null
  | .bool b => some (.bool b)
  | .num n => some (.num n)
  | .str s => some (.str s)
  | .arr _ => none
  | .obj _ => none

/-- The value of a property; the error names its key and the kind that was found. -/
def ofJson (key : String) (j : Json) : Except Error PropertyValue :=
  match ofJson? j with
  | some v => .ok v
  | none => .error (.unsupportedValueType key j.kind)

/-- Whether the value is null. -/
def isNull : PropertyValue → Bool
  | .null => true
  | _ => false

/-- The text that the value is, if it is one. -/
def text? : PropertyValue → Option String
  | .str s => some s
  | _ => none

/-- Equality of values, numbers by value. -/
def eqv (a b : PropertyValue) : Bool :=
  a.toJson.eqv b.toJson

@[simp] theorem ofJson?_toJson (v : PropertyValue) : ofJson? v.toJson = some v := by
  cases v <;> rfl

end PropertyValue

/-- A set of properties in order of first insertion, no key given twice. -/
structure PropertySet where
  entries : Entries PropertyValue
  nodup : (Entries.keys entries).Nodup

namespace PropertySet

theorem ext {a b : PropertySet} (h : a.entries = b.entries) : a = b := by
  cases a
  cases b
  cases h
  rfl

instance : DecidableEq PropertySet := fun a b =>
  decidable_of_iff (a.entries = b.entries) ⟨ext, fun h => h ▸ rfl⟩

/-- The set without properties. -/
def empty : PropertySet := ⟨[], List.nodup_nil⟩

/-- Inserts a property, or replaces its value in place. -/
def insert (s : PropertySet) (key : String) (v : PropertyValue) : PropertySet :=
  ⟨Entries.insert s.entries key v, Entries.nodup_keys_insert s.nodup key v⟩

/-- Inserts properties into the empty set one after the other. -/
def ofPairs (pairs : List (String × PropertyValue)) : PropertySet :=
  pairs.foldl (fun s p => s.insert p.1 p.2) empty

/-- The value of a property, null included. -/
def get? (s : PropertySet) (key : String) : Option PropertyValue :=
  Entries.get? s.entries key

/-- The value of a property, where null counts as absent. -/
def getNonNull? (s : PropertySet) (key : String) : Option PropertyValue :=
  (s.get? key).filter fun v => !v.isNull

/-- Whether there is a property of the key. -/
def contains (s : PropertySet) (key : String) : Bool :=
  (s.get? key).isSome

/-- The number of properties, nulls included. -/
def size (s : PropertySet) : Nat :=
  s.entries.length

/-- Whether there are no properties. -/
def isEmpty (s : PropertySet) : Bool :=
  s.entries.isEmpty

/-- Whether the key starts with one of the beginnings. -/
def startsWithAny (key : String) (beginnings : List String) : Bool :=
  beginnings.any fun p => p.toList.isPrefixOf key.toList

theorem startsWithAny_iff (key : String) (beginnings : List String) :
    startsWithAny key beginnings = true ↔
      ∃ text ∈ beginnings, text.toList <+: key.toList := by
  simp [startsWithAny]

/-- The properties whose keys start with one of the beginnings, each once and in set order. -/
def withPrefixes (s : PropertySet) (beginnings : List String) :
    List (String × PropertyValue) :=
  s.entries.filter fun e => startsWithAny e.1 beginnings

/-- The set as a JSON object, in set order. -/
def toJson (s : PropertySet) : Json :=
  .obj (s.entries.map fun e => (e.1, e.2.toJson))

/-- The properties of the members of an object, or the error of the first member that is
neither a scalar nor null. -/
def ofMembers (members : List (String × Json)) : Except Error PropertySet := do
  let pairs ← members.mapM fun e => do
    let v ← PropertyValue.ofJson e.1 e.2
    return (e.1, v)
  return ofPairs pairs

/-- The set of a JSON object; other values are refused with their kind. -/
def ofJson : Json → Except Error PropertySet
  | .obj members => ofMembers members
  | other => .error (.parse (.propertiesNotObject other.kind))

/-- The text shown in the place of a sensitive value. -/
def maskText : String := "######"

/-- The set as it may be logged: a value whose key is sensitive is masked, unless it is
null. -/
def logSafe (s : PropertySet) (isSensitive : String → Bool) : Json :=
  .obj (s.entries.map fun e =>
    (e.1, if isSensitive e.1 && !e.2.isNull then .str maskText else e.2.toJson))

/-- Equality of sets: the same properties in any order. -/
def eqv (a b : PropertySet) : Bool :=
  a.toJson.eqv b.toJson

end PropertySet

end VnfPayload
