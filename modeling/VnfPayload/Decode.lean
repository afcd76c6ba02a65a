import VnfPayload.Error

/-!
# Reading typed values from JSON

Every typed value of this library is read from JSON by the same rules.

* A record is an object, or an array that gives the members by position in order of
  declaration.  Members are read in the order in which they stand, and the first one that
  cannot be read decides the fault; only then are missing members noticed, in order of
  declaration.  Members of other names are passed over, unless the record is closed.
* A variant is a name alone, or an object whose one key is the name.
* Null stands for an optional value that is absent, and for nothing else.
-/

namespace VnfPayload.Decode

variable {α β : Type}

/-- Reads a text. -/
def text : Json → Except ParseFault String
  | .str s => .ok s
  | _ => .error .wrongType

/-- Reads a truth value. -/
def truth : Json → Except ParseFault Bool
  | .bool b => .ok b
  | _ => .error .wrongType

/-- Reads the items of an array up to the first one that cannot be read. -/
def items (f : Json → Except ParseFault α) : Json → Except ParseFault (List α)
  | .arr xs => xs.mapM f
  | _ => .error .wrongType

/-- Reads a value that may be absent, for which null stands. -/
def optional (f : Json → Except ParseFault α) : Json → Except ParseFault (Option α)
  | .null => .ok none
  | j => (f j).map some

/-- The name of a variant and what stands under it. -/
def variant : Json → Except ParseFault (String × Option Json)
  | .str name => .ok (name, none)
  | .obj [(name, body)] => .ok (name, some body)
  | _ => .error .wrongType

/-- Whether nothing stands under the name of a variant. -/
def isBare : Option Json → Bool
  | none => true
  | some .null => true
  | some _ => false

/-- Reads one of several values by its name, under which nothing may stand. -/
def named (all : List α) (name : α → String) (j : Json) : Except ParseFault α := do
  let (n, body) ← variant j
  match all.find? fun a => name a = n with
  | none => .error (.unknownVariant n (all.map name))
  | some a => if isBare body then .ok a else .error .wrongType

/-- Reads the members of a variant's body, which has to be an object. -/
def body : Option Json → Except ParseFault (Entries Json)
  | some (.obj members) => .ok members
  | _ => .error .wrongType

/-- Reads a value and forgets it; what is left is the fault, if there is one. -/
def check (f : Json → Except ParseFault α) (j : Json) : Except ParseFault Unit :=
  (f j).map fun _ => ()

/-- Checks members one after the other; the first that fails decides the fault. -/
def checkAll (f : String → Json → Except ParseFault Unit) :
    List (String × Json) → Except ParseFault Unit
  | [] => .ok ()
  | (name, j) :: rest => do
      f name j
      checkAll f rest

/-- A member that has to be there. -/
def required (members : Entries Json) (name : String) (f : Json → Except ParseFault α) :
    Except ParseFault α :=
  match Entries.get? members name with
  | some j => f j
  | none => .error (.missingField name)

/-- A member with a value for its absence. -/
def withDefault (members : Entries Json) (name : String) (absent : α)
    (f : Json → Except ParseFault α) : Except ParseFault α :=
  match Entries.get? members name with
  | some j => f j
  | none => .ok absent

/-- The checked members of a record.  One that is written by position gives at least the first
`needed` members, and no more than there are names. -/
def record (names : List String) (needed : Nat)
    (f : String → Json → Except ParseFault Unit) : Json → Except ParseFault (Entries Json)
  | .obj members => do
      checkAll f members
      return members
  | .arr values => do
      let members := names.zip values
      checkAll f members
      if values.length < needed ∨ names.length < values.length then .error .wrongType
      else return members
  | _ => .error .wrongType

end VnfPayload.Decode
