import VnfPayload.Property

/-!
# Message documents

A message document is a mapping from keys to JSON values, in order of insertion.

* `Document.materialize` folds a property into a document at the node that its dotted key
  names, creating mappings and sequences on the way.  It hands back the document as it
  was left together with the outcome.
* `Document.copyField` sets a top-level field from a property.
* `Document.flatten` turns a document back into properties, one for each leaf.
-/

namespace VnfPayload

/-- The top-level members of a message. -/
abbrev Document := Entries Json

/-- A node that stood in the way of an assignment: how many steps lead to it, the kind that
was needed there and the kind that was found. -/
structure Clash where
  depth : Nat
  expected : NodeKind
  found : NodeKind
deriving DecidableEq

namespace Json

/-- Puts an item at a position, filling up a shorter list with nulls. -/
def putAt : List Json → Nat → Json → List Json
  | [], 0, x => [x]
  | [], i + 1, x => .null :: putAt [] i x
  | _ :: xs, 0, x => x :: xs
  | y :: xs, i + 1, x => y :: putAt xs i x

/-- A null that has to be descended through becomes an empty container. -/
def opened (s : Segment) : Json → Json
  | .null => s.container.empty
  | node => node

/-- Assigns a value to the node that the steps lead to from one at the given depth, creating
missing nodes; the clash is the node that stood in the way, if one did. -/
def assign (value : PropertyValue) : (depth : Nat) → List Segment → Json → Json × Option Clash
  | depth, [], node =>
      match node with
      | .obj _ => (node, some ⟨depth, .scalar, .mapping⟩)
      | .arr _ => (node, some ⟨depth, .scalar, .sequence⟩)
      | _ => (value.toJson, none)
  | depth, s :: rest, node =>
      match s, opened s node with
      | .key k, .obj members =>
          -- A node that is not there yet counts as null.
          let r := assign value (depth + 1) rest ((Entries.get? members k).getD .null)
          (.obj (Entries.insert members k r.1), r.2)
      | .index i, .arr items =>
          let r := assign value (depth + 1) rest (items[i]?.getD .null)
          (.arr (putAt items i r.1), r.2)
      | s, other => (other, some ⟨depth, s.container.node, other.kind⟩)

end Json

namespace Document

/-- The members of a mapping; the document of any other node is empty. -/
def ofNode : Json → Document
  | .obj members => members
  | _ => []

/-- Folds a property value into the document at a path. -/
def materialize (doc : Document) (path : String) (value : PropertyValue) :
    Document × Except Error Unit :=
  match Path.parse path with
  | .error fault => (doc, .error (.malformedPath path fault))
  | .ok segments =>
      let r := Json.assign value 0 segments (.obj doc)
      (ofNode r.1,
        match r.2 with
        | none => .ok ()
        | some clash =>
            .error (.structuralConflict path (Path.take path clash.depth) clash.expected
              clash.found))

/-- Folds properties into the document one after the other, up to the first error. -/
def materializeAll (doc : Document) :
    List (String × PropertyValue) → Document × Except Error Unit
  | [] => (doc, .ok ())
  | (path, value) :: rest =>
      match doc.materialize path value with
      | (doc, .ok ()) => materializeAll doc rest
      | (doc, .error e) => (doc, .error e)

/-- Sets the field `target` to the property `key`, unless that is null or absent.  The key
is taken verbatim: its dots mean nothing. -/
def copyField (doc : Document) (source : PropertySet) (key target : String) : Document :=
  match source.getNonNull? key with
  | some v => Entries.insert doc target v.toJson
  | none => doc

/-- Sets the field that has the name of the property. -/
def copy (doc : Document) (source : PropertySet) (field : String) : Document :=
  doc.copyField source field field

mutual

/-- Adds the leaves of a node, whose dotted key is `label`, in depth-first order. -/
def flattenNode (label : String) : Json → PropertySet → PropertySet
  | .obj members, out => flattenMembers label members out
  | .arr items, out => flattenItems label 0 items out
  | .null, out => out.insert label .null
  | .bool b, out => out.insert label (.bool b)
  | .num n, out => out.insert label (.num n)
  | .str s, out => out.insert label (.str s)

/-- Adds the leaves of the members of the mapping at `label`. -/
def flattenMembers (label : String) : List (String × Json) → PropertySet → PropertySet
  | [], out => out
  | (k, x) :: rest, out =>
      flattenMembers label rest (flattenNode (label ++ "." ++ k) x out)

/-- Adds the leaves of the items of the sequence at `label`, from a position on. -/
def flattenItems (label : String) (position : Nat) : List Json → PropertySet → PropertySet
  | [], out => out
  | x :: rest, out =>
      flattenItems label (position + 1) rest
        (flattenNode (label ++ "." ++ toString position) x out)

end

/-- Adds the leaves of the top-level members, whose keys are labels as they are. -/
def flattenInto : List (String × Json) → PropertySet → PropertySet
  | [], out => out
  | (k, x) :: rest, out => flattenInto rest (flattenNode k x out)

/-- The leaves of the document under their dotted keys, in document order.  Empty
containers have no leaves. -/
def flatten (doc : Document) : PropertySet :=
  flattenInto doc .empty

end Document

end VnfPayload
