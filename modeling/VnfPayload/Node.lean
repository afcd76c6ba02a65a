import VnfPayload.Json

/-!
# Kinds of nodes

A node of a document is a mapping, a sequence, a scalar or null.  Mappings and sequences
are the containers that a path can lead through.
-/

namespace VnfPayload

/-- The shape of a node of a document. -/
inductive NodeKind where
  | mapping
  | sequence
  | scalar
  | null
deriving DecidableEq

namespace NodeKind

/-- The name of a kind of node in messages and on the wire. -/
def name : NodeKind → String
  | .mapping => "mapping"
  | .sequence => "sequence"
  | .scalar => "scalar"
  | .null => "null"

/-- The kinds of nodes, in the order in which a fault lists their names. -/
def all : List NodeKind :=
  [.mapping, .sequence, .scalar, .null]

end NodeKind

/-- The kind of node that a value is; texts, numbers and truth values are scalars. -/
def Json.kind : Json → NodeKind
  | .obj _ => .mapping
  | .arr _ => .sequence
  | .null => .null
  | _ => .scalar

/-- The kinds of nodes that hold other nodes. -/
inductive ContainerKind where
  | mapping
  | sequence
deriving DecidableEq

namespace ContainerKind

/-- The name of a kind of container on the wire. -/
def name : ContainerKind → String
  | .mapping => "mapping"
  | .sequence => "sequence"

/-- The kinds of containers, in the order in which a fault lists their names. -/
def all : List ContainerKind :=
  [.mapping, .sequence]

/-- A fresh container of the kind. -/
def empty : ContainerKind → Json
  | .mapping => .obj []
  | .sequence => .arr []

/-- The kind of node that a container is. -/
def node : ContainerKind → NodeKind
  | .mapping => .mapping
  | .sequence => .sequence

theorem kind_empty (c : ContainerKind) : c.empty.kind = c.node := by
  cases c <;> rfl

theorem node_ne_null (c : ContainerKind) : c.node ≠ .null := by
  cases c <;> simp [node]

theorem node_injective {a b : ContainerKind} (h : a.node = b.node) : a = b := by
  cases a <;> cases b <;> simp_all [node]

end ContainerKind

end VnfPayload
