import ControlPlane.Yaml.Tag

/-!
# Nodes

The content of a document: scalars, sequences and mappings with their tags.  Nodes have serial
numbers, and an alias holds the number of the node that it stands for.  A `Document` keeps the nodes
that have anchors beside the root, so a node that stands in many places is there once, and one may
even stand inside itself.
-/

namespace ControlPlane.Yaml

/-- The two kinds of collections. -/
inductive Kind where
  | list
  | map
  deriving DecidableEq, Repr

/-- The tag of a collection without one. -/
def Kind.tag : Kind → Tag
  | .list => .list
  | .map => .map

/-- A node of a document. -/
inductive Node where
  | scalar (serial : Nat) (tag : Tag) (text : List Char)
  | list (serial : Nat) (tag : Tag) (items : List Node)
  | map (serial : Nat) (tag : Tag) (entries : List (Node × Node))
  | alias (serial : Nat)
  deriving Repr

namespace Node

/-- The node that is left out between two marks.  No alias stands for it, and it has no number. -/
def empty : Node := .scalar 0 .null []

/-- The serial number of a node. -/
def serial : Node → Nat
  | .scalar i _ _ => i
  | .list i _ _ => i
  | .map i _ _ => i
  | .alias i => i

/-- The tag of a node; that of an alias is the one of its node, and not known here. -/
def tag? : Node → Option Tag
  | .scalar _ t _ => some t
  | .list _ t _ => some t
  | .map _ t _ => some t
  | .alias _ => none

end Node

/-- A document. -/
structure Document where
  root : Node
  /-- The nodes that aliases may stand for, in the order in which they end. -/
  anchored : List Node
  /-- A number above all serial numbers. -/
  size : Nat
  deriving Repr

namespace Document

/-- The node that a node stands for: that of an alias, and any other one itself. -/
def resolve (d : Document) : Node → Node
  | .alias i => (d.anchored.find? fun n => n.serial == i).getD .empty
  | n => n

/-- The tag of a node. -/
def tag (d : Document) (n : Node) : Tag := (d.resolve n).tag?.getD .null

end Document

end ControlPlane.Yaml
