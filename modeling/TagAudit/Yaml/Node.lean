import TagAudit.Yaml.Scalar

/-!
# Documents

A document is a row of nodes, which go by their places in it, and one of the nodes is its root. A
node is a scalar, a sequence or a mapping, with its type. A node that has a name can be held in
several places, and even within itself, so nodes hold each other by number.
-/

namespace TagAudit.Yaml

/-- A node. -/
inductive Node where
  | scalar (kind : Kind) (text : Text)
  | sequence (kind : Kind) (items : List Nat)
  | mapping (kind : Kind) (entries : List (Nat × Nat))

namespace Node

/-- A scalar that is not there. -/
def empty : Node := .scalar .null []

/-- The type of a node. -/
def kind : Node → Kind
  | .scalar kind _ | .sequence kind _ | .mapping kind _ => kind

/-- The node with another type. -/
def withKind (kind : Kind) : Node → Node
  | .scalar _ text => .scalar kind text
  | .sequence _ items => .sequence kind items
  | .mapping _ entries => .mapping kind entries

/-- Whether a node is a mapping. -/
def isMapping : Node → Bool
  | .mapping .. => true
  | _ => false

end Node

/-- Nodes by their numbers. -/
abbrev Nodes := Array Node

namespace Nodes

/-- The node with a number. -/
def node (nodes : Nodes) (number : Nat) : Node := nodes[number]?.getD .empty

/-- The entries of a mapping; other nodes have none. -/
def entries (nodes : Nodes) (number : Nat) : List (Nat × Nat) :=
  match nodes.node number with
  | .mapping _ entries => entries
  | _ => []

/-- The nodes with one of them exchanged. -/
def put (nodes : Nodes) (number : Nat) (node : Node) : Nodes := nodes.setIfInBounds number node

/-- The nodes with other entries in a mapping. -/
def putEntries (nodes : Nodes) (number : Nat) (entries : List (Nat × Nat)) : Nodes :=
  nodes.put number (.mapping (nodes.node number).kind entries)

end Nodes

/-- A document. -/
structure Document where
  nodes : Nodes
  /-- The number of the node that holds all others. -/
  root : Nat
  /-- Whether a node is held within itself. -/
  isKnotted : Bool

end TagAudit.Yaml
