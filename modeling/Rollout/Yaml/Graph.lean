import Rollout.Yaml.Tag

/-!
# The graph of a YAML text

A YAML text says more than a tree: an alias stands for the very node that it
names, even inside that node. So the nodes of a text are numbered, and what a
node is made of are numbers. `Graph.put` changes a node for all who refer to it.
-/

namespace Rollout.Yaml

/-- What a node is made of. -/
inductive Content where
  | scalar (text : String)
  | sequence (items : List Nat)
  | mapping (entries : List (Nat × Nat))
  deriving Repr

structure Node where
  tag : Tag
  content : Content
  deriving Repr

/-- The entries of a node, none if it is no mapping. -/
def Node.entries (n : Node) : List (Nat × Nat) :=
  match n.content with
  | .mapping entries => entries
  | _ => []

/-- The scalar where nothing is written. -/
def Node.empty : Node := ⟨.null, .scalar ""⟩

abbrev Graph := Array Node

namespace Graph

/-- A node; the empty scalar where a number has no node. -/
def node (g : Graph) (id : Nat) : Node := (g[id]?).getD .empty

/-- The graph with another node at a number. -/
def put (g : Graph) (id : Nat) (n : Node) : Graph := g.setIfInBounds id n

/-- The graph with another type at a node. -/
def retag (g : Graph) (id : Nat) (tag : Tag) : Graph := g.put id { g.node id with tag }

def putEntries (g : Graph) (id : Nat) (entries : List (Nat × Nat)) : Graph :=
  g.put id { g.node id with content := .mapping entries }

end Graph

end Rollout.Yaml
