import DartRoutes.Yaml.Scalar

/-!
# Graphs of nodes

The scalars and collections of a document. A collection holds the numbers of its parts, so that one
node can be a part of several collections, and of itself.
-/

namespace DartRoutes.Yaml

/-- The number of a node. -/
abbrev NodeId := Nat

abbrev Entry := NodeId × NodeId

/-- What a node holds. -/
inductive Content where
  | scalar (text : Text)
  | sequence (items : List NodeId)
  | mapping (entries : List Entry)
  deriving DecidableEq, Repr

structure Node where
  tag : Tag
  content : Content
  deriving DecidableEq, Repr

/-- The nodes of a document, each at its number. -/
structure Graph where
  nodes : Array Node

namespace Graph

def empty : Graph := ⟨#[]⟩

def size (graph : Graph) : Nat :=
  graph.nodes.size

def node? (graph : Graph) (id : NodeId) : Option Node :=
  graph.nodes[id]?

/-- The graph with one more node, whose number is the former size. -/
def push (graph : Graph) (node : Node) : Graph :=
  ⟨graph.nodes.push node⟩

/-- The graph with another node of a number. -/
def put (graph : Graph) (id : NodeId) (node : Node) : Graph :=
  ⟨graph.nodes.setIfInBounds id node⟩

/-- Has the node of a number the given tag? -/
def hasTag (graph : Graph) (tag : Tag) (id : NodeId) : Bool :=
  (graph.node? id).any (·.tag == tag)

/-- The entries of a mapping; other nodes have none. -/
def entries? (graph : Graph) (id : NodeId) : Option (List Entry) :=
  match graph.node? id with
  | some ⟨_, .mapping entries⟩ => some entries
  | _ => none

/-- The graph with other entries of a mapping. -/
def putEntries (graph : Graph) (id : NodeId) (entries : List Entry) : Graph :=
  match graph.node? id with
  | some node => graph.put id { node with content := .mapping entries }
  | none => graph

/-- The graph in which a key for a default value is a text. -/
def nameDefault (graph : Graph) (key : NodeId) : Graph :=
  match graph.node? key with
  | some node =>
      if node.tag = .defaultValue then graph.put key { node with tag := .text } else graph
  | none => graph

def mergeCount (graph : Graph) : Nat :=
  graph.nodes.foldl
    (fun count node =>
      match node.content with
      | .mapping entries => count + entries.countP fun entry => graph.hasTag .merge entry.1
      | _ => count) 0

end Graph

end DartRoutes.Yaml
