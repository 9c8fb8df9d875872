import DartRoutes.Yaml.Merge
import DartRoutes.Yaml.NodeReader

/-!
# YAML documents

The value of a document. A scalar is read when the collection that it is a part of is filled, and
collections are filled in the order in which they are met, so that the first fault in that order
counts. Of several entries with the same key the last one counts, at the place of the first one.
-/

namespace DartRoutes.Yaml

/-- Does the tag ask for a collection? -/
def Tag.isCollection : Tag → Bool
  | .sequence | .pairs | .mapping | .set => true
  | _ => false

namespace Graph

/-- The text of a node that counts as a scalar: a mapping counts as its default value. The way to the
scalar has less than `fuel` steps if it has an end. -/
def scalarText (graph : Graph) : (fuel : Nat) → NodeId → Read Text
  | 0, _ => .error .endlessDefault
  | fuel + 1, id =>
      match (graph.node? id).map Node.content with
      | some (.scalar text) => .ok text
      | some (.mapping entries) =>
          match entries.find? fun entry => graph.hasTag .defaultValue entry.1 with
          | some (_, value) => graph.scalarText fuel value
          | none => .error .malformed
      | _ => .error .malformed

/-- The value of a node whose tag asks for a scalar. A point in time cannot be the default value of a
mapping. -/
def atom (graph : Graph) (id : NodeId) : Read Atom := do
  match graph.node? id with
  | some node =>
      if node.tag = .merge ∨ node.tag = .defaultValue ∨ node.tag = .unknown then throw .malformed
      let text ← graph.scalarText (graph.size + 1) id
      if node.tag = .timestamp ∧ (graph.entries? id).isSome then throw .mappedTimestamp
      Atom.ofScalar node.tag text
  | none => throw .malformed

end Graph

/-- What stands for a node in a collection. -/
inductive Part where
  | atom (value : Atom)
  /-- A collection, which may be filled later. -/
  | collection (id : NodeId)
  /-- A key and its value as one item. -/
  | pair
  deriving DecidableEq

/-- What a collection is filled with. -/
inductive Filling where
  | items (parts : List Part)
  | keys (keys : List Atom)
  | entries (entries : List (Atom × Part))

/-- What is known while a document gets its value. -/
structure Construction where
  graph : Graph
  /-- The nodes that have been met. -/
  parts : List (NodeId × Part)
  /-- The collections that have been met and are not filled yet. -/
  waiting : List NodeId
  fillings : List (NodeId × Filling)

/-- A step of the construction. -/
abbrev Construct := StateT Construction Read

namespace Construct

/-- What stands for a node. -/
def part (id : NodeId) : Construct Part := do
  let construction ← get
  match construction.parts.lookup id, construction.graph.node? id with
  | some part, _ => return part
  | none, none => throw .malformed
  | none, some node =>
      if node.tag.isCollection then
        modify fun construction => { construction with
          parts := (id, .collection id) :: construction.parts
          waiting := construction.waiting ++ [id] }
        return .collection id
      else
        let value ← construction.graph.atom id
        modify fun construction => { construction with
          parts := (id, .atom value) :: construction.parts }
        return .atom value

/-- What stands for a node that is a key; a collection is no key. -/
def key (id : NodeId) : Construct Atom := do
  match ← part id with
  | .atom value => return value
  | _ => throw .malformed

def items (id : NodeId) : Construct (List NodeId) := do
  match ((← get).graph.node? id).map Node.content with
  | some (.sequence items) => return items
  | _ => throw .malformed

/-- The entries of a node, which has to be a mapping, without its merge keys. -/
def entries (id : NodeId) : Construct (List (Atom × Part)) := do
  let (entries, graph) ← (GraphChange.allEntries id).run (← get).graph
  modify fun construction => { construction with graph }
  entries.mapM fun entry => do return (← key entry.1, ← part entry.2)

/-- An item of a sequence of pairs, each a mapping with one entry. -/
def pair (id : NodeId) : Construct Part := do
  match (← get).graph.entries? id with
  | some [(key, value)] =>
      let _ ← part key
      let _ ← part value
      return .pair
  | _ => throw .malformed

/-- The entries with one more; a key that is there keeps its place. -/
def insert (key : Atom) (value : Part) : List (Atom × Part) → List (Atom × Part)
  | [] => [(key, value)]
  | entry :: entries =>
      if entry.1.same key then (entry.1, value) :: entries else entry :: insert key value entries

/-- The entries with the last value of each key, at the place of its first one. -/
def lastEntries (entries : List (Atom × Part)) : List (Atom × Part) :=
  entries.foldl (fun chosen (key, value) => insert key value chosen) []

/-- What a collection is filled with. -/
def filling (id : NodeId) : Construct Filling := do
  match ((← get).graph.node? id).map Node.tag with
  | some .sequence => return .items (← (← items id).mapM part)
  | some .pairs => return .items (← (← items id).mapM pair)
  | some .mapping => return .entries (lastEntries (← entries id))
  | some .set => return .keys ((lastEntries (← entries id)).map Prod.fst)
  | _ => throw .malformed

/-- Fills the collections that wait, of which there are less than `fuel`. -/
def fillAll : (fuel : Nat) → Construct Unit
  | 0 => return
  | fuel + 1 => do
      match (← get).waiting with
      | [] => return
      | id :: waiting =>
          modify fun construction => { construction with waiting }
          let filling ← filling id
          modify fun construction => { construction with
            fillings := (id, filling) :: construction.fillings }
          fillAll fuel

/-- The part of the root of a graph, and what all collections are filled with. -/
def ofGraph (graph : Graph) (root : NodeId) : Read (Part × List (NodeId × Filling)) := do
  let construct : Construct Part := do
    let part ← part root
    fillAll (graph.size + 1)
    return part
  let (part, construction) ← StateT.run construct ⟨graph, [], [], []⟩
  return (part, construction.fillings)

end Construct

/-- The value of a part down to a depth, below which collections are not looked into: a collection may
hold itself. -/
def Part.value (fillings : List (NodeId × Filling)) : (depth : Nat) → Part → Value
  | _, .atom value => value.value
  | _, .pair => .other
  | 0, .collection _ => .other
  | depth + 1, .collection id =>
      match fillings.lookup id with
      | some (.items parts) => .list (parts.map (Part.value fillings depth))
      | some (.keys keys) => .list (keys.map Atom.value)
      | some (.entries entries) =>
          .map (entries.filterMap fun (key, part) =>
            match key with
            | .text name => some (name, part.value fillings depth)
            | _ => none)
      | none => .other

/-- The depth down to which the value of a document is given: a mapping, the lists in it, and their
items. -/
def valueDepth : Nat := 2

/-- The value of a YAML text; an empty text stands for nothing. -/
def load (text : Text) : Read Value := do
  let (graph, root?) ← Graph.ofTokens (TokenStream.ofText text)
  match root? with
  | none => return .null
  | some root =>
      let (part, fillings) ← Construct.ofGraph graph root
      return part.value fillings valueDepth

end DartRoutes.Yaml
