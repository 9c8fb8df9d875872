import DartRoutes.Yaml.Graph

/-!
# Merge keys

A merge key takes over the entries of another mapping, or of several mappings of which the first one
wins. The entries that are taken over stand in front of a mapping's own, which win over them. Mappings
may take over each other's entries, and their own.
-/

namespace DartRoutes.Yaml

/-- A step that changes a graph. -/
abbrev GraphChange := StateT Graph Read

namespace GraphChange

/-- The entries of a node, which has to be a mapping. -/
def entries (id : NodeId) : GraphChange (List Entry) := do
  match (← get).entries? id with
  | some entries => return entries
  | none => throw .malformed

/-- The value of the first merge key among entries, and the other entries. -/
def splitMerge? (graph : Graph) : List Entry → Option (NodeId × List Entry)
  | [] => none
  | entry :: entries =>
      if graph.hasTag .merge entry.1 then some (entry.2, entries)
      else (splitMerge? graph entries).map fun (source, others) => (source, entry :: others)

/-- Puts the entries that were taken over in front of a mapping's own. -/
def finish (id : NodeId) (taken : List Entry) : GraphChange Unit := do
  let own ← entries id
  modify fun graph => graph.putEntries id (taken ++ own)
  modify fun graph => own.foldl (fun graph entry => graph.nameDefault entry.1) graph

/-- Takes over the entries that the merge keys of a mapping stand for, behind the entries `taken`.
Every round spends a merge key, and there are less than `fuel` of them. -/
def takeOver : (fuel : Nat) → NodeId → (taken : List Entry) → GraphChange Unit
  | 0, _, _ => throw .malformed
  | fuel + 1, id, taken => do
      match splitMerge? (← get) (← entries id) with
      | none => finish id taken
      | some (source, others) =>
          modify fun graph => graph.putEntries id others
          match ((← get).node? source).map Node.content with
          | some (.mapping _) =>
              takeOver fuel source []
              takeOver fuel id (taken ++ (← entries source))
          | some (.sequence items) =>
              let parts ← items.mapM fun item => do
                let _ ← entries item
                takeOver fuel item []
                entries item
              takeOver fuel id (taken ++ parts.reverse.flatten)
          | _ => throw .malformed

/-- The entries of a mapping once its merge keys are spent. -/
def allEntries (id : NodeId) : GraphChange (List Entry) := do
  let graph ← get
  takeOver (graph.mergeCount + 1) id []
  entries id

end GraphChange

end DartRoutes.Yaml
