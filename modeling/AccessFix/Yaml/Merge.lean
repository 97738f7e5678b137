import AccessFix.Yaml.Node

/-! Merging of mappings. The entries of what a merge key names come before the entries of the mapping itself, and of a
sequence of mappings the last one comes first. Merging changes the node of the mapping, for all its mentions. -/
namespace AccessFix.Yaml

abbrev Edit := StateT Nodes (Except Fault)

namespace Nodes

def node (nodes : Nodes) (id : Nat) : Node := nodes[id]?.getD Node.empty

def hasTag (nodes : Nodes) (id : Nat) (name : String) : Bool := (nodes.node id).tag = standard name

def entries (nodes : Nodes) (id : Nat) : List (Nat × Nat) :=
  match nodes.node id with
  | .mapping _ entries => entries
  | _ => []

def setEntries (nodes : Nodes) (id : Nat) (entries : List (Nat × Nat)) : Nodes :=
  nodes.setIfInBounds id (.mapping (nodes.node id).tag entries)

def plainKey (nodes : Nodes) (key : Nat) : Nodes :=
  if nodes.hasTag key "value" then nodes.setIfInBounds key ((nodes.node key).withTag (standard "str")) else nodes

def entryCount (nodes : Nodes) : Nat :=
  nodes.foldl (fun n node => match node with
    | .mapping _ entries => n + entries.length
    | _ => n) 0

def takeMerge? (id : Nat) : Edit (Option Nat) := do
  let nodes ← get
  let entries := nodes.entries id
  match entries.span fun e => !nodes.hasTag e.1 "merge" with
  | (before, e :: after) =>
    set (nodes.setEntries id (before ++ after))
    return some e.2
  | (_, []) => return none

mutual

/-- Puts all that is to be merged into a mapping in front of its own entries. `merged` is what was found so far. A merge
key is taken out before its value is looked at, so no more than two steps are needed for each. -/
def mergeInto : (fuel : Nat) → (id : Nat) → (merged : List (Nat × Nat)) → Edit Unit
  | 0, _, _ => throw .malformed
  | fuel + 1, id, merged => do
    match ← takeMerge? id with
    | some source => mergeInto fuel id (merged ++ (← mergeSource fuel source))
    | none =>
      let own := (← get).entries id
      modify fun nodes => own.foldl (fun nodes e => nodes.plainKey e.1) (nodes.setEntries id (merged ++ own))

def mergeSource : (fuel : Nat) → (source : Nat) → Edit (List (Nat × Nat))
  | 0, _ => throw .malformed
  | fuel + 1, source => do
    let mapping (id : Nat) : Edit (List (Nat × Nat)) := do
      mergeInto fuel id []
      return (← get).entries id
    match (← get).node source with
    | .mapping _ _ => mapping source
    | .sequence _ items =>
      let found ← items.mapM fun id => do
        match (← get).node id with
        | .mapping _ _ => mapping id
        | _ => throw .malformed
      return found.reverse.flatten
    | .scalar _ _ => throw .malformed

end

def merge (id : Nat) : Edit Unit := do mergeInto (2 * (← get).entryCount + 1) id []

end Nodes

end AccessFix.Yaml
