import AccessFix.Yaml.Merge
import AccessFix.Yaml.Source

/-! The value of a YAML text. A collection is made empty when it is first mentioned and filled later, in the order in which
collections were made, so that of several faults the one inside the fewest collections counts. Each node is made once. -/
namespace AccessFix.Yaml

def Fault.message : Fault → String
  | .malformed => "malformed"
  | .encoding fault => fault.message
  | .integer text base => "invalid literal for int() with base " ++ toString base ++ ": "
    ++ Text.take 200 (Text.quoted text)
  | .tooManyDigits count => Text.tooManyDigits count
  | .decimal text => "could not convert string to float: " ++ Text.quoted text
  | .emptyNumber => "a number without digits"
  | .notBoolean => "not a truth value"
  | .notTimestamp => "not a timestamp"
  | .notText => "not a text"
  | .tooDeep => "maximum recursion depth exceeded"
  | .calendar fault => fault.message
  | .beyondUnicode code =>
    if code < 2147483648 then "chr() arg not in range(0x110000)"
    else "Python int too large to convert to C int"
  | .hugeFactor => "int too large to convert to float"

def emptyCollection? (tag : String) : Option Collection :=
  if tag = standard "seq" ∨ tag = standard "omap" ∨ tag = standard "pairs" then some (.list [])
  else if tag = standard "map" then some (.map [])
  else if tag = standard "set" then some (.set [])
  else none

structure Making where
  nodes : Nodes
  made : Array (Option Value)
  heap : Heap
  todo : Array (Nat × Nat)

abbrev Make := StateT Making (Except Fault)

namespace Make

def textOf (nodes : Nodes) : (fuel : Nat) → (id : Nat) → Except Fault Letters
  | 0, _ => .error .tooDeep
  | fuel + 1, id =>
    match nodes.node id with
    | .scalar _ text => .ok text
    | .sequence _ _ => .error .malformed
    | .mapping _ entries =>
      match entries.find? fun e => nodes.hasTag e.1 "value" with
      | some e => textOf nodes fuel e.2
      | none => .error .malformed

def scalar (nodes : Nodes) (id : Nat) : Except Fault Value := do
  let tag := (nodes.node id).tag
  if ["str", "null", "bool", "int", "float", "timestamp", "binary"].all fun name => tag ≠ standard name then
    throw .malformed
  let text ← textOf nodes (nodes.size + 1) id
  match nodes.node id with
  | .mapping _ _ => if tag = standard "timestamp" then throw .notText
  | _ => pure ()
  scalarValue tag (id + 1) text

def allocate (c : Collection) : Make Nat :=
  modifyGet fun m => (m.heap.size, { m with heap := m.heap.push c })

def value (id : Nat) : Make Value := do
  let m ← get
  if let some v := (m.made[id]?).join then return v
  let v ← match emptyCollection? (m.nodes.node id).tag with
    | some c => do
      let number ← allocate c
      modify fun m => { m with todo := m.todo.push (number, id) }
      pure (.collection number)
    | none => liftM (scalar m.nodes id)
  modify fun m => { m with made := m.made.setIfInBounds id (some v) }
  return v

def pair (id : Nat) : Make Value := do
  match (← get).nodes.node id with
  | .mapping _ [(k, v)] =>
    let first ← value k
    let second ← value v
    return .collection (← allocate (.pair first second))
  | _ => throw .malformed

def entry (e : Nat × Nat) : Make (Value × Value) := do
  let k ← value e.1
  if !k.isKey then throw .malformed
  return (k, ← value e.2)

def entries (id : Nat) : Make (List (Value × Value)) := do
  match (← get).nodes.node id with
  | .mapping _ _ =>
    let m ← get
    let ((), nodes) ← liftM ((Nodes.merge id).run m.nodes)
    set { m with nodes := nodes }
    return (← (nodes.entries id).mapM entry).foldl Collection.putEntry []
  | _ => throw .malformed

def content (id : Nat) : Make Collection := do
  let n := (← get).nodes.node id
  if n.tag = standard "map" then return .map (← entries id)
  else if n.tag = standard "set" then return .set ((← entries id).map Prod.fst)
  else
    match n with
    | .sequence tag items => return .list (← if tag = standard "seq" then items.mapM value else items.mapM pair)
    | _ => throw .malformed

def fill : (fuel : Nat) → (next : Nat) → Make Unit
  | 0, _ => return
  | fuel + 1, next => do
    match (← get).todo[next]? with
    | none => return
    | some (number, id) =>
      let c ← content id
      modify fun m => { m with heap := m.heap.setIfInBounds number c }
      fill fuel (next + 1)

end Make

def Graph.data (g : Graph) : Except Fault Data := do
  let build : Make Value := do
    let root ← Make.value g.root
    Make.fill (g.nodes.size + 1) 0
    return root
  let (root, m) ← build.run ⟨g.nodes, Array.replicate g.nodes.size none, #[], #[]⟩
  return ⟨root, m.heap⟩

def read (octets : List UInt8) : Except Fault Data := do
  match ← Graph.read (Source.ofOctets octets) with
  | none => return ⟨.null, #[]⟩
  | some g => g.data

end AccessFix.Yaml
