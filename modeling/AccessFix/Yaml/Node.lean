import AccessFix.Yaml.Scalar
import AccessFix.Yaml.Token.Stream

/-! The graph that the tokens of a YAML text describe. Every node has its full tag and stands in a table under its number.
An alias is a further mention of the node that it names, which may be a collection around it. -/
namespace AccessFix.Yaml

inductive Node where
  | scalar (tag : String) (text : Letters)
  | sequence (tag : String) (items : List Nat)
  | mapping (tag : String) (entries : List (Nat × Nat))
  deriving DecidableEq, Repr, Inhabited

abbrev Nodes := Array Node

structure Graph where
  nodes : Nodes
  root : Nat
  deriving Repr

namespace Node

def tag : Node → String
  | .scalar tag _ | .sequence tag _ | .mapping tag _ => tag

def withTag (tag : String) : Node → Node
  | .scalar _ text => .scalar tag text
  | .sequence _ items => .sequence tag items
  | .mapping _ entries => .mapping tag entries

def empty : Node := .scalar (standard "null") ""

def nestingLimit : Nat := 480

structure Reading where
  tokens : List Token
  depth : Nat
  nodes : Nodes
  anchors : List (String × Nat)
  handles : List (String × String)

abbrev Read := StateT Reading (Except Fault)

def peek : Read Token := do return (← get).tokens.head?.getD .streamEnd

def skip : Read Unit := modify fun r => { r with tokens := r.tokens.drop 1 }

def fail {α : Type} : Read α := do
  match ← peek with
  | .broken fault => throw fault
  | _ => throw .malformed

def accept (t : Token) : Read Bool := do
  if (← peek) = t then
    skip
    return true
  return false

def require (t : Token) : Read Unit := do
  if !(← accept t) then fail

def anchored? (name : String) : Read (Option Nat) := do
  return ((← get).anchors.find? fun a => a.1 = name).map Prod.snd

def add (n : Node) : Read Nat :=
  modifyGet fun r => (r.nodes.size, { r with nodes := r.nodes.push n })

def acceptAnchor : Read (Option String) := do
  match ← peek with
  | .anchor name =>
    skip
    return some name
  | _ => return none

def acceptTag : Read (Option WrittenTag) := do
  match ← peek with
  | .tag t =>
    skip
    return some t
  | _ => return none

def fullTag (t : WrittenTag) : Read String := do
  match t.handle with
  | none => return t.suffix
  | some handle =>
    match (← get).handles.find? fun h => h.1 = handle with
    | some h => return h.2 ++ t.suffix
    | none => throw .malformed

def properties : Read (Option String × Option String) := do
  match ← acceptAnchor with
  | some anchor => return (some anchor, ← (← acceptTag).mapM fullTag)
  | none =>
    let tag ← acceptTag
    let anchor ← acceptAnchor
    return (anchor, ← tag.mapM fullTag)

def scalarTag (tag : Option String) (text : Letters) (plain : Bool) : String :=
  match tag with
  | none => if plain then impliedTag text else standard "str"
  | some tag => if tag = "!" then impliedTag text else tag

def collectionTag (tag : Option String) (kind : String) : String :=
  match tag with
  | none => standard kind
  | some tag => if tag = "!" then standard kind else tag

inductive Place where
  | block
  | blockEntry
  | flow
  deriving DecidableEq, Repr

def inside {α : Type} (content : Read α) : Read α := do
  if nestingLimit ≤ (← get).depth then throw .tooDeep
  modify fun r => { r with depth := r.depth + 1 }
  let a ← content
  modify fun r => { r with depth := r.depth - 1 }
  return a

def define (anchor : Option String) (content : Read Node) : Read Nat := do
  let id ← add empty
  if let some name := anchor then
    if (← anchored? name).isSome then throw .malformed
    modify fun r => { r with anchors := (name, id) :: r.anchors }
  let n ← content
  modify fun r => { r with nodes := r.nodes.setIfInBounds id n }
  return id

mutual

def read : Nat → Place → Read Nat
  | 0, _ => fail
  | fuel + 1, place => do
    if let .alias name := ← peek then
      skip
      match ← anchored? name with
      | some id => return id
      | none => throw .malformed
    let (anchor, tag) ← properties
    let sequence (items : Read (List Nat)) : Read Nat :=
      define anchor (.sequence (collectionTag tag "seq") <$> inside items)
    let mapping (entries : Read (List (Nat × Nat))) : Read Nat :=
      define anchor (.mapping (collectionTag tag "map") <$> inside entries)
    let scalar (text : Letters) (plain : Bool) : Read Nat :=
      define anchor (return .scalar (scalarTag tag text plain) text)
    match ← peek with
    | .broken fault => throw fault
    | .scalar text plain =>
      skip
      scalar text plain
    | .flowSequenceStart => sequence (skip *> flowItems fuel [])
    | .flowMappingStart => mapping (skip *> flowEntries fuel [])
    | t =>
      if t = .blockEntry ∧ place = .blockEntry then sequence (bareItems fuel [])
      else if t = .blockSequenceStart ∧ place ≠ .flow then sequence (skip *> blockItems fuel [])
      else if t = .blockMappingStart ∧ place ≠ .flow then mapping (skip *> blockEntries fuel [])
      else if anchor.isSome ∨ tag.isSome then scalar "" true
      else fail

def readUnless : Nat → List Token → Place → Read Nat
  | 0, _, _ => fail
  | fuel + 1, ends, place => do
    if ends.contains (← peek) then add empty else read fuel place

def readValue : Nat → List Token → Place → Read Nat
  | 0, _, _ => fail
  | fuel + 1, ends, place => do
    if ← accept .value then readUnless fuel ends place else add empty

def blockItems : Nat → List Nat → Read (List Nat)
  | 0, _ => fail
  | fuel + 1, acc => do
    if ← accept .blockEntry then
      let n ← readUnless fuel [.blockEntry, .blockEnd] .block
      blockItems fuel (n :: acc)
    else
      require .blockEnd
      return acc.reverse

def bareItems : Nat → List Nat → Read (List Nat)
  | 0, _ => fail
  | fuel + 1, acc => do
    if ← accept .blockEntry then
      let n ← readUnless fuel [.blockEntry, .key, .value, .blockEnd] .block
      bareItems fuel (n :: acc)
    else return acc.reverse

def blockEntries : Nat → List (Nat × Nat) → Read (List (Nat × Nat))
  | 0, _ => fail
  | fuel + 1, acc => do
    let ends : List Token := [.key, .value, .blockEnd]
    if ← accept .key then
      let k ← readUnless fuel ends .blockEntry
      let v ← readValue fuel ends .blockEntry
      blockEntries fuel ((k, v) :: acc)
    else
      require .blockEnd
      return acc.reverse

def flowItems : Nat → List Nat → Read (List Nat)
  | 0, _ => fail
  | fuel + 1, acc => do
    if ← accept .flowSequenceEnd then return acc.reverse
    if !acc.isEmpty then require .flowEntry
    if ← accept .key then
      let entry ← inside do
        let k ← readUnless fuel [.value, .flowEntry, .flowSequenceEnd] .flow
        let v ← readValue fuel [.flowEntry, .flowSequenceEnd] .flow
        return (k, v)
      flowItems fuel ((← add (.mapping (standard "map") [entry])) :: acc)
    else if ← accept .flowSequenceEnd then return acc.reverse
    else
      let n ← read fuel .flow
      flowItems fuel (n :: acc)

def flowEntries : Nat → List (Nat × Nat) → Read (List (Nat × Nat))
  | 0, _ => fail
  | fuel + 1, acc => do
    if ← accept .flowMappingEnd then return acc.reverse
    if !acc.isEmpty then require .flowEntry
    if ← accept .key then
      let k ← readUnless fuel [.value, .flowEntry, .flowMappingEnd] .flow
      let v ← readValue fuel [.flowEntry, .flowMappingEnd] .flow
      flowEntries fuel ((k, v) :: acc)
    else if ← accept .flowMappingEnd then return acc.reverse
    else
      let k ← read fuel .flow
      flowEntries fuel ((k, ← add empty) :: acc)

end

def standardHandles : List (String × String) := [("!", "!"), ("!!", standard "")]

def directives : Nat → Bool → List (String × String) → Read Unit
  | 0, _, _ => fail
  | fuel + 1, versioned, handles => do
    match ← peek with
    | .directive d =>
      skip
      match d with
      | .version major =>
        if versioned ∨ major ≠ 1 then throw .malformed
        directives fuel true handles
      | .tag handle tagPrefix =>
        if handles.any fun h => h.1 = handle then throw .malformed
        directives fuel versioned ((handle, tagPrefix) :: handles)
      | .other => directives fuel versioned handles
    | _ => modify fun r => { r with handles := handles ++ standardHandles }

def endsDocument : Token → Bool
  | .directive _ | .documentStart | .documentEnd | .streamEnd => true
  | _ => false

def skipDocumentEnds (r : Reading) : Reading := { r with tokens := r.tokens.dropWhile (· = .documentEnd) }

def documentStart (fuel : Nat) : Read Unit := do
  directives fuel false []
  require .documentStart

def document (fuel : Nat) : Read (Option Nat) := do
  let root ← match ← peek with
    | .streamEnd => pure none
    | .directive _ | .documentStart =>
      documentStart fuel
      some <$> if endsDocument (← peek) then add empty else read fuel .block
    | _ => some <$> read fuel .block
  modify skipDocumentEnds
  if ← accept .streamEnd then return root
  documentStart fuel
  throw .malformed

end Node

def Graph.read (source : Source) : Except Fault (Option Graph) := do
  let ts := tokens source
  let (root, reading) ← (Node.document (4 * ts.length + 4)).run ⟨ts, 0, #[], [], Node.standardHandles⟩
  return root.map (⟨reading.nodes, ·⟩)

end AccessFix.Yaml
