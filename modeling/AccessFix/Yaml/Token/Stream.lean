import AccessFix.Yaml.Token

/-! The tokens of a YAML text. Blocks are opened and closed by indentation. A scalar, alias or collection may turn out to
be the key of a mapping when a colon follows it on its line, so each place where a key may have started is remembered,
and the tokens that open the key are put in there later. -/
namespace AccessFix.Yaml

structure KeyStart where
  token : Nat
  index : Nat
  line : Nat
  column : Nat
  required : Bool
  deriving DecidableEq, Repr

structure Scan where
  cursor : Cursor
  tokens : Array Token
  flowLevel : Nat
  indent : Int
  indents : List Int
  keyAllowed : Bool
  keyStarts : List (Nat × KeyStart)
  deriving Repr

namespace Scan

def start (source : Source) : Scan := ⟨.start source, #[], 0, -1, [], true, []⟩

def push (s : Scan) (t : Token) : Scan := { s with tokens := s.tokens.push t }

def keyStart? (s : Scan) : Option KeyStart :=
  (s.keyStarts.find? fun k => k.1 = s.flowLevel).map Prod.snd

def dropKeyStart (s : Scan) : Scan :=
  { s with keyStarts := s.keyStarts.filter fun k => k.1 ≠ s.flowLevel }

def removeKeyStart (s : Scan) : Except Fault Scan :=
  match s.keyStart? with
  | some k => if k.required then .error .malformed else .ok s.dropKeyStart
  | none => .ok s

def dropStaleKeyStarts (s : Scan) : Except Fault Scan :=
  let stale (k : KeyStart) : Bool := k.line ≠ s.cursor.line || 1024 < s.cursor.index - k.index
  if s.keyStarts.any fun k => stale k.2 && k.2.required then .error .malformed
  else .ok { s with keyStarts := s.keyStarts.filter fun k => !stale k.2 }

def saveKeyStart (s : Scan) : Except Fault Scan := do
  if !s.keyAllowed then return s
  let s' ← s.removeKeyStart
  let k : KeyStart := ⟨s.tokens.size, s.cursor.index, s.cursor.line, s.cursor.column,
    s.flowLevel = 0 && decide (s.indent = s.cursor.column)⟩
  return { s' with keyStarts := (s.flowLevel, k) :: s'.keyStarts }

def unwindFrom (column : Int) : List Int → Int → Array Token → List Int × Int × Array Token
  | [], indent, tokens => ([], indent, tokens)
  | i :: rest, indent, tokens =>
    if column < indent then unwindFrom column rest i (tokens.push .blockEnd) else (i :: rest, indent, tokens)

def unwind (s : Scan) (column : Int) : Scan :=
  if s.flowLevel ≠ 0 then s
  else
    let (indents, indent, tokens) := unwindFrom column s.indents s.indent s.tokens
    { s with indents := indents, indent := indent, tokens := tokens }

def openBlock (s : Scan) (column : Nat) : Bool × Scan :=
  if s.indent < column then (true, { s with indents := s.indent :: s.indents, indent := column })
  else (false, s)

def moveTo (s : Scan) (c : Cursor) : Scan := { s with cursor := c }

def allowKey (s : Scan) (b : Bool) : Scan := { s with keyAllowed := b }

def take (s : Scan) (t : Token) (n : Nat) : Scan := (s.moveTo (s.cursor.advance n)).push t

def skipGapFrom (inFlow : Bool) : Nat → Bool → Cursor → Bool × Cursor
  | 0, allowed, c => (allowed, c)
  | fuel + 1, allowed, c =>
    let c := c.skipBlanks.skipComment
    match c.takeBreak with
    | ([], c) => (allowed, c)
    | (_, c) => skipGapFrom inFlow fuel (allowed || !inFlow) c

def skipGap (s : Scan) : Scan :=
  let c := if s.cursor.index = 0 && s.cursor.peek.toNat = 0xFEFF then s.cursor.next else s.cursor
  let (allowed, c) := skipGapFrom (s.flowLevel ≠ 0) (c.rest.length + 1) s.keyAllowed c
  { s with cursor := c, keyAllowed := allowed }

def takeStreamEnd (s : Scan) : Except Fault Scan := do
  let s ← (s.unwind (-1)).removeKeyStart
  return { s with keyStarts := [] }.push .streamEnd

def takeDirective (s : Scan) : Except Fault Scan := do
  let s := (← (s.unwind (-1)).removeKeyStart).allowKey false
  let (d, c) ← readDirective s.cursor
  return (s.moveTo c).push (.directive d)

def takeDocumentMarker (s : Scan) (t : Token) : Except Fault Scan := do
  return ((← (s.unwind (-1)).removeKeyStart).allowKey false).take t 3

def takeFlowStart (s : Scan) (t : Token) : Except Fault Scan := do
  let s ← s.saveKeyStart
  return { s with flowLevel := s.flowLevel + 1, keyAllowed := true }.take t 1

def takeFlowEnd (s : Scan) (t : Token) : Except Fault Scan := do
  let s ← s.removeKeyStart
  if s.flowLevel = 0 then throw .malformed
  return { s with flowLevel := s.flowLevel - 1, keyAllowed := false }.take t 1

def takeFlowEntry (s : Scan) : Except Fault Scan := do
  return (← (s.allowKey true).removeKeyStart).take .flowEntry 1

def openHere (s : Scan) (t : Token) : Except Fault Scan :=
  if s.flowLevel ≠ 0 then .ok s
  else if !s.keyAllowed then .error .malformed
  else
    let (opened, s) := s.openBlock s.cursor.column
    .ok (if opened then s.push t else s)

def takeBlockEntry (s : Scan) : Except Fault Scan := do
  let s ← s.openHere .blockSequenceStart
  return (← (s.allowKey true).removeKeyStart).take .blockEntry 1

def takeKey (s : Scan) : Except Fault Scan := do
  let s ← s.openHere .blockMappingStart
  return (← (s.allowKey (s.flowLevel = 0)).removeKeyStart).take .key 1

def makeKey (s : Scan) (k : KeyStart) : Scan :=
  let s := s.dropKeyStart
  let tokens := s.tokens.toList
  let (before, after) := (tokens.take k.token, tokens.drop k.token)
  let (opened, s) := if s.flowLevel = 0 then s.openBlock k.column else (false, s)
  let opening := if opened then [Token.blockMappingStart, .key] else [.key]
  { s with tokens := (before ++ opening ++ after).toArray, keyAllowed := false }

def takeValue (s : Scan) : Except Fault Scan := do
  match s.keyStart? with
  | some k => return (s.makeKey k).take .value 1
  | none =>
    let s ← s.openHere .blockMappingStart
    return (← (s.allowKey (s.flowLevel = 0)).removeKeyStart).take .value 1

def takeNode {α : Type} (s : Scan) (read : Cursor → Except Fault (α × Cursor)) (token : α → Token) :
    Except Fault Scan := do
  let s := (← s.saveKeyStart).allowKey false
  let (v, c) ← read s.cursor
  return (s.moveTo c).push (token v)

def takeBlockScalar (s : Scan) : Except Fault Scan := do
  let s ← (s.allowKey true).removeKeyStart
  let (text, c) ← readBlockScalar s.indent s.cursor
  return (s.moveTo c).push (.scalar text false)

def takePlain (s : Scan) : Except Fault Scan := do
  let s ← s.saveKeyStart
  let (text, broke, c) ← readPlain (s.flowLevel ≠ 0) s.indent s.cursor
  return ((s.moveTo c).allowKey broke).push (.scalar text true)

def atPlain (s : Scan) : Bool :=
  let x := s.cursor.peek
  if !isWhite x && !("-?:,[]\x7b\x7d#&*!|>'\"%@".toList.contains x) && x.toNat ≠ 0x60 then true
  else !isWhite (s.cursor.ahead 1) && (x = '-' || (s.flowLevel = 0 && (x = '?' || x = ':')))

def takeToken (s : Scan) : Except Fault Scan := do
  let c := s.cursor
  let x := c.peek
  let inFlow : Bool := s.flowLevel ≠ 0
  let atStart : Bool := c.column = 0
  if atStart && (x = '-' || x = '.') then
    let _ ← c.atDocumentMarker
  if x = '-' || (!inFlow && (x = '?' || x = ':')) then c.demand 2
  if c.rest.isEmpty then s.takeStreamEnd
  else if x = '%' && atStart then s.takeDirective
  else if atStart && c.atMarker '-' then s.takeDocumentMarker .documentStart
  else if atStart && c.atMarker '.' then s.takeDocumentMarker .documentEnd
  else if x = '[' then s.takeFlowStart .flowSequenceStart
  else if x = '\x7b' then s.takeFlowStart .flowMappingStart
  else if x = ']' then s.takeFlowEnd .flowSequenceEnd
  else if x = '\x7d' then s.takeFlowEnd .flowMappingEnd
  else if x = ',' then s.takeFlowEntry
  else if x = '-' && isWhite (c.ahead 1) then s.takeBlockEntry
  else if x = '?' && (inFlow || isWhite (c.ahead 1)) then s.takeKey
  else if x = ':' && (inFlow || isWhite (c.ahead 1)) then s.takeValue
  else if x = '*' then s.takeNode readAnchor .alias
  else if x = '&' then s.takeNode readAnchor .anchor
  else if x = '!' then s.takeNode readTag .tag
  else if (x = '|' || x = '>') && !inFlow then s.takeBlockScalar
  else if x = '\'' || x = '"' then s.takeNode readQuoted (.scalar · false)
  else if s.atPlain then s.takePlain
  else
    c.demand 2
    throw .malformed

def step (s : Scan) : Except Fault Scan := do
  let s := s.skipGap
  s.cursor.demand 1
  let s ← s.dropStaleKeyStarts
  let s ← (s.unwind s.cursor.column).takeToken
  s.cursor.demand 1
  return s

def known? (s : Scan) (number : Nat) : Except Fault (Option Token × Scan) := do
  match s.tokens[number]? with
  | none => return (none, s)
  | some t =>
    let s ← s.dropStaleKeyStarts
    return (if s.keyStarts.any fun k => k.2.token = number then none else some t, s)

/-- Scans to the end of the text; `acc` are the tokens that are known. A fault stands where the first token would be that
cannot be known because of it, so that what precedes it is judged first. -/
def run : (fuel : Nat) → (acc : Array Token) → Scan → Array Token
  | 0, acc, _ => acc.push (.broken .malformed)
  | fuel + 1, acc, s =>
    match s.known? acc.size with
    | .error f => acc.push (.broken f)
    | .ok (some t, s) => if t = .streamEnd then acc.push t else run fuel (acc.push t) s
    | .ok (none, s) =>
      match s.step with
      | .error f => acc.push (.broken f)
      | .ok s => run fuel acc s

end Scan

/-- The tokens of a text, up to its end or its first fault. Each step reads a character or ends the text, and adds at most
three tokens besides those that close blocks. -/
def tokens (source : Source) : List Token :=
  (Scan.run (8 * (source.text.length + 2)) #[] (Scan.start source)).toList

end AccessFix.Yaml
