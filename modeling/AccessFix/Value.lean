import AccessFix.Calendar
import AccessFix.Text.Literal
import AccessFix.Text.Numeral
import AccessFix.Text.Quoted

/-! Values of settings files. A collection stands in a heap under its number, so that it can be in several places and can
contain itself. A value is shown as text in two ways: as it is, and by the literal that it has inside a collection. -/
namespace AccessFix

inductive Value where
  | null
  | bool (b : Bool)
  | number (n : Number)
  | string (s : Letters)
  | octets (bs : List UInt8)
  | date (d : Date)
  | dateTime (t : DateTime)
  | collection (id : Nat)
  deriving DecidableEq, Repr, Inhabited

inductive Collection where
  | list (items : List Value)
  | pair (first second : Value)
  | map (entries : List (Value × Value))
  | set (items : List Value)
  deriving DecidableEq, Repr, Inhabited

abbrev Heap := Array Collection

inductive LiteralFault where
  | tooManyDigits
  | tooDeep
  deriving DecidableEq, Repr

namespace Value

def number? : Value → Option Number
  | .bool b => some (.int (if b then 1 else 0))
  | .number n => some n
  | _ => none

def sameKey (a b : Value) : Bool :=
  match a.number?, b.number? with
  | some m, some n => m.sameKey n
  | _, _ =>
    match a, b with
    | .dateTime x, .dateTime y => x.same y
    | _, _ => a = b

def isKey : Value → Bool
  | .collection _ => false
  | _ => true

end Value

namespace Collection

def cutOff : Collection → String
  | .list _ => "[...]"
  | .pair _ _ => "(...)"
  | .map _ => "\x7b...\x7d"
  | .set _ => "set(...)"

def isEmpty : Collection → Bool
  | .list items | .set items => items.isEmpty
  | .pair _ _ => false
  | .map entries => entries.isEmpty

def items : Collection → List Value
  | .list items | .set items => items
  | .pair a b => [a, b]
  | .map entries => entries.map Prod.fst

def kind : Collection → String
  | .list _ => "list"
  | .pair _ _ => "tuple"
  | .map _ => "dict"
  | .set _ => "set"

def putEntry : List (Value × Value) → Value × Value → List (Value × Value)
  | [], e => [e]
  | (k, v) :: rest, e => if k.sameKey e.1 then (k, e.2) :: rest else (k, v) :: putEntry rest e

def entry? (entries : List (Value × Value)) (name : Letters) : Option Value :=
  (entries.find? fun e => e.1.sameKey (.string name)).map Prod.snd

end Collection

namespace Heap

def get (heap : Heap) (id : Nat) : Collection := heap[id]?.getD (.list [])

def entries? (heap : Heap) : Value → Option (List (Value × Value))
  | .collection id =>
    match heap.get id with
    | .map entries => some entries
    | _ => none
  | _ => none

def timeZoneLiteral (minutes : Int) : String :=
  if minutes = 0 then "datetime.timezone.utc"
  else "datetime.timezone(" ++ durationText minutes ++ ")"

def nestingLimit : Nat := 980

def literal (heap : Heap) : (depth : Nat) → (outer : List Nat) → Value → Except LiteralFault String
  | 0, _, _ => .error .tooDeep
  | _ + 1, _, .null => .ok Text.Literal.null
  | _ + 1, _, .bool b => .ok (Text.Literal.bool b)
  | _ + 1, _, .number (.int n) => if Text.isWritable n then .ok (toString n) else .error .tooManyDigits
  | _ + 1, _, .number (.real x) => .ok x.text
  | _ + 1, _, .string s => .ok (Text.quoted s)
  | _ + 1, _, .octets bs => .ok (Text.quotedOctets bs)
  | _ + 1, _, .date d =>
    .ok ("datetime.date(" ++ Text.Literal.commas ([d.year, d.month, d.day].map toString) ++ ")")
  | _ + 1, _, .dateTime t =>
    .ok ("datetime.datetime(" ++ Text.Literal.commas (t.parts.map toString ++
      t.offset.toList.map fun m => "tzinfo=" ++ timeZoneLiteral m) ++ ")")
  | depth + 1, outer, .collection id =>
    let c := heap.get id
    if outer.contains id then .ok c.cutOff
    else
      let inner := heap.literal depth (id :: outer)
      match c with
      | .list items => (items.mapM inner).map Text.Literal.list
      | .pair a b => do return Text.Literal.pair (← inner a) (← inner b)
      | .map entries =>
        (entries.mapM fun (k, v) => do return (← inner k, ← inner v)).map Text.Literal.map
      | .set items => (items.mapM inner).map Text.Literal.set

def text (heap : Heap) : Value → Except LiteralFault Letters
  | .string s => .ok s
  | .date d => .ok d.text
  | .dateTime t => .ok (t.text " ")
  | v => (heap.literal nestingLimit [] v).map letters

def isPresent (heap : Heap) : Value → Bool
  | .null => false
  | .bool b => b
  | .number n => !n.isZero
  | .string s => !s.isEmpty
  | .octets bs => !bs.isEmpty
  | .collection id => !(heap.get id).isEmpty
  | _ => true

def kind (heap : Heap) : Value → String
  | .null => "NoneType"
  | .bool _ => "bool"
  | .number (.int _) => "int"
  | .number (.real _) => "float"
  | .string _ => "str"
  | .octets _ => "bytes"
  | .date _ => "datetime.date"
  | .dateTime _ => "datetime.datetime"
  | .collection id => (heap.get id).kind

def items? (heap : Heap) : Value → Option (List Value)
  | .collection id => some (heap.get id).items
  | .string s => some (s.map fun c => .string [c])
  | .octets bs => some (bs.map fun b => .number (.int b.toNat))
  | _ => none

end Heap

structure Data where
  root : Value
  heap : Heap
  deriving DecidableEq, Repr, Inhabited

end AccessFix
