import AccessFix.Double.Shortest

/-! Numbers as they come from data: an integer of any size, or a binary64 number.
Integers and binary64 numbers compare by their exact values. -/
namespace AccessFix

inductive Number where
  | int (n : Int)
  | real (x : Double)
  deriving DecidableEq, Repr, Inhabited

namespace Number

instance : Coe Int Number := ⟨.int⟩

instance (n : Nat) : OfNat Number n := ⟨.int n⟩

def order? : Number → Number → Option Ordering
  | .int a, .int b => some (compare a b)
  | .int a, .real y => (y.orderInt? a).map Ordering.swap
  | .real x, .int b => x.orderInt? b
  | .real x, .real y => x.order? y

def same (a b : Number) : Bool := a.order? b = some .eq

def sameKey : Number → Number → Bool
  | .real (.nan i), .real (.nan j) => i == j
  | a, b => a.same b

def less (a b : Number) : Bool := a.order? b = some .lt

def atMost (a b : Number) : Bool := a.order? b = some .lt || a.order? b = some .eq

def addInt : Number → Int → Number
  | .int a, k => .int (a + k)
  | .real x, k => .real (x.add (Double.ofSigned k 1))

def least (a b : Number) : Number := if b.less a then b else a

def isZero : Number → Bool
  | .int a => a == 0
  | .real x => x.isZero

def isFinite : Number → Bool
  | .int _ => true
  | .real x => x.isFinite

def text : Number → String
  | .int n => toString n
  | .real x => x.text

end Number

end AccessFix
