/-! Binary64 numbers as exact values, so that rounding, order and printing are computed in `Nat` and `Int`.
A finite number is a sign, a significand and a power of two. Every operation rounds one exact ratio once,
to the nearest number and to the even significand on a tie. What is no number carries a mark, which tells where it came
from: only as keys are two of one mark the same. -/
namespace AccessFix

inductive Double where
  | nan (mark : Nat)
  | infinite (negative : Bool)
  | finite (negative : Bool) (significand : Nat) (exponent : Int)
  deriving DecidableEq, Repr, Inhabited

namespace Double

def leastExponent : Int := -1074

def greatestExponent : Int := 971

def leastNormal : Nat := 4503599627370496

def zero : Double := .finite false 0 leastExponent

def powerRatio (b : Nat) (e : Int) : Nat × Nat :=
  if 0 ≤ e then (Nat.pow b e.toNat, 1) else (1, Nat.pow b (-e).toNat)

def nearestNat (num den : Nat) : Nat :=
  let q := num / den
  let twice := 2 * (num % den)
  if twice < den then q else if den < twice then q + 1 else if q % 2 = 0 then q else q + 1

def floorLog2 (num den : Nat) : Int :=
  let guess : Int := (Nat.log2 num : Int) - (Nat.log2 den : Int)
  let (p, q) := powerRatio 2 guess
  if p * den ≤ num * q then guess else guess - 1

def ofRatio (negative : Bool) (num den : Nat) : Double :=
  if num = 0 ∨ den = 0 then .finite negative 0 leastExponent
  else
    let e := max (floorLog2 num den - 52) leastExponent
    let (p, q) := powerRatio 2 e
    let m := nearestNat (num * q) (den * p)
    let (m, e) := if m = 2 * leastNormal then (leastNormal, e + 1) else (m, e)
    if greatestExponent < e then .infinite negative else .finite negative m e

def ofInt? (n : Int) : Option Double :=
  match ofRatio (decide (n < 0)) n.natAbs 1 with
  | .infinite _ => none
  | x => some x

def magnitude (significand : Nat) (exponent : Int) : Nat × Nat :=
  let (p, q) := powerRatio 2 exponent
  (significand * p, q)

def ratio (negative : Bool) (significand : Nat) (exponent : Int) : Int × Nat :=
  let (n, d) := magnitude significand exponent
  (if negative then -(n : Int) else n, d)

def ofSigned (num : Int) (den : Nat) : Double :=
  ofRatio (decide (num < 0)) num.natAbs den

def add : Double → Double → Double
  | .nan k, _ | _, .nan k => .nan k
  | .infinite s, .infinite t => if s = t then .infinite s else .nan 0
  | .infinite s, .finite .. | .finite .., .infinite s => .infinite s
  | .finite s m e, .finite t n f =>
    if m = 0 ∧ n = 0 then .finite (s && t) 0 leastExponent
    else
      let (a, b) := ratio s m e
      let (c, d) := ratio t n f
      ofSigned (a * d + c * b) (b * d)

def mul : Double → Double → Double
  | .nan k, _ | _, .nan k => .nan k
  | .infinite s, .infinite t => .infinite (s != t)
  | .infinite s, .finite t m _ | .finite t m _, .infinite s =>
    if m = 0 then .nan 0 else .infinite (s != t)
  | .finite s m e, .finite t n f =>
    let (a, b) := magnitude m e
    let (c, d) := magnitude n f
    ofRatio (s != t) (a * c) (b * d)

def neg : Double → Double
  | .nan k => .nan k
  | .infinite s => .infinite (!s)
  | .finite s m e => .finite (!s) m e

def isZero : Double → Bool
  | .finite _ m _ => m == 0
  | _ => false

def isFinite : Double → Bool
  | .finite .. => true
  | _ => false

def truncate? : Double → Option Int
  | .finite s m e =>
    let (n, d) := magnitude m e
    some (if s then -((n / d : Nat) : Int) else ((n / d : Nat) : Int))
  | _ => none

def compareRatios (a : Int) (b : Nat) (c : Int) (d : Nat) : Ordering :=
  compare (a * d) (c * b)

def order? : Double → Double → Option Ordering
  | .nan _, _ | _, .nan _ => none
  | .infinite s, .infinite t =>
    some (if s = t then .eq else if s then .lt else .gt)
  | .infinite s, .finite .. => some (if s then .lt else .gt)
  | .finite .., .infinite t => some (if t then .gt else .lt)
  | .finite s m e, .finite t n f =>
    let (a, b) := ratio s m e
    let (c, d) := ratio t n f
    some (compareRatios a b c d)

def orderInt? : Double → Int → Option Ordering
  | .nan _, _ => none
  | .infinite s, _ => some (if s then .lt else .gt)
  | .finite s m e, k =>
    let (a, b) := ratio s m e
    some (compareRatios a b k 1)

def ofDecimal (negative : Bool) (digits : Nat) (exponent : Int) : Double :=
  if digits = 0 then .finite negative 0 leastExponent
  else if 700 < exponent then .infinite negative
  else if (Nat.log2 digits : Int) + exponent < -700 then .finite negative 0 leastExponent
  else
    let (p, q) := powerRatio 10 exponent
    ofRatio negative (digits * p) q

end Double

end AccessFix
