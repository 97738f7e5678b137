import AccessFix.Double

/-! The shortest decimal that reads back as a given number, and its written form.
For 1, 2, … 17 digits the two neighbours of the number on that decimal grid are tried against the interval
of reals that round to the number; the first grid with a hit wins, of two hits the nearer, of two equally near
the even one. -/
namespace AccessFix.Double

structure Decimal where
  digits : Nat
  point : Int
  deriving DecidableEq, Repr

/-- A quarter of the gap above a number serves as the unit: the number and the ends of its rounding interval. -/
structure Interval where
  low : Nat
  value : Nat
  high : Nat
  closed : Bool
  unit : Int

def interval (significand : Nat) (exponent : Int) : Interval where
  low := if significand = leastNormal ∧ leastExponent < exponent then 4 * significand - 1 else 4 * significand - 2
  value := 4 * significand
  high := 4 * significand + 2
  closed := significand % 2 = 0
  unit := exponent - 2

def Interval.admits (i : Interval) (k : Nat) (grid : Int) : Bool :=
  let (p, q) := powerRatio 10 grid
  let (r, s) := powerRatio 2 i.unit
  let point := k * p * s
  let low := i.low * r * q
  let high := i.high * r * q
  if i.closed then decide (low ≤ point ∧ point ≤ high) else decide (low < point ∧ point < high)

def Interval.distance (i : Interval) (k : Nat) (grid : Int) : Nat :=
  let (p, q) := powerRatio 10 grid
  let (r, s) := powerRatio 2 i.unit
  Int.natAbs ((k * p * s : Nat) - (i.value * r * q : Nat) : Int)

def Interval.onGrid? (i : Interval) (grid : Int) : Option Nat :=
  let (p, q) := powerRatio 10 grid
  let (r, s) := powerRatio 2 i.unit
  let below := (i.value * r * q) / (p * s)
  match i.admits below grid, i.admits (below + 1) grid with
  | true, true =>
    match compare (i.distance below grid) (i.distance (below + 1) grid) with
    | .lt => some below
    | .gt => some (below + 1)
    | .eq => some (if below % 2 = 0 then below else below + 1)
  | true, false => some below
  | false, true => some (below + 1)
  | false, false => none

def pointOf (num den : Nat) : Int :=
  let guess : Int := Int.fdiv (floorLog2 num den * 30103) 100000
  let fits (p : Int) : Bool :=
    let (a, b) := powerRatio 10 p
    decide (num * b < a * den)
  if fits guess then guess else if fits (guess + 1) then guess + 1 else guess + 2

def Interval.search (i : Interval) (point : Int) : List Nat → Option Decimal
  | [] => none
  | n :: rest =>
    match i.onGrid? (point - n) with
    | some k => some ⟨k, point - n⟩
    | none => i.search point rest

def dropZeros : Nat → Nat → Int → Nat × Int
  | 0, k, e => (k, e)
  | fuel + 1, k, e => if k % 10 = 0 ∧ k ≠ 0 then dropZeros fuel (k / 10) (e + 1) else (k, e)

def shortest (significand : Nat) (exponent : Int) : Nat × Int :=
  let (n, d) := magnitude significand exponent
  let i := interval significand exponent
  match i.search (pointOf n d) ((List.range 17).map (· + 1)) with
  | some r => dropZeros 20 r.digits r.point
  | none => (0, 0)

structure Style where
  leastPositional : Int
  beyondPositional : Int
  exponentDigits : Nat

def plain : Style := ⟨-4, 16, 2⟩

def zeros (n : Nat) : String := String.ofList (List.replicate n '0')

def padded (width n : Nat) : String :=
  let s := toString n
  zeros (width - s.length) ++ s

def Style.write (style : Style) (digits : Nat) (e : Int) : String :=
  let cs := (toString digits).toList
  let first : Int := e + cs.length - 1
  if style.leastPositional ≤ first ∧ first < style.beyondPositional then
    if 0 ≤ e then String.ofList cs ++ zeros e.toNat ++ ".0"
    else if 0 ≤ first then
      let whole := (first + 1).toNat
      String.ofList (cs.take whole) ++ "." ++ String.ofList (cs.drop whole)
    else "0." ++ zeros (-first - 1).toNat ++ String.ofList cs
  else
    let mantissa := match cs with
      | [] => ""
      | [c] => String.ofList [c]
      | c :: rest => String.ofList (c :: '.' :: rest)
    mantissa ++ "e" ++ (if first < 0 then "-" else "+") ++ padded style.exponentDigits first.natAbs

def text : Double → String
  | .nan _ => "nan"
  | .infinite s => if s then "-inf" else "inf"
  | .finite s m e =>
    let sign := if s then "-" else ""
    if m = 0 then sign ++ "0.0"
    else
      let (k, p) := shortest m e
      sign ++ plain.write k p

end AccessFix.Double
