/-! Labels of host names in ASCII. A label with other characters is written as its ASCII characters, and then, as numbers
of variable length, the steps from one of the other characters and its place to the next. -/
namespace AccessFix.Text.Punycode

def digit (n : Nat) : Char :=
  if n < 26 then Char.ofNat ('a'.toNat + n) else Char.ofNat ('0'.toNat + (n - 26))

def scale : Nat → Nat → Nat → Nat × Nat
  | 0, k, step => (k, step)
  | fuel + 1, k, step => if 455 < step then scale fuel (k + 36) (step / 35) else (k, step)

def adapt (step count : Nat) (first : Bool) : Nat :=
  let step := if first then step / 700 else step / 2
  let step := step + step / count
  let (k, step) := scale step 0 step
  k + 36 * step / (step + 38)

def threshold (bias k : Nat) : Nat := if k ≤ bias then 1 else if bias + 26 ≤ k then 26 else k - bias

def number (bias : Nat) : Nat → Nat → Nat → List Char
  | 0, _, _ => []
  | fuel + 1, k, q =>
    let t := threshold bias k
    if q < t then [digit q]
    else digit (t + (q - t) % (36 - t)) :: number bias fuel (k + 36) ((q - t) / (36 - t))

structure Progress where
  output : List Char
  step : Nat
  bias : Nat
  written : Nat
  deriving Repr

def writeAll (basic m : Nat) (label : List Char) (p : Progress) : Progress :=
  label.foldl (fun p c =>
    if c.toNat < m then { p with step := p.step + 1 }
    else if c.toNat = m then
      { output := p.output ++ number p.bias (p.step + 2) 36 p.step
        step := 0
        bias := adapt p.step (p.written + 1) (p.written = basic)
        written := p.written + 1 }
    else p) p

def writeFrom (basic : Nat) (label : List Char) : Nat → Nat → Progress → Progress
  | 0, _, p => p
  | fuel + 1, n, p =>
    match ((label.map Char.toNat).filter (n ≤ ·)).min? with
    | none => p
    | some m =>
      let p := writeAll basic m label { p with step := p.step + (m - n) * (p.written + 1) }
      writeFrom basic label fuel (m + 1) { p with step := p.step + 1 }

def encode (label : List Char) : List Char :=
  let basic := label.filter fun c => c.toNat < 128
  let start : Progress := ⟨if basic.isEmpty then [] else basic ++ ['-'], 0, 72, basic.length⟩
  (writeFrom basic.length label label.length 128 start).output

def digitValue? (c : Char) : Option Nat :=
  if 'a' ≤ c ∧ c ≤ 'z' then some (c.toNat - 'a'.toNat)
  else if 'A' ≤ c ∧ c ≤ 'Z' then some (c.toNat - 'A'.toNat)
  else if '0' ≤ c ∧ c ≤ '9' then some (c.toNat - '0'.toNat + 26)
  else none

def readNumber (bias k total weight : Nat) : List Char → Option (Nat × List Char)
  | [] => none
  | c :: rest => do
    let d ← digitValue? c
    let t := threshold bias k
    if d < t then some (total + d * weight, rest)
    else readNumber bias (k + 36) (total + d * weight) (weight * (36 - t)) rest

def insertFrom (first : Bool) (label : List Char) (code place bias : Nat) : Nat → List Char → Option (List Char)
  | 0, _ => some label
  | fuel + 1, cs =>
    if cs.isEmpty then some label
    else do
      let (step, rest) ← readNumber bias 36 0 1 cs
      let count := label.length + 1
      let code := code + (place + step) / count
      let place := (place + step) % count
      let label := label.take place ++ Char.ofNat code :: label.drop place
      if 0x10FFFF < code then none else insertFrom false label code (place + 1) (adapt step count first) fuel rest

def decode? (cs : List Char) : Option (List Char) :=
  let steps := (cs.reverse.takeWhile (· ≠ '-')).reverse
  insertFrom true (cs.take (cs.length - steps.length - 1)) 128 0 72 steps.length steps

end AccessFix.Text.Punycode
