/-! Names that resemble a given one. The resemblance of two texts is the share of characters in their common blocks: the
longest common block, and those to its left and to its right. -/
namespace AccessFix.CommandLine.Similar

def commonStart : List Char → List Char → Nat
  | a :: as, b :: bs => if a = b then commonStart as bs + 1 else 0
  | _, _ => 0

structure Block where
  left : Nat
  right : Nat
  length : Nat
  deriving DecidableEq, Repr

def longest (a b : List Char) : Block :=
  (List.range a.length).foldl (fun best i =>
    (List.range b.length).foldl (fun best j =>
      let n := commonStart (a.drop i) (b.drop j)
      if best.length < n then ⟨i, j, n⟩ else best) best) ⟨0, 0, 0⟩

def matched : Nat → List Char → List Char → Nat
  | 0, _, _ => 0
  | fuel + 1, a, b =>
    let m := longest a b
    if m.length = 0 then 0
    else m.length + matched fuel (a.take m.left) (b.take m.right)
      + matched fuel (a.drop (m.left + m.length)) (b.drop (m.right + m.length))

def resemblance (a b : String) : Nat × Nat :=
  (2 * matched a.length a.toList b.toList, a.length + b.length)

def below (x y : (Nat × Nat) × String) : Bool :=
  x.1.1 * y.1.2 < y.1.1 * x.1.2 || (x.1.1 * y.1.2 = y.1.1 * x.1.2 && x.2 < y.2)

def names (name : String) (known : List String) : List String :=
  let rated := (known.map fun k => (resemblance k name, k)).filter fun r => 3 * r.1.2 ≤ 5 * r.1.1
  let best := (rated.mergeSort fun x y => !below x y).take 3
  (best.map Prod.snd).mergeSort fun a b => a ≤ b

end AccessFix.CommandLine.Similar
