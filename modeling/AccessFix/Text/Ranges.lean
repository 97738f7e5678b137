/-! Sets of characters as tables of ranges. A table lists the first and the last number of every range, in order, and is
searched by halving. -/
namespace AccessFix.Text

abbrev Ranges := Array (Nat × Nat)

namespace Ranges

def holdsBetween (table : Ranges) (n : Nat) : Nat → Nat → Nat → Bool
  | 0, _, _ => false
  | fuel + 1, low, high =>
    if low < high then
      let mid := (low + high) / 2
      match table[mid]? with
      | none => false
      | some (first, last) =>
        if n < first then holdsBetween table n fuel low mid
        else if last < n then holdsBetween table n fuel (mid + 1) high
        else true
    else false

def holds (table : Ranges) (c : Char) : Bool := table.holdsBetween c.toNat table.size 0 table.size

end Ranges

end AccessFix.Text
