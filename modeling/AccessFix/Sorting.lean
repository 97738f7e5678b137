/-! Sorting by insertion. The ordered start of a list, turned around if it descends, is kept; each further item goes where
halving finds its place, after those that it does not precede. Items of one rank stay in order. The order of items that
cannot be compared is that of the comparisons made. -/
namespace AccessFix.Sorting

variable {α : Type}

def climb (before : α → α → Bool) (last : α) (seen : List α) : List α → List α × List α
  | [] => (last :: seen, [])
  | x :: xs => if before x last then (last :: seen, x :: xs) else climb before x (last :: seen) xs

def descend (before : α → α → Bool) (last : α) (seen : List α) : List α → List α × List α
  | [] => (last :: seen, [])
  | x :: xs => if before x last then descend before x (last :: seen) xs else (last :: seen, x :: xs)

def orderedStart (before : α → α → Bool) : List α → List α × List α
  | x :: y :: rest =>
    if before y x then descend before y [x] rest
    else
      let (seen, rest) := climb before y [x] rest
      (seen.reverse, rest)
  | xs => (xs, [])

def slot (before : α → α → Bool) (x : α) (xs : List α) : Nat → Nat → Nat → Nat
  | 0, low, _ => low
  | fuel + 1, low, high =>
    if low < high then
      let mid := low + (high - low) / 2
      match xs[mid]? with
      | none => low
      | some y => if before x y then slot before x xs fuel low mid else slot before x xs fuel (mid + 1) high
    else low

def insert (before : α → α → Bool) (xs : List α) (x : α) : List α :=
  let k := slot before x xs xs.length 0 xs.length
  xs.take k ++ x :: xs.drop k

def sort (before : α → α → Bool) (xs : List α) : List α :=
  let (start, rest) := orderedStart before xs
  rest.foldl (insert before) start

end AccessFix.Sorting
