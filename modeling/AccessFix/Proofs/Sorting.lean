import AccessFix.Sorting
import Mathlib

/-! Sorting by a key of integers. The result is in order and keeps the items of each key as they came, which leaves one
list only: that of a stable merge sort. Comparisons that are no order still give back the items that were there, and the order
of the items themselves puts them in it. -/
namespace AccessFix.Sorting

variable {α : Type}

def less (key : α → Int) (a b : α) : Bool := decide (key a < key b)

/-- `ys` holds the items of `xs` by key, those of one key as they came. -/
def Stable (key : α → Int) (xs ys : List α) : Prop :=
  ys.Pairwise (fun a b => key a ≤ key b) ∧ ∀ k, ys.filter (key · == k) = xs.filter (key · == k)

theorem stableHeadLeast {key : α → Int} {xs y ys z zs} (left : Stable key xs (y :: ys))
    (right : Stable key xs (z :: zs)) : key y ≤ key z := by
  have mem : z ∈ (y :: ys).filter (key · == key z) := by
    rw [left.2, ← right.2]
    simp
  rcases List.mem_cons.mp (List.mem_filter.mp mem).1 with rfl | tail
  · exact le_refl _
  · exact (List.pairwise_cons.mp left.1).1 z tail

theorem stableNil {key : α → Int} {xs zs} (left : Stable key xs []) (right : Stable key xs zs) : zs = [] := by
  cases zs with
  | nil => rfl
  | cons z zs =>
    have same := (right.2 (key z)).trans (left.2 (key z)).symm
    simp at same

theorem stableUnique {key : α → Int} {xs ys zs} (left : Stable key xs ys) (right : Stable key xs zs) : ys = zs := by
  induction ys generalizing xs zs with
  | nil => exact (stableNil left right).symm
  | cons y ys ih =>
    cases zs with
    | nil => exact stableNil right left
    | cons z zs =>
      have same : key y = key z := le_antisymm (stableHeadLeast left right) (stableHeadLeast right left)
      have head := (left.2 (key y)).trans (right.2 (key y)).symm
      simp only [List.filter_cons, beq_self_eq_true, if_true, same, List.cons.injEq] at head
      obtain ⟨rfl, _⟩ := head
      have tails : ∀ k, zs.filter (key · == k) = ys.filter (key · == k) := by
        intro k
        have whole := (right.2 k).trans (left.2 k).symm
        by_cases h : key y = k <;> simpa [List.filter_cons, h] using whole
      rw [ih ⟨(List.pairwise_cons.mp left.1).2, fun _ => rfl⟩ ⟨(List.pairwise_cons.mp right.1).2, tails⟩]

theorem mergeSortStable (key : α → Int) (xs : List α) :
    Stable key xs (xs.mergeSort fun a b => decide (key a ≤ key b)) := by
  have trans : ∀ a b c : α, decide (key a ≤ key b) = true → decide (key b ≤ key c) = true →
      decide (key a ≤ key c) = true := by
    intro a b c ab bc
    simp only [decide_eq_true_eq] at ab bc ⊢
    omega
  have total : ∀ a b : α, (decide (key a ≤ key b) || decide (key b ≤ key a)) = true := by
    intro a b
    simp only [Bool.or_eq_true, decide_eq_true_eq]
    omega
  refine ⟨by simpa using List.pairwise_mergeSort trans total xs, fun k => ?_⟩
  -- the items of one key are in order as they are, so the sort keeps them as a sublist
  have ordered : (xs.filter (key · == k)).Pairwise fun a b => decide (key a ≤ key b) = true := by
    apply List.pairwise_of_forall_mem_list
    intro a ha b hb
    simp only [List.mem_filter, beq_iff_eq] at ha hb
    simp [ha.2, hb.2]
  have kept := (List.sublist_mergeSort trans total ordered List.filter_sublist).filter (key · == k)
  rw [List.filter_filter] at kept
  simp only [Bool.and_self] at kept
  refine (kept.eq_of_length ?_).symm
  exact ((List.mergeSort_perm xs _).filter _).length_eq.symm

/-! Pairs of items before and after sorting. -/

theorem pairOf {a b : α} {xs : List α} (first : a ∈ xs) (second : b ∈ xs) (differ : a ≠ b) :
    [a, b].Sublist xs ∨ [b, a].Sublist xs := by
  obtain ⟨before, after, rfl⟩ := List.append_of_mem first
  rcases List.mem_append.mp second with left | right
  · exact .inr ((List.singleton_sublist.mpr left).append (List.singleton_sublist.mpr (by simp)))
  · rcases List.mem_cons.mp right with same | later
    · exact absurd same.symm differ
    · exact .inl ((List.Sublist.cons_cons a (List.singleton_sublist.mpr later)).trans (List.sublist_append_right _ _))

theorem stableMem {key : α → Int} {xs ys : List α} (stable : Stable key xs ys) {a : α} : a ∈ ys ↔ a ∈ xs := by
  have same := congrArg (a ∈ ·) (stable.2 (key a))
  simpa using same

theorem stableAlike {key : α → Int} {xs ys : List α} (stable : Stable key xs ys) {a b : α} (same : key a = key b) :
    [a, b].Sublist ys ↔ [a, b].Sublist xs := by
  have pair : [a, b].filter (key · == key a) = [a, b] := by simp [same]
  constructor
  · intro there
    have kept := there.filter (key · == key a)
    rw [pair, stable.2] at kept
    exact kept.trans List.filter_sublist
  · intro there
    have kept := there.filter (key · == key a)
    rw [pair, ← stable.2] at kept
    exact kept.trans List.filter_sublist

theorem stableRising {key : α → Int} {xs ys : List α} (stable : Stable key xs ys) {a b : α} (less : key a < key b)
    (first : a ∈ xs) (second : b ∈ xs) : [a, b].Sublist ys := by
  have differ : a ≠ b := fun same => by rw [same] at less; omega
  rcases pairOf ((stableMem stable).mpr first) ((stableMem stable).mpr second) differ with there | turned
  · exact there
  · have order := List.pairwise_iff_forall_sublist.mp stable.1 turned
    omega

theorem stablePairwise {key : α → Int} {xs ys : List α} (stable : Stable key xs ys) {R : α → α → Prop} :
    ys.Pairwise R ↔ xs.Pairwise fun a b => if key a ≤ key b then R a b else R b a := by
  -- items of one key stand as they came, items of two keys in the order of these, whichever came first
  simp only [List.pairwise_iff_forall_sublist]
  constructor
  · intro held a b there
    have first : a ∈ xs := there.subset (by simp)
    have second : b ∈ xs := there.subset (by simp)
    rcases lt_trichotomy (key a) (key b) with less | same | more
    · rw [if_pos (le_of_lt less)]
      exact held (stableRising stable less first second)
    · rw [if_pos (le_of_eq same)]
      exact held ((stableAlike stable same).mpr there)
    · rw [if_neg (by omega)]
      exact held (stableRising stable more second first)
  · intro held a b there
    have order : key a ≤ key b := List.pairwise_iff_forall_sublist.mp stable.1 there
    rcases lt_or_eq_of_le order with less | same
    · have differ : a ≠ b := fun same => by rw [same] at less; omega
      have first : a ∈ xs := (stableMem stable).mp (there.subset (by simp))
      have second : b ∈ xs := (stableMem stable).mp (there.subset (by simp))
      rcases pairOf first second differ with came | turned
      · simpa [order] using held came
      · have other := held turned
        rwa [if_neg (not_le_of_gt less)] at other
    · simpa [order] using held ((stableAlike stable same).mp there)

/-! Runs at the start of a list. -/

theorem climbSplits (before : α → α → Bool) (last : α) (seen xs : List α) :
    (climb before last seen xs).1.reverse ++ (climb before last seen xs).2 = (last :: seen).reverse ++ xs := by
  induction xs generalizing last seen with
  | nil => simp [climb]
  | cons x xs ih =>
    simp only [climb]
    split
    · rfl
    · rw [ih]
      simp

theorem descendSplits (before : α → α → Bool) (last : α) (seen xs : List α) :
    (descend before last seen xs).1.reverse ++ (descend before last seen xs).2 = (last :: seen).reverse ++ xs := by
  induction xs generalizing last seen with
  | nil => simp [descend]
  | cons x xs ih =>
    simp only [descend]
    split
    · rw [ih]
      simp
    · rfl

theorem climbOrdered {key : α → Int} {last : α} {seen : List α} (xs : List α)
    (ordered : (last :: seen).Pairwise fun a b => key b ≤ key a) :
    (climb (less key) last seen xs).1.Pairwise fun a b => key b ≤ key a := by
  induction xs generalizing last seen with
  | nil => exact ordered
  | cons x xs ih =>
    simp only [climb]
    split
    · exact ordered
    · rename_i rising
      have above : key last ≤ key x := by simpa [less] using rising
      apply ih
      refine List.pairwise_cons.mpr ⟨?_, ordered⟩
      intro b mem
      rcases List.mem_cons.mp mem with rfl | tail
      · exact above
      · exact le_trans ((List.pairwise_cons.mp ordered).1 b tail) above

theorem descendOrdered {key : α → Int} {last : α} {seen : List α} (xs : List α)
    (ordered : (last :: seen).Pairwise fun a b => key a < key b) :
    (descend (less key) last seen xs).1.Pairwise fun a b => key a < key b := by
  induction xs generalizing last seen with
  | nil => exact ordered
  | cons x xs ih =>
    simp only [descend]
    split
    · rename_i falling
      have below : key x < key last := by simpa [less] using falling
      apply ih
      refine List.pairwise_cons.mpr ⟨?_, ordered⟩
      intro b mem
      rcases List.mem_cons.mp mem with rfl | tail
      · exact below
      · exact lt_trans below ((List.pairwise_cons.mp ordered).1 b tail)
    · exact ordered

theorem strictStable {key : α → Int} {ys : List α} (strict : ys.Pairwise fun a b => key a < key b) :
    Stable key ys.reverse ys := by
  refine ⟨strict.imp fun h => le_of_lt h, fun k => ?_⟩
  rw [List.filter_reverse]
  have one := strict.filter (key · == k)
  match h : ys.filter (key · == k) with
  | [] => rfl
  | [_] => rfl
  | a :: b :: rest =>
    have ha : key a = k := by simpa using (List.mem_filter.mp (by rw [h]; simp : a ∈ ys.filter (key · == k))).2
    have hb : key b = k := by simpa using (List.mem_filter.mp (by rw [h]; simp : b ∈ ys.filter (key · == k))).2
    rw [h] at one
    have := (List.pairwise_cons.mp one).1 b (by simp)
    omega

theorem orderedStartStable (key : α → Int) (xs : List α) :
    ∃ run, xs = run ++ (orderedStart (less key) xs).2 ∧ Stable key run (orderedStart (less key) xs).1 := by
  match xs with
  | [] => exact ⟨[], rfl, by simp [Stable, orderedStart]⟩
  | [x] => exact ⟨[x], rfl, by simp [Stable, orderedStart]⟩
  | x :: y :: rest =>
    simp only [orderedStart]
    split
    · rename_i falling
      refine ⟨(descend (less key) y [x] rest).1.reverse, by simpa using (descendSplits (less key) y [x] rest).symm, ?_⟩
      apply strictStable
      apply descendOrdered
      simpa [less] using falling
    · rename_i rising
      refine ⟨(climb (less key) y [x] rest).1.reverse, by simpa using (climbSplits (less key) y [x] rest).symm, ?_⟩
      refine ⟨List.pairwise_reverse.mpr (climbOrdered rest ?_), fun _ => rfl⟩
      simpa [less] using rising

structure Place (key : α → Int) (x : α) (ys : List α) (low high : Nat) : Prop where
  inside : low ≤ high ∧ high ≤ ys.length
  below : ∀ y ∈ ys.take low, key y ≤ key x
  above : ∀ y ∈ ys.drop high, key x < key y

theorem placeLower {key : α → Int} {x : α} {ys : List α} {low high mid : Nat} (place : Place key x ys low high)
    (ordered : ys.Pairwise fun a b => key a ≤ key b) {y : α} (at_ : ys[mid]? = some y)
    (range : low ≤ mid ∧ mid < high) (less : key x < key y) : Place key x ys low mid := by
  refine ⟨⟨range.1, by have := place.inside; omega⟩, place.below, ?_⟩
  obtain ⟨short, rfl⟩ := List.getElem?_eq_some_iff.mp at_
  rw [List.drop_eq_getElem_cons short]
  intro z mem
  rcases List.mem_cons.mp mem with rfl | tail
  · exact less
  · have rest := ordered.drop (i := mid)
    rw [List.drop_eq_getElem_cons short] at rest
    exact lt_of_lt_of_le less ((List.pairwise_cons.mp rest).1 z tail)

theorem placeHigher {key : α → Int} {x : α} {ys : List α} {low high mid : Nat} (place : Place key x ys low high)
    (ordered : ys.Pairwise fun a b => key a ≤ key b) {y : α} (at_ : ys[mid]? = some y)
    (range : low ≤ mid ∧ mid < high) (notLess : key y ≤ key x) : Place key x ys (mid + 1) high := by
  refine ⟨⟨by omega, place.inside.2⟩, ?_, place.above⟩
  obtain ⟨short, rfl⟩ := List.getElem?_eq_some_iff.mp at_
  rw [List.take_succ_eq_append_getElem short]
  intro z mem
  rcases List.mem_append.mp mem with front | last
  · have whole := ordered.take (i := mid + 1)
    rw [List.take_succ_eq_append_getElem short] at whole
    exact le_trans ((List.pairwise_append.mp whole).2.2 z front _ (by simp)) notLess
  · rcases List.mem_singleton.mp last with rfl
    exact notLess

theorem slotPlace {key : α → Int} {x : α} {ys : List α} {low high : Nat} (place : Place key x ys low high)
    (ordered : ys.Pairwise fun a b => key a ≤ key b) (fuel : Nat) (enough : high - low ≤ fuel) :
    Place key x ys (slot (less key) x ys fuel low high) (slot (less key) x ys fuel low high) := by
  induction fuel generalizing low high with
  | zero =>
    have same : high = low := by have := place.inside; omega
    subst same
    exact place
  | succ fuel ih =>
    have inside := place.inside
    simp only [slot]
    split
    · rename_i room
      have short : low + (high - low) / 2 < ys.length := by omega
      have at_ := List.getElem?_eq_getElem short
      simp only [at_]
      split
      · rename_i before
        refine ih (placeLower place ordered at_ (by omega) ?_) (by omega)
        simpa [less] using before
      · rename_i notBefore
        refine ih (placeHigher place ordered at_ (by omega) ?_) (by omega)
        simpa [less] using notBefore
    · have same : high = low := by omega
      subst same
      exact place

theorem insertStable {key : α → Int} {xs ys : List α} (stable : Stable key xs ys) (x : α) :
    Stable key (xs ++ [x]) (insert (less key) ys x) := by
  have start : Place key x ys 0 ys.length := ⟨by simp, by simp, by simp⟩
  have place := slotPlace start stable.1 ys.length (by omega)
  simp only [insert]
  generalize slot (less key) x ys ys.length 0 ys.length = k at place
  refine ⟨?_, fun n => ?_⟩
  · have halves := stable.1
    rw [← List.take_append_drop k ys, List.pairwise_append] at halves
    refine List.pairwise_append.mpr ⟨halves.1, List.pairwise_cons.mpr ⟨?_, halves.2.1⟩, ?_⟩
    · intro b mem
      exact le_of_lt (place.above b mem)
    · intro a ha b hb
      rcases List.mem_cons.mp hb with rfl | tail
      · exact place.below a ha
      · exact halves.2.2 a ha b tail
  · rw [List.filter_append, List.filter_append, ← stable.2 n]
    conv_rhs => rw [← List.take_append_drop k ys, List.filter_append, List.append_assoc]
    congr 1
    by_cases h : key x = n
    · -- nothing after the new item has its key
      have none : (ys.drop k).filter (key · == n) = [] := by
        apply List.filter_eq_nil_iff.mpr
        intro b mem
        have := place.above b mem
        simp only [beq_iff_eq]
        omega
      simp [h, none]
    · simp [h]

theorem insertAllStable {key : α → Int} {xs ys : List α} (stable : Stable key xs ys) (rest : List α) :
    Stable key (xs ++ rest) (rest.foldl (insert (less key)) ys) := by
  induction rest generalizing xs ys with
  | nil => simpa using stable
  | cons x rest ih => simpa using ih (insertStable stable x)

theorem sortStable (key : α → Int) (xs : List α) : Stable key xs (sort (less key) xs) := by
  obtain ⟨run, split, stable⟩ := orderedStartStable key xs
  have all := insertAllStable stable (orderedStart (less key) xs).2
  rw [← split] at all
  exact all

theorem sortEqMergeSort (key : α → Int) (xs : List α) :
    sort (less key) xs = xs.mergeSort fun a b => decide (key a ≤ key b) :=
  stableUnique (sortStable key xs) (mergeSortStable key xs)

theorem insertPerm (before : α → α → Bool) (ys : List α) (x : α) : (insert before ys x).Perm (x :: ys) := by
  simp only [insert]
  refine List.perm_middle.trans ?_
  rw [List.take_append_drop]

theorem insertAllPerm (before : α → α → Bool) (ys rest : List α) :
    (rest.foldl (insert before) ys).Perm (ys ++ rest) := by
  induction rest generalizing ys with
  | nil => simp
  | cons x rest ih =>
    refine (ih (insert before ys x)).trans ?_
    refine ((insertPerm before ys x).append_right rest).trans ?_
    exact List.perm_middle.symm

theorem orderedStartPerm (before : α → α → Bool) (xs : List α) :
    ((orderedStart before xs).1 ++ (orderedStart before xs).2).Perm xs := by
  match xs with
  | [] | [_] => simp [orderedStart]
  | x :: y :: rest =>
    simp only [orderedStart]
    split
    · have whole := descendSplits before y [x] rest
      refine ((List.reverse_perm _).symm.append_right _).trans ?_
      rw [whole]
      simp
    · have whole := climbSplits before y [x] rest
      simp only [whole]
      simp

theorem sortPerm (before : α → α → Bool) (xs : List α) : (sort before xs).Perm xs :=
  (insertAllPerm before _ _).trans (orderedStartPerm before xs)

/-! Sorting items that stand for others. -/

section Map

variable {β : Type} (before : α → α → Bool) (f : β → α)

theorem climbMap (last : β) (seen xs : List β) :
    climb before (f last) (seen.map f) (xs.map f) =
      ((climb (fun a b => before (f a) (f b)) last seen xs).1.map f,
        (climb (fun a b => before (f a) (f b)) last seen xs).2.map f) := by
  induction xs generalizing last seen with
  | nil => simp [climb]
  | cons x xs ih =>
    simp only [List.map_cons, climb]
    split
    · simp
    · exact ih x (last :: seen)

theorem descendMap (last : β) (seen xs : List β) :
    descend before (f last) (seen.map f) (xs.map f) =
      ((descend (fun a b => before (f a) (f b)) last seen xs).1.map f,
        (descend (fun a b => before (f a) (f b)) last seen xs).2.map f) := by
  induction xs generalizing last seen with
  | nil => simp [descend]
  | cons x xs ih =>
    simp only [List.map_cons, descend]
    split
    · exact ih x (last :: seen)
    · simp

theorem orderedStartMap (xs : List β) :
    orderedStart before (xs.map f) =
      ((orderedStart (fun a b => before (f a) (f b)) xs).1.map f,
        (orderedStart (fun a b => before (f a) (f b)) xs).2.map f) := by
  match xs with
  | [] | [_] => rfl
  | x :: y :: rest =>
    simp only [List.map_cons, orderedStart]
    split
    · exact descendMap before f y [x] rest
    · have run := climbMap before f y [x] rest
      simp only [List.map_cons, List.map_nil] at run
      simp [run]

theorem slotMap (x : β) (ys : List β) (fuel low high : Nat) :
    slot before (f x) (ys.map f) fuel low high = slot (fun a b => before (f a) (f b)) x ys fuel low high := by
  induction fuel generalizing low high with
  | zero => rfl
  | succ fuel ih =>
    simp only [slot, List.getElem?_map]
    split
    · cases ys[low + (high - low) / 2]? with
      | none => rfl
      | some y => simp [ih]
    · rfl

theorem insertMap (ys : List β) (x : β) :
    insert before (ys.map f) (f x) = (insert (fun a b => before (f a) (f b)) ys x).map f := by
  simp [insert, slotMap, List.map_take, List.map_drop]

theorem sortMap (xs : List β) :
    sort before (xs.map f) = (sort (fun a b => before (f a) (f b)) xs).map f := by
  have inserted : ∀ ys rest : List β, (rest.map f).foldl (insert before) (ys.map f) =
      (rest.foldl (insert fun a b => before (f a) (f b)) ys).map f := by
    intro ys rest
    induction rest generalizing ys with
    | nil => rfl
    | cons x rest ih => simp [insertMap, ih]
  simp only [sort, orderedStartMap]
  exact inserted _ _

end Map

/-! Items that are in an order of their own. -/

theorem sortCongr {before before' : α → α → Bool} {xs : List α}
    (same : ∀ a ∈ xs, ∀ b ∈ xs, before a b = before' a b) : sort before xs = sort before' xs := by
  have alike : (fun a b : {x // x ∈ xs} => before a.1 b.1) = fun a b => before' a.1 b.1 :=
    funext fun a => funext fun b => same a.1 a.2 b.1 b.2
  have first := sortMap before Subtype.val xs.attach
  have second := sortMap before' Subtype.val xs.attach
  rw [List.attach_map_subtype_val] at first second
  rw [first, second, alike]

section Ordered

variable [LinearOrder α]

def rank (xs : List α) (x : α) : Int := (xs.countP fun y => decide (y < x) : Nat)

theorem rankRises (xs : List α) {a b : α} (below : a ≤ b) : rank xs a ≤ rank xs b := by
  refine Int.ofNat_le.mpr (List.countP_mono_left fun y _ less => ?_)
  simpa using lt_of_lt_of_le (of_decide_eq_true less) below

theorem rankLess {xs : List α} {a b : α} (mem : a ∈ xs) : rank xs a < rank xs b ↔ a < b := by
  refine ⟨fun less => not_le.mp fun above => absurd (rankRises xs above) (not_le.mpr less), fun less => ?_⟩
  obtain ⟨first, rest, rfl⟩ := List.append_of_mem mem
  have before := rankRises first less.le
  have behind := rankRises rest less.le
  simp only [rank, List.countP_append, List.countP_cons, lt_irrefl, less, decide_true, decide_false, if_true] at *
  simp only [Bool.false_eq_true, if_false]
  omega

theorem sortRises {before : α → α → Bool} (order : ∀ a b, before a b = true ↔ a < b) (xs : List α) :
    (sort before xs).Pairwise (· ≤ ·) := by
  have ranked : sort before xs = sort (less (rank xs)) xs :=
    sortCongr fun a mem b _ => Bool.eq_iff_iff.mpr ((order a b).trans ((rankLess mem).symm.trans decide_eq_true_iff.symm))
  rw [ranked]
  refine (sortStable (rank xs) xs).1.imp_of_mem fun {a b} _ second below => ?_
  exact not_lt.mp fun less => absurd ((rankLess ((sortPerm _ xs).mem_iff.mp second)).mpr less) (not_lt.mpr below)

end Ordered

end AccessFix.Sorting
