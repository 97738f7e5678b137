import AccessFix.Number
import Mathlib

/-! Numbers by their exact values, which the order of numbers is that of. What is no number has no value and is in no order.
An integer has no nearest binary64 number if it lies far enough beyond all of them. -/
namespace AccessFix

abbrev Extended := WithBot (WithTop ℚ)

namespace Extended

def ofRat (q : ℚ) : Extended := ((q : WithTop ℚ) : WithBot (WithTop ℚ))

def greatest : Extended := ((⊤ : WithTop ℚ) : WithBot (WithTop ℚ))

theorem ofRatLess {q r : ℚ} : ofRat q < ofRat r ↔ q < r := by simp [ofRat]

theorem leastLess (q : ℚ) : ⊥ < ofRat q := WithBot.bot_lt_coe _

theorem lessGreatest (q : ℚ) : ofRat q < greatest := WithBot.coe_lt_coe.mpr (WithTop.coe_lt_top q)

theorem leastGreatest : ⊥ < greatest := WithBot.bot_lt_coe _

theorem compareOfRat (q r : ℚ) : compare (ofRat q) (ofRat r) = compare q r := by
  rcases lt_trichotomy q r with before | rfl | behind
  · rw [compare_lt_iff_lt.mpr before, compare_lt_iff_lt.mpr (ofRatLess.mpr before)]
  · rw [compare_eq_iff_eq.mpr rfl, compare_eq_iff_eq.mpr rfl]
  · rw [compare_gt_iff_gt.mpr behind, compare_gt_iff_gt.mpr (ofRatLess.mpr behind)]

end Extended

namespace Double
open Extended

def value? : Double → Option Extended
  | .nan _ => none
  | .infinite negative => some (if negative then ⊥ else greatest)
  | .finite negative significand exponent => some (ofRat ((if negative then -1 else 1) * (significand * 2 ^ exponent)))

theorem powerRatioValue (b : Nat) (e : Int) : ((powerRatio b e).1 : ℚ) / (powerRatio b e).2 = (b : ℚ) ^ e := by
  unfold powerRatio
  split
  · rename_i positive
    obtain ⟨n, rfl⟩ := Int.eq_ofNat_of_zero_le positive
    simp [Nat.pow_eq]
  · rename_i negative
    obtain ⟨n, rfl⟩ : ∃ n : Nat, e = -n := ⟨(-e).toNat, by omega⟩
    simp [Nat.pow_eq]

theorem ratioValue (negative : Bool) (m : Nat) (e : Int) :
    ((ratio negative m e).1 : ℚ) / (ratio negative m e).2 = (if negative then -1 else 1) * (m * 2 ^ e) := by
  have power := powerRatioValue 2 e
  rw [Nat.cast_ofNat] at power
  simp only [ratio, magnitude]
  rw [← power]
  cases negative <;> simp <;> ring

theorem ratioPositive (negative : Bool) (m : Nat) (e : Int) : 0 < (ratio negative m e).2 := by
  simp only [ratio, magnitude, powerRatio]
  split
  · exact Nat.one_pos
  · exact Nat.pow_pos (by norm_num)

theorem compareRatiosValue {a c : Int} {b d : Nat} (left : 0 < b) (right : 0 < d) :
    compareRatios a b c d = compare ((a : ℚ) / b) ((c : ℚ) / d) := by
  have less {a c : Int} {b d : Nat} (left : 0 < b) (right : 0 < d) : (a : ℚ) / b < c / d ↔ a * d < c * b := by
    rw [div_lt_div_iff₀ (by exact_mod_cast left) (by exact_mod_cast right)]
    exact_mod_cast Iff.rfl
  rw [compareRatios]
  rcases lt_trichotomy (a * d) (c * b) with before | same | behind
  · rw [compare_lt_iff_lt.mpr before, compare_lt_iff_lt.mpr ((less left right).mpr before)]
  · have equal : (a : ℚ) / b = c / d :=
      (div_eq_div_iff (by positivity) (by positivity)).mpr (by exact_mod_cast same)
    rw [compare_eq_iff_eq.mpr same, compare_eq_iff_eq.mpr equal]
  · rw [compare_gt_iff_gt.mpr behind, compare_gt_iff_gt.mpr ((less right left).mpr behind)]

theorem orderIntValue (x : Double) (k : Int) : x.orderInt? k = x.value?.map (compare · (ofRat k)) := by
  cases x with
  | nan mark => rfl
  | infinite negative =>
    cases negative with
    | true => exact congrArg some (compare_lt_iff_lt.mpr (leastLess k)).symm
    | false => exact congrArg some (compare_gt_iff_gt.mpr (lessGreatest k)).symm
  | finite negative m e =>
    simp only [orderInt?, value?, Option.map_some, Option.some.injEq]
    rw [compareOfRat, compareRatiosValue (ratioPositive negative m e) Nat.one_pos, ratioValue, Nat.cast_one, div_one]

theorem orderValue (x y : Double) : x.order? y = Option.map₂ compare x.value? y.value? := by
  cases x with
  | nan mark => cases y <;> rfl
  | infinite s =>
    cases y with
    | nan mark => cases s <;> rfl
    | infinite t =>
      cases s <;> cases t
      · exact congrArg some (compare_eq_iff_eq.mpr rfl).symm
      · exact congrArg some (compare_gt_iff_gt.mpr leastGreatest).symm
      · exact congrArg some (compare_lt_iff_lt.mpr leastGreatest).symm
      · exact congrArg some (compare_eq_iff_eq.mpr rfl).symm
    | finite t n f =>
      cases s with
      | true => exact congrArg some (compare_lt_iff_lt.mpr (leastLess _)).symm
      | false => exact congrArg some (compare_gt_iff_gt.mpr (lessGreatest _)).symm
  | finite s m e =>
    cases y with
    | nan mark => rfl
    | infinite t =>
      cases t with
      | true => exact congrArg some (compare_gt_iff_gt.mpr (leastLess _)).symm
      | false => exact congrArg some (compare_lt_iff_lt.mpr (lessGreatest _)).symm
    | finite t n f =>
      simp only [order?, value?, Option.map₂_some_some, Option.some.injEq]
      rw [compareOfRat, compareRatiosValue (ratioPositive s m e) (ratioPositive t n f), ratioValue, ratioValue]

/-! Integers as binary64 numbers. -/

theorem floorLog2Whole {n : Nat} (nonzero : n ≠ 0) : floorLog2 n 1 = Nat.log2 n := by
  have below : Nat.pow 2 (Nat.log2 n) ≤ n := Nat.log2_self_le nonzero
  have one : Nat.log2 1 = 0 := by decide
  simp only [floorLog2, one, Int.natCast_zero, sub_zero, powerRatio, Int.natCast_nonneg, if_true, Int.toNat_natCast, mul_one,
    below]

theorem nearestNatFull {n half : Nat} (positive : 0 < half) (short : n < 2 ^ 54 * half) :
    nearestNat n (2 * half) = 2 ^ 53 ↔ (2 ^ 54 - 1) * half ≤ n := by
  have parts := Nat.div_add_mod n (2 * half)
  have rest := Nat.mod_lt n (y := 2 * half) (by omega)
  have below : n / (2 * half) < 2 ^ 53 := (Nat.div_lt_iff_lt_mul (by omega)).mpr (by omega)
  have last : n / (2 * half) = 2 ^ 53 - 1 ∨ n / (2 * half) + 2 ≤ 2 ^ 53 := by omega
  unfold nearestNat
  generalize n % (2 * half) = r at *
  generalize n / (2 * half) = q at *
  rcases last with rfl | earlier
  · by_cases less : 2 * r < 2 * half
    · simp only [if_pos less]
      omega
    · by_cases more : 2 * half < 2 * r
      · simp only [if_neg less, if_pos more]
        omega
      · -- a tie goes to the even one of the two, which is the next
        have odd : ¬(2 ^ 53 - 1) % 2 = 0 := by decide
        simp only [if_neg less, if_neg more, if_neg odd]
        omega
  · have units : 2 * half * (q + 2) ≤ 2 * half * 2 ^ 53 := Nat.mul_le_mul_left _ earlier
    rw [Nat.mul_add] at units
    simp only
    split
    · omega
    · split
      · omega
      · split <;> omega

theorem ofRatioInfinite {negative : Bool} {num den : Nat} (proper : ¬(num = 0 ∨ den = 0)) {e : Int}
    (exponent : max (floorLog2 num den - 52) leastExponent = e) :
    (∃ s, ofRatio negative num den = .infinite s) ↔ greatestExponent < e ∨
      e = greatestExponent ∧ nearestNat (num * (powerRatio 2 e).2) (den * (powerRatio 2 e).1) = 2 * leastNormal := by
  simp only [ofRatio, proper, if_false, exponent]
  generalize nearestNat (num * (powerRatio 2 e).2) (den * (powerRatio 2 e).1) = m
  by_cases full : m = 2 * leastNormal
  · by_cases beyond : greatestExponent < e + 1
    · simp [full, beyond]
      omega
    · simp [full, beyond]
      omega
  · by_cases beyond : greatestExponent < e
    · simp [full, beyond]
    · simp [full, beyond]

theorem powerRatioWhole (b n : Nat) : powerRatio b n = (b ^ n, 1) := by
  simp [powerRatio, Nat.pow_eq]

def Exceeded (n : Int) : Prop := (2 ^ 54 - 1) * 2 ^ 970 ≤ n.natAbs

theorem ofIntNone {n : Int} : ofInt? n = none ↔ Exceeded n := by
  have infinite : ofInt? n = none ↔ ∃ s, ofRatio (decide (n < 0)) n.natAbs 1 = .infinite s := by
    unfold ofInt?
    split
    · rename_i s same
      simp [same]
    · rename_i other
      simpa using other
  rw [infinite]
  unfold Exceeded
  generalize decide (n < 0) = negative
  generalize n.natAbs = n
  have positive : 0 < (2 : Nat) ^ 970 := by positivity
  by_cases none : n = 0
  · subst none
    exact iff_of_false (by simp [ofRatio]) (Nat.not_le.mpr (Nat.mul_pos (by decide) positive))
  have least : 2 ^ Nat.log2 n ≤ n := Nat.log2_self_le none
  have most : n < 2 ^ (Nat.log2 n + 1) := Nat.lt_log2_self
  rw [ofRatioInfinite (by simpa using none) rfl, floorLog2Whole none]
  simp only [greatestExponent, leastExponent]
  rcases lt_trichotomy (Nat.log2 n) 1023 with small | middle | large
  · have few : n < 2 ^ (53 + 970) := most.trans_le (pow_le_pow_right₀ (by decide) (by omega))
    rw [pow_add] at few
    generalize (2 : Nat) ^ 970 = half at *
    omega
  · have exponent : max ((Nat.log2 n : Int) - 52) (-1074) = (970 + 1 : Nat) := by omega
    have full : 2 * leastNormal = 2 ^ 53 := rfl
    have digits : Nat.log2 n + 1 = 54 + 970 := by rw [middle]
    have short : n < 2 ^ (54 + 970) := digits ▸ most
    rw [pow_add] at short
    rw [exponent, powerRatioWhole, pow_succ', mul_one, one_mul, full, nearestNatFull positive short]
    generalize (2 : Nat) ^ 970 = half
    omega
  · have many : 2 ^ (54 + 970) ≤ n := (pow_le_pow_right₀ (by decide) (by omega)).trans least
    rw [pow_add] at many
    generalize (2 : Nat) ^ 970 = half at *
    omega

end Double

namespace Number
open Extended

def value? : Number → Option Extended
  | .int n => some (ofRat n)
  | .real x => x.value?

theorem orderValue (a b : Number) : a.order? b = Option.map₂ compare a.value? b.value? := by
  cases a with
  | int m =>
    cases b with
    | int n =>
      simp only [order?, value?, Option.map₂_some_some, compareOfRat, Option.some.injEq]
      rcases lt_trichotomy m n with before | rfl | behind
      · rw [compare_lt_iff_lt.mpr before, compare_lt_iff_lt.mpr (by exact_mod_cast before)]
      · rw [compare_eq_iff_eq.mpr rfl, compare_eq_iff_eq.mpr rfl]
      · rw [compare_gt_iff_gt.mpr behind, compare_gt_iff_gt.mpr (by exact_mod_cast behind)]
    | real y =>
      simp only [order?, value?, Double.orderIntValue, Option.map_map, Option.map₂_coe_left]
      congr 1
      funext v
      exact Std.OrientedCmp.eq_swap.symm
  | real x =>
    cases b with
    | int n => simp [order?, value?, Double.orderIntValue]
    | real y => exact Double.orderValue x y

theorem atMostValue {a b : Number} :
    a.atMost b = true ↔ ∃ u v, a.value? = some u ∧ b.value? = some v ∧ u ≤ v := by
  simp only [atMost, orderValue, Bool.or_eq_true, decide_eq_true_eq]
  cases a.value? with
  | none => simp
  | some u =>
    cases b.value? with
    | none => simp
    | some v => simp [compare_lt_iff_lt, le_iff_lt_or_eq]

end Number

end AccessFix
