import AccessFix.Json
import AccessFix.Proofs.Number

/-! Values as keys. Two keys are the same if they are of one class, so being the same is an equivalence. What is no number is
of the class of its mark; every other number is of that of its exact value, and so are the two truth values. -/
namespace AccessFix

inductive Number.Class where
  | marked (mark : Nat)
  | valued (value : Extended)
  deriving DecidableEq

namespace Number
open Extended

def toClass : Number → Class
  | .int n => .valued (ofRat n)
  | .real (.nan mark) => .marked mark
  | .real (.infinite negative) => .valued (if negative then ⊥ else greatest)
  | .real (.finite negative significand exponent) =>
    .valued (ofRat ((if negative then -1 else 1) * (significand * 2 ^ exponent)))

theorem valueClass {n : Number} {v : Extended} : n.value? = some v ↔ n.toClass = .valued v := by
  cases n with
  | int k => simp [value?, toClass]
  | real x => cases x <;> simp [value?, Double.value?, toClass]

theorem sameClass {a b : Number} : a.same b = true ↔ ∃ v, a.toClass = .valued v ∧ b.toClass = .valued v := by
  simp only [← valueClass, same, orderValue, decide_eq_true_eq]
  cases a.value? with
  | none => simp
  | some u =>
    cases b.value? with
    | none => simp
    | some v =>
      simp only [Option.map₂_some_some, Option.some.injEq, compare_eq_iff_eq]
      exact ⟨fun same => ⟨u, rfl, same.symm⟩, fun ⟨w, left, right⟩ => left.trans right.symm⟩

theorem unmarked {n : Number} (regular : ∀ mark, n ≠ .real (.nan mark)) : ∃ v, n.toClass = .valued v := by
  cases n with
  | int k => exact ⟨_, rfl⟩
  | real x =>
    cases x with
    | nan mark => exact absurd rfl (regular mark)
    | infinite negative => exact ⟨_, rfl⟩
    | finite negative significand exponent => exact ⟨_, rfl⟩

theorem sameKeyClass {a b : Number} : a.sameKey b = true ↔ a.toClass = b.toClass := by
  unfold sameKey
  split
  · simp [toClass]
  · rename_i distinct
    rw [sameClass]
    constructor
    · rintro ⟨v, left, right⟩
      rw [left, right]
    · intro classes
      by_cases regular : ∀ mark, a ≠ .real (.nan mark)
      · obtain ⟨v, valued⟩ := unmarked regular
        exact ⟨v, valued, classes ▸ valued⟩
      · obtain ⟨mark, rfl⟩ : ∃ mark, a = .real (.nan mark) := by simpa using regular
        have other : ∀ mark', b ≠ .real (.nan mark') := fun mark' same => distinct mark mark' rfl same
        obtain ⟨v, valued⟩ := unmarked other
        rw [valued] at classes
        cases classes

end Number

inductive Json.Class where
  | null
  | text (s : Letters)
  | number (c : Number.Class)
  deriving DecidableEq

namespace Json

def toClass? : Json → Option Class
  | .null => some .null
  | .bool b => some (.number (Number.int (if b then 1 else 0)).toClass)
  | .number n => some (.number n.toClass)
  | .string s => some (.text s)
  | .array _ | .object _ => none

theorem boolClass {b : Bool} {n : Number} :
    (Number.int (if b then 1 else 0)).same n = true ↔ (Number.int (if b then 1 else 0)).toClass = n.toClass := by
  rw [Number.sameClass]
  constructor
  · rintro ⟨v, left, right⟩
    rw [left, right]
  · intro classes
    exact ⟨_, rfl, classes.symm⟩

theorem sameKeyClass {a b : Json} (key : a.isKey = true) : a.sameKey b = true ↔ a.toClass? = b.toClass? := by
  cases a with
  | null => cases b <;> simp [sameKey, toClass?]
  | bool x =>
    cases b with
    | bool y => cases x <;> cases y <;> simp [sameKey, toClass?, Number.toClass, Extended.ofRat]
    | number n => simp [sameKey, toClass?, boolClass]
    | _ => simp [sameKey, toClass?]
  | number m =>
    cases b with
    | bool y =>
      simp only [sameKey, toClass?, boolClass, Option.some.injEq, Class.number.injEq]
      exact eq_comm
    | number n => simp [sameKey, toClass?, Number.sameKeyClass]
    | _ => simp [sameKey, toClass?]
  | string s => cases b <;> simp [sameKey, toClass?]
  | array items => cases key
  | object members => cases key

theorem classKey (v : Json) : v.toClass?.isSome = v.isKey := by cases v <;> rfl

theorem classSame {a b : Json} (same : a.sameKey b = true) : a.toClass? = b.toClass? := by
  cases key : a.isKey with
  | true => exact (sameKeyClass key).mp same
  | false =>
    cases a with
    | array items => cases b <;> first | rfl | cases same
    | object members => cases b <;> first | rfl | cases same
    | _ => cases key

theorem sameKeyClassRight {a b : Json} (key : b.isKey = true) : a.sameKey b = true ↔ a.toClass? = b.toClass? := by
  refine ⟨classSame, fun classes => ?_⟩
  have key' : a.isKey = true := by rw [← classKey, classes, classKey, key]
  exact (sameKeyClass key').mpr classes

theorem sameKeySelf {v : Json} (key : v.isKey = true) : v.sameKey v = true := (sameKeyClass key).mpr rfl

theorem sameKeyText {v : Json} {s : Letters} : v.sameKey (.string s) = true ↔ v = .string s := by
  cases v <;> simp [sameKey]

theorem sameKeyAlike {a b p : Json} (key : p.isKey = true) (same : a.sameKey b = true) : a.sameKey p = b.sameKey p := by
  rw [Bool.eq_iff_iff, sameKeyClassRight key, sameKeyClassRight key, classSame same]

theorem sameKeyMeet {a b p : Json} (key : p.isKey = true) (left : a.sameKey p = true) (right : b.sameKey p = true) :
    a.sameKey b = true := by
  have classes := (sameKeyClassRight key).mp left
  have key' : a.isKey = true := by rw [← classKey, classes, classKey, key]
  exact (sameKeyClass key').mpr (classes.trans ((sameKeyClassRight key).mp right).symm)

end Json

end AccessFix
