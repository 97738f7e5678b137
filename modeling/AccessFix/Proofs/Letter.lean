import AccessFix.Letter
import Mathlib

/-! Texts of characters alone, which are the texts without surrogates. -/
namespace AccessFix

namespace Letter

@[simp] theorem charCode (c : Char) : (char c).code = c.toNat := by simp only [code]

@[simp] theorem charLe {c d : Char} : char c ≤ char d ↔ c ≤ d := Iff.rfl

theorem scalar (c : Char) : c.toNat < 0xD800 ∨ 0xDFFF < c.toNat ∧ c.toNat < 0x110000 := c.valid

theorem ofCodeOf (d : Letter) : ofCode d.code = d := by
  cases d with
  | char c =>
    have other : ¬(0xD800 ≤ c.toNat ∧ c.toNat < 0xE000) := by
      rcases scalar c with below | above <;> omega
    rw [charCode, ofCode, dif_neg other, Char.ofNat_toNat]
  | surrogate i =>
    have inside : 0xD800 ≤ (surrogate i).code ∧ (surrogate i).code < 0xE000 := by
      simp only [code]
      omega
    rw [ofCode, dif_pos inside]
    simp [code]

theorem codeInjective : Function.Injective code := fun a b same => by rw [← ofCodeOf a, same, ofCodeOf]

instance : LinearOrder Letter where
  le_refl a := le_refl a.code
  le_trans _ _ _ := Nat.le_trans
  lt_iff_le_not_ge a b := Nat.lt_iff_le_and_not_ge (m := a.code) (n := b.code)
  le_antisymm _ _ before after := codeInjective (Nat.le_antisymm before after)
  le_total a b := Nat.le_total a.code b.code
  toDecidableLE := inferInstance
  toDecidableEq := inferInstance

theorem ofCodeChar (c : Char) : ofCode c.toNat = char c := ofCodeOf (char c)

end Letter

namespace Letters

@[simp] theorem ofCharsNil : ofChars [] = [] := rfl

@[simp] theorem ofCharsCons (c : Char) (t : List Char) : ofChars (c :: t) = .char c :: ofChars t := rfl

@[simp] theorem ofCharsAppend (t u : List Char) : ofChars (t ++ u) = ofChars t ++ ofChars u := List.map_append

@[simp] theorem ofCharsLength (t : List Char) : (ofChars t).length = t.length := List.length_map _

@[simp] theorem charMem {c : Char} : Letter.char c ∈ ofChars t ↔ c ∈ t := by simp [ofChars]

end Letters

@[simp] theorem lettersAppend (s t : String) : letters (s ++ t) = letters s ++ letters t := by simp [letters]

@[simp] theorem lettersInj {s t : String} : letters s = letters t ↔ s = t := by
  rw [letters, letters, ← String.toList_inj]
  exact List.map_inj_right fun _ _ => Letter.char.inj

@[simp] theorem lettersOf (t : List Char) : letters (String.ofList t) = .ofChars t := by simp [letters]

end AccessFix
