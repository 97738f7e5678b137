import AccessFix.Text.Utf8
import Mathlib

/-! What UTF-8 encodes, it decodes. An encoded character is read back by one step, by whichever of the four forms it has,
and the rest of its octets is passed over. -/
namespace AccessFix.Text.Utf8

theorem octetNat {n : Nat} (small : n < 256) : (octet n).toNat = n := by
  simp [octet, Nat.mod_eq_of_lt small]

theorem notAscii {n : Nat} (large : 0x80 ≤ n) (small : n < 256) : ¬octet n < 0x80 := by
  rw [UInt8.lt_iff_toNat_lt, octetNat small]
  simpa using large

theorem within {n : Nat} {lo hi : UInt8} (above : lo.toNat ≤ n) (below : n ≤ hi.toNat) :
    ¬(octet n < lo ∨ hi < octet n) := by
  have small : n < 256 := lt_of_le_of_lt below hi.toNat_lt
  rw [UInt8.lt_iff_toNat_lt, UInt8.lt_iff_toNat_lt, octetNat small]
  omega

theorem continues (n : Nat) : isContinuation (octet (0x80 + n % 64)) = true := by
  have inside := @within (0x80 + n % 64) 0x80 0xBF (by simp) (by simp; omega)
  simp only [not_or, UInt8.not_lt] at inside
  simp [isContinuation, inside]

theorem lowOctet (n : Nat) : low (octet (0x80 + n % 64)) = n % 64 := by
  rw [low, octetNat (by omega)]
  omega

/-! The first octet of a character. -/

theorem shapeTwo {n : Nat} (above : 0xC2 ≤ n) (below : n ≤ 0xDF) : shape? (octet n) = some (2, 0x80, 0xBF) := by
  simp only [shape?, UInt8.le_iff_toNat_le, octetNat (by omega : n < 256)]
  exact if_pos ⟨by simpa using above, by simpa using below⟩

theorem shapeThree {n : Nat} (above : 0xE0 ≤ n) (below : n ≤ 0xEF) :
    shape? (octet n) = some (3, if n = 0xE0 then 0xA0 else 0x80, if n = 0xED then 0x9F else 0xBF) := by
  simp only [shape?, UInt8.le_iff_toNat_le, ← UInt8.toNat_inj, octetNat (by omega : n < 256), UInt8.reduceToNat]
  split_ifs <;> first | rfl | omega

theorem shapeFour {n : Nat} (above : 0xF0 ≤ n) (below : n ≤ 0xF4) :
    shape? (octet n) = some (4, if n = 0xF0 then 0x90 else 0x80, if n = 0xF4 then 0x8F else 0xBF) := by
  simp only [shape?, UInt8.le_iff_toNat_le, ← UInt8.toNat_inj, octetNat (by omega : n < 256), UInt8.reduceToNat]
  split_ifs <;> first | rfl | omega

variable {n : Nat} (rest : List UInt8)

theorem stepOne (small : n < 0x80) : step (octet n) rest = .char (Char.ofNat n) 1 := by
  have ascii : octet n < 0x80 := by
    rw [UInt8.lt_iff_toNat_lt, octetNat (by omega)]
    simpa using small
  rw [step, if_pos ascii, octetNat (by omega)]

theorem stepTwo (above : 0x80 ≤ n) (below : n < 0x800) :
    step (octet (0xC0 + n / 64)) (octet (0x80 + n % 64) :: rest) = .char (Char.ofNat n) 2 := by
  have whole : (0xC0 + n / 64) % 32 * 64 + n % 64 = n := by omega
  have inside : ¬(octet (0x80 + n % 64) < 0x80 ∨ 0xBF < octet (0x80 + n % 64)) :=
    within (by simp) (by simp; omega)
  simp only [step, notAscii (by omega : 0x80 ≤ 0xC0 + n / 64) (by omega), shapeTwo (by omega : 0xC2 ≤ 0xC0 + n / 64)
    (by omega), inside, if_false, if_true, lowOctet, octetNat (by omega : 0xC0 + n / 64 < 256), whole]

theorem stepThree (above : 0x800 ≤ n) (below : n < 0x10000) (scalar : n.isValidChar) :
    step (octet (0xE0 + n / 4096)) (octet (0x80 + n / 64 % 64) :: octet (0x80 + n % 64) :: rest) =
      .char (Char.ofNat n) 3 := by
  have whole : ((0xE0 + n / 4096) % 16 * 64 + n / 64 % 64) * 64 + n % 64 = n := by omega
  have inside : ¬(octet (0x80 + n / 64 % 64) < (if 0xE0 + n / 4096 = 0xE0 then 0xA0 else 0x80) ∨
      (if 0xE0 + n / 4096 = 0xED then 0x9F else 0xBF) < octet (0x80 + n / 64 % 64)) := by
    simp only [Nat.isValidChar] at scalar
    apply within
    · split
      · simp only [UInt8.reduceToNat]
        omega
      · simp
    · split
      · simp only [UInt8.reduceToNat]
        omega
      · simp only [UInt8.reduceToNat]
        omega
  simp only [step, notAscii (by omega : 0x80 ≤ 0xE0 + n / 4096) (by omega), shapeThree (by omega : 0xE0 ≤ 0xE0 + n / 4096)
    (by omega), inside, if_false, if_true, lowOctet, octetNat (by omega : 0xE0 + n / 4096 < 256), whole, continues,
    Bool.not_true, Bool.false_eq_true, Nat.reduceEqDiff]

theorem stepFour (above : 0x10000 ≤ n) (scalar : n.isValidChar) :
    step (octet (0xF0 + n / 262144))
        (octet (0x80 + n / 4096 % 64) :: octet (0x80 + n / 64 % 64) :: octet (0x80 + n % 64) :: rest) =
      .char (Char.ofNat n) 4 := by
  simp only [Nat.isValidChar] at scalar
  have whole : (((0xF0 + n / 262144) % 8 * 64 + n / 4096 % 64) * 64 + n / 64 % 64) * 64 + n % 64 = n := by omega
  have inside : ¬(octet (0x80 + n / 4096 % 64) < (if 0xF0 + n / 262144 = 0xF0 then 0x90 else 0x80) ∨
      (if 0xF0 + n / 262144 = 0xF4 then 0x8F else 0xBF) < octet (0x80 + n / 4096 % 64)) := by
    apply within
    · split
      · simp only [UInt8.reduceToNat]
        omega
      · simp
    · split
      · simp only [UInt8.reduceToNat]
        omega
      · simp only [UInt8.reduceToNat]
        omega
  simp only [step, notAscii (by omega : 0x80 ≤ 0xF0 + n / 262144) (by omega), shapeFour (by omega : 0xF0 ≤ 0xF0 + n / 262144)
    (by omega), inside, if_false, lowOctet, octetNat (by omega : 0xF0 + n / 262144 < 256), whole, continues,
    Bool.not_true, Bool.false_eq_true, Nat.reduceEqDiff]

theorem stepEncoded (c : Char) :
    ∃ b more, encodeChar c = b :: more ∧ step b (more ++ rest) = .char c (more.length + 1) := by
  have same : Char.ofNat c.toNat = c := Char.ofNat_toNat c
  have scalar : c.toNat.isValidChar := c.valid
  simp only [encodeChar]
  split
  · rename_i small
    exact ⟨_, _, rfl, by rw [stepOne _ small, same]; rfl⟩
  · split
    · rename_i above below
      exact ⟨_, _, rfl, by simpa [same] using stepTwo rest (by omega) below⟩
    · split
      · rename_i above below
        exact ⟨_, _, rfl, by simpa [same] using stepThree rest (by omega) below scalar⟩
      · exact ⟨_, _, rfl, by simpa [same] using stepFour rest (by omega) scalar⟩

theorem decodeSkip (position : Nat) (acc : List Char) (more : List UInt8) :
    decodeFrom position more.length acc (more ++ rest) = decodeFrom (position + more.length) 0 acc rest := by
  induction more generalizing position with
  | nil => rfl
  | cons b more ih =>
    rw [List.cons_append, List.length_cons, decodeFrom, ih, Nat.add_right_comm, Nat.add_assoc]

theorem decodeEncodedFrom (position : Nat) (acc cs : List Char) :
    decodeFrom position 0 acc (encode cs) = .ok (acc.reverse ++ cs) := by
  induction cs generalizing position acc with
  | nil => simp [encode, decodeFrom]
  | cons c cs ih =>
    obtain ⟨b, more, encoded, read⟩ := stepEncoded (encode cs) c
    have split : encode (c :: cs) = b :: (more ++ encode cs) := by
      rw [encode, List.flatMap_cons, encoded]
      rfl
    rw [split]
    simp only [decodeFrom, read, Nat.add_sub_cancel]
    rw [decodeSkip, ih]
    simp

theorem decodeEncode (cs : List Char) : decode (encode cs) = .ok cs := decodeEncodedFrom 0 [] cs

end AccessFix.Text.Utf8
