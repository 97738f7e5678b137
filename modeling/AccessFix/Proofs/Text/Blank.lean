import AccessFix.Proofs.Fallible
import AccessFix.Proofs.Letter
import AccessFix.Value

/-! Blank texts, which trimming leaves nothing of. Only a text is shown as one: whatever else is present in settings shows a
character that is not blank. -/
namespace AccessFix

namespace Text

def Blank (s : Letters) : Prop := ∀ c ∈ s, isBlank c = true

instance (s : Letters) : Decidable (Blank s) := decidable_of_iff (s.all isBlank = true) List.all_eq_true

variable {s t : Letters}

theorem blankAppend : Blank (s ++ t) ↔ Blank s ∧ Blank t := by simp [Blank, or_imp, forall_and]

theorem inkedStart {c : Letter} (rest : Letters) (ink : isBlank c = false) : ¬Blank (c :: rest) := by
  intro blank
  have first := blank c (by simp)
  rw [ink] at first
  cases first

theorem trimBlank : trim s = [] ↔ Blank s := by
  rw [trim, trimRight, List.reverse_eq_nil_iff, List.dropWhile_eq_nil_iff, trimLeft]
  simp only [List.mem_reverse]
  constructor
  · intro all
    cases left : s.dropWhile isBlank with
    | nil => exact List.dropWhile_eq_nil_iff.mp left
    | cons c rest =>
      have ink : isBlank c = false := by
        have first := List.head?_dropWhile_not isBlank s
        simpa [left] using first
      have blank := all c (by simp [left])
      rw [ink] at blank
      cases blank
  · intro blank c mem
    rw [List.dropWhile_eq_nil_iff.mpr blank] at mem
    simp at mem

end Text

open Text (Blank blankAppend)

/-! Texts of numbers and dates. -/

theorem digitInked {c : Char} (digit : c.isDigit = true) : Text.isBlank c = false := by
  have same : (Letter.char c).code = c.toNat := rfl
  have range : 48 ≤ c.toNat ∧ c.toNat ≤ 57 := by simpa [Char.isDigit, UInt32.le_iff_toNat_le] using digit
  simp only [Text.isBlank, Bool.or_eq_false_iff, Bool.and_eq_false_iff, decide_eq_false_iff_not, beq_eq_false_iff_ne]
  omega

theorem natInked (n : Nat) : ¬Blank (toString n) := by
  intro blank
  obtain ⟨c, mem⟩ := List.exists_mem_of_ne_nil _ (Nat.toDigits_ne_nil (n := n) (b := 10))
  have white := blank c (Letters.charMem.mpr (by simpa [toString] using mem))
  rw [digitInked (Nat.isDigit_of_mem_toDigits (by decide) (by decide) mem)] at white
  cases white

theorem intInked (n : Int) : ¬Blank (toString n) := by
  cases n with
  | ofNat n => exact natInked n
  | negSucc n =>
    change ¬Blank (letters ("-" ++ toString (n + 1)))
    rw [lettersAppend]
    exact fun blank => natInked _ (blankAppend.mp blank).2

theorem styleInked (style : Double.Style) (digits : Nat) (e : Int) : ¬Blank (style.write digits e) := by
  have point : ¬Blank "." := by decide
  have fraction : ¬Blank ".0" := by decide
  have whole : ¬Blank "0." := by decide
  have exponent : ¬Blank "e" := by decide
  simp only [Double.Style.write]
  split
  · split
    · simp only [lettersAppend, blankAppend, fraction, and_false, not_false_eq_true]
    · split <;> simp only [lettersAppend, blankAppend, point, whole, and_false, false_and, not_false_eq_true]
  · simp only [lettersAppend, blankAppend, exponent, and_false, false_and, not_false_eq_true]

theorem doubleInked (x : Double) : ¬Blank x.text := by
  cases x with
  | nan _ =>
    change ¬Blank "nan"
    decide +kernel
  | infinite negative => cases negative <;> simp only [Double.text] <;> decide +kernel
  | finite negative m e =>
    have zero : ¬Blank "0.0" := by decide
    simp only [Double.text]
    split <;> simp only [lettersAppend, blankAppend, zero, styleInked, and_false, not_false_eq_true]

theorem dateInked (d : Date) : ¬Blank d.text := by
  have dash : ¬Blank "-" := by decide
  simp only [Date.text, lettersAppend, blankAppend, dash, and_false, false_and, not_false_eq_true]

variable {heap : Heap} {v : Value} {s : String}

theorem octetsInked (bs : List UInt8) : ¬Blank (Text.quotedOctets bs) := by
  rw [Text.quotedOctets, lettersOf]
  exact Text.inkedStart (c := 'b') _ (by decide)

theorem cutOffInked (c : Collection) : ¬Blank c.cutOff := by
  cases c <;> simp only [Collection.cutOff] <;> decide +kernel

theorem contentsInked {depth : Nat} {outer : List Nat} {id : Nat} (shown : heap.literal depth outer (.collection id) = .ok s) :
    ¬Blank s := by
  have list : ¬Blank "[" := by decide
  have pair : ¬Blank "(" := by decide
  have map : ¬Blank "\x7b" := by decide
  have none : ¬Blank "set()" := by decide
  cases depth with
  | zero => cases shown
  | succ depth =>
    simp only [Heap.literal] at shown
    split at shown
    · cases shown
      exact cutOffInked _
    · split at shown
      · obtain ⟨items, _, rfl⟩ := Fallible.mapOk.mp shown
        simp only [Text.Literal.list, lettersAppend, blankAppend, list, false_and, not_false_eq_true]
      · obtain ⟨first, _, shown⟩ := Fallible.bindOk.mp shown
        obtain ⟨second, _, shown⟩ := Fallible.bindOk.mp shown
        obtain rfl := Fallible.pureOk.mp shown
        simp only [Text.Literal.pair, lettersAppend, blankAppend, pair, false_and, not_false_eq_true]
      · obtain ⟨entries, _, rfl⟩ := Fallible.mapOk.mp shown
        simp only [Text.Literal.map, lettersAppend, blankAppend, map, false_and, not_false_eq_true]
      · obtain ⟨items, _, rfl⟩ := Fallible.mapOk.mp shown
        unfold Text.Literal.set
        split
        · exact none
        · simp only [lettersAppend, blankAppend, map, false_and, not_false_eq_true]

theorem numberInked {depth : Nat} {outer : List Nat} {n : Number} (shown : heap.literal depth outer (.number n) = .ok s) :
    ¬Blank s := by
  cases depth with
  | zero => cases shown
  | succ depth =>
    cases n with
    | int n =>
      simp only [Heap.literal] at shown
      split at shown <;> cases shown
      exact intInked n
    | real x =>
      cases shown
      exact doubleInked x

theorem textInked {t : Letters} (present : heap.isPresent v = true) (shown : heap.text v = .ok t) (blank : Blank t) :
    v = .string t := by
  have literal (v : Value) (inked : ∀ {s : String}, heap.literal Heap.nestingLimit [] v = .ok s → ¬Blank s)
      (shown : (heap.literal Heap.nestingLimit [] v).map letters = .ok t) : False := by
    obtain ⟨s, given, rfl⟩ := Fallible.mapOk.mp shown
    exact inked given blank
  cases v with
  | null => cases present
  | bool b =>
    cases b with
    | false => cases present
    | true =>
      have same : letters "True" = t := Except.ok.inj shown
      exact absurd (same ▸ blank) (by decide)
  | number n => exact (literal _ numberInked shown).elim
  | string t => exact congrArg Value.string (Except.ok.inj shown)
  | octets bs => exact absurd (Except.ok.inj shown ▸ blank) (octetsInked bs)
  | date d => exact absurd (Except.ok.inj shown ▸ blank) (dateInked d)
  | dateTime t =>
    have white : Blank (letters (t.text " ")) := Except.ok.inj shown ▸ blank
    simp only [DateTime.text, lettersAppend, blankAppend, dateInked, false_and] at white
  | collection id => exact (literal _ contentsInked shown).elim

end AccessFix
