import AccessFix.Document
import AccessFix.Proofs.Fallible

/-! Where positions are in a document. A position whose line exists is read alike strictly and clamped, and what it
resolves to, if that is an integer at all, is a place between the characters of the text. -/
namespace AccessFix

theorem Number.lessInt (a b : Int) : (Number.int a).less (.int b) = decide (a < b) := by
  simp only [less, order?, Option.some.injEq]
  exact decide_eq_decide.mpr compare_lt_iff_lt

theorem Number.atMostInt (a b : Int) : (Number.int a).atMost (.int b) = decide (a ≤ b) := by
  simp only [atMost, order?, Option.some.injEq]
  rw [← Bool.decide_or]
  exact decide_eq_decide.mpr (by rw [compare_lt_iff_lt, compare_eq_iff_eq, le_iff_lt_or_eq])

theorem Number.sameKeyInt (a b : Int) : (Number.int a).sameKey (.int b) = decide (a = b) := by
  simp [sameKey, same, order?]

theorem Number.leastInt (a b : Int) : (Number.int a).least (.int b) = .int (min a b) := by
  simp only [least, lessInt, decide_eq_true_eq]
  split
  · rw [min_eq_right (by omega)]
  · rw [min_eq_left (by omega)]

theorem Number.forwardInt {n : Int} (forward : (Number.int n).less 0 = false) : 0 ≤ n :=
  not_lt.mp (of_decide_eq_false ((lessInt n 0).symm.trans forward))

theorem Position.atMostInts (line character line' character' : Int) :
    (ofInts line character).atMost (ofInts line' character') =
      decide (line < line' ∨ line = line' ∧ character ≤ character') := by
  simp only [ofInts, atMost, Number.sameKeyInt, Number.atMostInt, decide_eq_true_eq]
  split
  · rename_i sameLine
    split
    · rename_i sameCharacter
      exact (decide_eq_true (.inr ⟨sameLine, sameCharacter.le⟩)).symm
    · exact decide_eq_decide.mpr (by omega)
  · exact decide_eq_decide.mpr (by omega)

def Position.Whole (p : Position) : Prop := ∃ line character : Int, p = .ofInts line character

def Position.Negative (p : Position) : Prop := p.line.less 0 = true ∨ p.character.less 0 = true

namespace Text

theorem linesFromFlatten (line cs : Letters) : (linesFrom line cs).flatten = line.reverse ++ cs := by
  fun_induction linesFrom line cs with
  | case1 line empty => simp_all
  | case2 line nonempty => simp
  | case3 line rest ih => simp [ih]
  | case4 line c rest _ ends ih => simp [ih]
  | case5 line c rest _ stays ih => simp [ih]

theorem linesFlatten (cs : Letters) : (lines cs).flatten = cs := linesFromFlatten [] cs

theorem trimNewlineLength (line : Letters) : (trimNewline line).length ≤ line.length := by
  simpa [trimNewline] using (List.dropWhile_sublist (l := line.reverse) _).length_le

theorem trimNewlinePrefix (line : Letters) : trimNewline line <+: line := by
  have suffix := List.reverse_prefix.mpr (List.dropWhile_suffix (l := line.reverse) fun c => c = '\n' || c = '\r')
  rwa [List.reverse_reverse] at suffix

end Text

namespace Document
open Fallible

theorem linesOfFlatten (text : Letters) : (linesOf text).flatten = text := by
  simp only [linesOf]
  split
  · simp [Text.linesFlatten]
  · split <;> simp [Text.linesFlatten]

theorem offsetAtOk {d : Document} {p : Position} {o : Number} : d.offsetAt p = .ok o ↔ d.place p = .ok (some o) := by
  simp only [offsetAt, bindOk]
  constructor
  · rintro ⟨placed, at_, ok⟩
    cases placed with
    | none => exact absurd ok throwOk
    | some found => rwa [← pureOk.mp ok]
  · intro at_
    exact ⟨some o, at_, rfl⟩

theorem clampedOffsetOk {d : Document} {p : Position} {o : Number} :
    d.clampedOffset p = .ok o ↔ ∃ placed, d.place p = .ok placed ∧ placed.getD (.int d.text.length) = o := by
  simp only [clampedOffset, bindOk, pureOk]

theorem clampedOfStrict {d : Document} {p : Position} {o : Number} (strict : d.offsetAt p = .ok o) :
    d.clampedOffset p = .ok o :=
  clampedOffsetOk.mpr ⟨some o, offsetAtOk.mp strict, rfl⟩

structure OnLine (d : Document) (p : Position) (line : Nat) : Prop where
  given : p.line = .int line
  inside : line < d.lines.length
  forward : p.character.less 0 = false

theorem placeSome {d : Document} {p : Position} {o : Number} (placed : d.place p = .ok (some o)) :
    ∃ line, OnLine d p line ∧ o = offsetIn d.lines line p.character := by
  simp only [place] at placed
  split at placed
  · contradiction
  · rename_i forward
    simp only [Bool.or_eq_true, not_or, Bool.not_eq_true] at forward
    split at placed
    · cases placed
    · rename_i before
      split at placed
      · contradiction
      · rename_i line given
        cases placed
        rw [given] at forward before
        have positive := Number.forwardInt forward.1
        have inside : ¬(d.lines.length : Int) ≤ line := by simpa [Number.atMostInt] using before
        exact ⟨line.toNat, ⟨by rw [given, Int.toNat_of_nonneg (by omega)], by omega, forward.2⟩, rfl⟩

theorem offsetInInt {lines : List Letters} {line : Nat} {character : Number} {n : Int}
    (forward : character.less 0 = false) (int : offsetIn lines line character = .int n) :
    ∃ column : Nat, column ≤ (Text.trimNewline (lines[line]?.getD [])).length ∧
      n = column + (lines.take line).flatten.length := by
  simp only [offsetIn] at int
  generalize Text.trimNewline (lines[line]?.getD []) = content at int ⊢
  cases character with
  | int c =>
    have positive := Number.forwardInt forward
    rw [Number.leastInt] at int
    simp only [Number.addInt, Number.int.injEq] at int
    exact ⟨(min c content.length).toNat, by omega, by omega⟩
  | real x =>
    simp only [Number.least] at int
    split at int
    · simp only [Number.addInt, Number.int.injEq] at int
      exact ⟨content.length, le_refl _, int.symm⟩
    · simp [Number.addInt] at int

theorem lineEndInside {d : Document} {line : Nat} (inside : line < d.lines.length) :
    (Text.trimNewline (d.lines[line]?.getD [])).length + (d.lines.take line).flatten.length ≤ d.text.length := by
  have upTo : (d.lines.take (line + 1)).flatten.length ≤ d.lines.flatten.length :=
    (List.Sublist.flatten (List.take_sublist _ _)).length_le
  rw [show d.lines.flatten = d.text from linesOfFlatten d.text, List.take_succ_eq_append_getElem inside] at upTo
  have content := Text.trimNewlineLength d.lines[line]
  simp only [List.flatten_append, List.length_append, List.flatten_singleton] at upTo
  simp only [List.getElem?_eq_getElem inside, Option.getD_some]
  omega

theorem offsetAtInside {d : Document} {p : Position} {n : Int} (strict : d.offsetAt p = .ok (.int n)) :
    ∃ k : Nat, n = k ∧ k ≤ d.text.length := by
  obtain ⟨line, on, int⟩ := placeSome (offsetAtOk.mp strict)
  obtain ⟨column, content, rfl⟩ := offsetInInt on.forward int.symm
  have inside := lineEndInside on.inside
  exact ⟨column + (d.lines.take line).flatten.length, by push_cast; rfl, by omega⟩

theorem offsetOnLine {d : Document} {p : Position} {o : Nat} (placed : d.offsetAt p = .ok (.int o)) :
    ∃ l column : Nat, p.line = .int l ∧ l < d.lines.length ∧ column ≤ (Text.trimNewline (d.lines[l]?.getD [])).length ∧
      o = column + (d.lines.take l).flatten.length := by
  obtain ⟨l, on, int⟩ := placeSome (offsetAtOk.mp placed)
  obtain ⟨column, content, whole⟩ := offsetInInt on.forward int.symm
  exact ⟨l, column, on.given, on.inside, content, by exact_mod_cast whole⟩

/-! Positions given by integers: a negative coordinate is refused, and nothing else keeps one from being counted. -/

theorem refusedInts (line character : Int) :
    ((Number.int line).less 0 || (Number.int character).less 0) = decide (line < 0 ∨ character < 0) := by
  rw [Bool.decide_or, ← Number.lessInt, ← Number.lessInt]
  rfl

theorem negativeInts {line character : Int} : (Position.ofInts line character).Negative ↔ line < 0 ∨ character < 0 := by
  rw [Position.Negative, ← Bool.or_eq_true, Position.ofInts, refusedInts, decide_eq_true_iff]

theorem placeNegative {d : Document} {line character : Int} (negative : line < 0 ∨ character < 0) :
    d.place (.ofInts line character) = .error (.negative (.ofInts line character) d.path) :=
  if_pos ((refusedInts line character).trans (decide_eq_true negative))

def lineStart (d : Document) (l : Nat) : Nat := (d.lines.take l).flatten.length

def lineWidth (d : Document) (l : Nat) : Nat := (Text.trimNewline (d.lines[l]?.getD [])).length

def spot (d : Document) (l column : Nat) : Nat := min column (d.lineWidth l) + d.lineStart l

theorem placeNat (d : Document) (line column : Nat) :
    d.place (.ofInts line column) = .ok (if line < d.lineCount then some (.int (d.spot line column)) else none) := by
  have forward : ¬((Number.int line).less 0 || (Number.int column).less 0) = true := by
    rw [refusedInts, decide_eq_true_iff]
    omega
  by_cases inside : line < d.lineCount
  · have before : ¬(Number.int d.lines.length).atMost (.int line) = true := by
      rw [Number.atMostInt, decide_eq_true_iff]
      simp only [lineCount] at inside
      omega
    have placed : d.place (.ofInts line column) = .ok (some (offsetIn d.lines line (.int column))) :=
      (if_neg forward).trans (if_neg before)
    rw [if_pos inside, placed, offsetIn, Number.leastInt]
    simp [Number.addInt, spot, lineWidth, lineStart]
  · have beyond : (Number.int d.lines.length).atMost (.int line) = true := by
      rw [Number.atMostInt, decide_eq_true_iff]
      simp only [lineCount] at inside
      omega
    rw [if_neg inside]
    exact (if_neg forward).trans (if_pos beyond)

theorem placeInts (d : Document) {line character : Int} (first : 0 ≤ line) (second : 0 ≤ character) :
    d.place (.ofInts line character) = .ok none ∨
      ∃ n : Int, d.place (.ofInts line character) = .ok (some (.int n)) := by
  obtain ⟨line, rfl⟩ := Int.eq_ofNat_of_zero_le first
  obtain ⟨column, rfl⟩ := Int.eq_ofNat_of_zero_le second
  rw [placeNat]
  split
  · exact .inr ⟨_, rfl⟩
  · exact .inl rfl

theorem clampedForward {d : Document} {line character : Int} {o : Number}
    (ok : d.clampedOffset (.ofInts line character) = .ok o) : 0 ≤ line ∧ 0 ≤ character := by
  obtain ⟨_, placed, _⟩ := clampedOffsetOk.mp ok
  by_contra negative
  rw [placeNegative (by omega)] at placed
  contradiction

theorem clampedInt (d : Document) {line character : Int} (first : 0 ≤ line) (second : 0 ≤ character) :
    ∃ n : Int, d.clampedOffset (.ofInts line character) = .ok (.int n) := by
  rcases placeInts d first second with beyond | ⟨n, inside⟩
  · exact ⟨d.text.length, clampedOffsetOk.mpr ⟨none, beyond, rfl⟩⟩
  · exact ⟨n, clampedOffsetOk.mpr ⟨_, inside, rfl⟩⟩

theorem readInts {d : Document} {line character line' character' : Int} :
    (∃ snippet, d.read ⟨.ofInts line character, .ofInts line' character'⟩ = .ok snippet) ↔
      (0 ≤ line ∧ 0 ≤ character) ∧ 0 ≤ line' ∧ 0 ≤ character' := by
  constructor
  · rintro ⟨snippet, ok⟩
    obtain ⟨_, start, ok⟩ := bindOk.mp ok
    obtain ⟨_, stop, _⟩ := bindOk.mp ok
    exact ⟨clampedForward start, clampedForward stop⟩
  · rintro ⟨⟨first, second⟩, third, fourth⟩
    obtain ⟨a, start⟩ := clampedInt d first second
    obtain ⟨b, stop⟩ := clampedInt d third fourth
    exact ⟨_, bindOk.mpr ⟨_, start, bindOk.mpr ⟨_, stop, rfl⟩⟩⟩

theorem offsetAtInts (d : Document) (line character : Int) :
    (∃ n : Nat, d.offsetAt (.ofInts line character) = .ok (.int n)) ∨
      ∃ f, d.offsetAt (.ofInts line character) = .error f ∧ f ≠ .notInteger := by
  by_cases negative : line < 0 ∨ character < 0
  · exact .inr ⟨_, bindError.mpr (.inl (placeNegative negative)), by simp⟩
  · rcases placeInts d (by omega : 0 ≤ line) (by omega : 0 ≤ character) with beyond | ⟨n, inside⟩
    · exact .inr ⟨_, bindError.mpr (.inr ⟨none, beyond, rfl⟩), by simp⟩
    · have strict := offsetAtOk.mpr inside
      obtain ⟨k, rfl, _⟩ := offsetAtInside strict
      exact .inl ⟨k, strict⟩

theorem offsetAtNat (d : Document) (line column : Nat) :
    d.offsetAt (.ofInts line column) = if line < d.lineCount then .ok (.int (d.spot line column))
      else .error (.beyondLines (.int line) d.path d.lineCount) := by
  rw [offsetAt, placeNat]
  split <;> rfl

/-! Why a position is refused. -/

theorem placeForward {d : Document} {p : Position} {placed : Option Number} (ok : d.place p = .ok placed) :
    ¬p.Negative := by
  intro negative
  simp only [place] at ok
  rw [if_pos (by simpa [Position.Negative] using negative)] at ok
  cases ok

theorem offsetAtForward {d : Document} {p : Position} {o : Number} (ok : d.offsetAt p = .ok o) :
    ¬p.Negative ∧ (Number.int d.lineCount).atMost p.line = false := by
  have placed := offsetAtOk.mp ok
  refine ⟨placeForward placed, ?_⟩
  by_contra beyond
  simp only [place] at placed
  split at placed
  · cases placed
  · rw [if_pos (by simpa [lineCount] using beyond)] at placed
    cases placed

theorem offsetAtFault {d : Document} {p : Position} (whole : p.Whole) {f : PositionFault}
    (failed : d.offsetAt p = .error f) :
    p.Negative ∧ f = .negative p d.path ∨
      (Number.int d.lineCount).atMost p.line = true ∧ f = .beyondLines p.line d.path d.lineCount := by
  obtain ⟨line, character, rfl⟩ := whole
  rcases bindError.mp failed with unplaced | ⟨placed, at_, thrown⟩
  · simp only [place] at unplaced
    split at unplaced
    · rename_i negative
      cases unplaced
      exact .inl ⟨by simpa [Position.Negative] using negative, rfl⟩
    · split at unplaced <;> cases unplaced
  · cases placed with
    | some o => exact absurd thrown pureError
    | none =>
      cases thrown
      refine .inr ⟨?_, rfl⟩
      simp only [place] at at_
      split at at_
      · cases at_
      · split at at_
        · assumption
        · cases at_

/-! What a range covers. -/

structure Covers (d : Document) (r : Range) (first last : Nat) : Prop where
  start : d.offsetAt r.start = .ok (.int first)
  stop : d.offsetAt r.stop = .ok (.int last)
  ordered : first ≤ last

theorem coversUnique {d : Document} {r : Range} {first last first' last' : Nat} (one : Covers d r first last)
    (two : Covers d r first' last') : first = first' ∧ last = last' := by
  have start := one.start.symm.trans two.start
  have stop := one.stop.symm.trans two.stop
  simp only [Except.ok.injEq, Number.int.injEq, Int.natCast_inj] at start stop
  exact ⟨start, stop⟩

theorem readCovers {d : Document} {r : Range} {first last : Nat} (covers : Covers d r first last) :
    d.read r = .ok (slice d.text first last) :=
  bindOk.mpr ⟨_, clampedOfStrict covers.start, bindOk.mpr ⟨_, clampedOfStrict covers.stop, rfl⟩⟩

end Document

end AccessFix
