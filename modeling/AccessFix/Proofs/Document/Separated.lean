import AccessFix.Proofs.Document.Offset
import AccessFix.Proofs.Text.Cut

/-! Lines kept apart by their line breaks. A newline is left out where a line is trimmed, and an empty line follows it at the end of
a text; with the other line breaks it is not so, and a line that ends in one of them reaches to the beginning of the next. -/
namespace AccessFix
open Text

namespace Text

def lineBreaks : Letters → Nat
  | [] => 0
  | '\r' :: '\n' :: rest => lineBreaks rest + 1
  | c :: rest => lineBreaks rest + if isLineBreak c then 1 else 0

theorem closedBreaks (line cs : Letters) : (closedFrom line cs).length = lineBreaks cs := by
  fun_induction closedFrom line cs with
  | case1 line => rfl
  | case2 line rest ih => simp [lineBreaks, ih]
  | case3 line c rest alone ends ih => simp [lineBreaks, ends, ih]
  | case4 line c rest alone stays ih => simp [lineBreaks, stays, ih]

end Text

namespace Document

variable {d : Document}

theorem countBreaks (d : Document) : (d.lineCount = lineBreaks d.text ∧ EndsSoft d.text) ∨
    (d.lineCount = lineBreaks d.text + 1 ∧ ¬EndsSoft d.text) := by
  have count : d.lineCount = lineBreaks d.text +
      ((if (openFrom [] d.text).isEmpty then [] else [(openFrom [] d.text).reverse]) ++ lastLine d.text).length := by
    rw [lineCount, lines, linesOfLast, Text.lines, linesClosed, List.append_assoc, List.length_append, closedBreaks]
  rw [endsSoft]
  by_cases none : openFrom [] d.text = []
  · rcases lastLineEither d.text with nothing | line
    · exact .inl ⟨by simpa [none, nothing] using count, none, nothing⟩
    · exact .inr ⟨by simpa [none, line] using count, by simp [line]⟩
  · exact .inr ⟨by simpa [none, lastLineOpen none] using count, by simp [none]⟩

theorem lineCloses {l : Nat} (next : l + 1 < d.lineCount) : ∃ body c, d.lines[l]? = some (body ++ [c]) ∧ isLineBreak c = true := by
  obtain ⟨tail, parts, short⟩ := linesTail d.text
  have inside : l < (closedFrom [] d.text).length := by
    rw [lineCount, lines, parts, List.length_append] at next
    omega
  obtain ⟨body, c, ends, breaks⟩ := closedEnds [] d.text _ (List.getElem_mem inside)
  refine ⟨body, c, ?_, breaks⟩
  rw [lines, parts, List.getElem?_append_left inside, List.getElem?_eq_getElem inside, ends]

theorem lineStartPasses {l l' : Nat} (order : l < l') (inside : l' < d.lineCount) : d.lineStart l < d.lineStart l' := by
  obtain ⟨body, c, line, -⟩ := @lineCloses d l (by omega)
  calc d.lineStart l < d.lineStart (l + 1) := by
        rw [lineStartNext, line, Option.getD_some, List.length_append, List.length_singleton]
        omega
    _ ≤ d.lineStart l' := lineStartRises order

theorem widthStops {l : Nat} (next : l + 1 < d.lineCount) :
    d.lineStart l + d.lineWidth l < d.lineStart (l + 1) ↔ ¬EndsSoft (d.lines[l]?.getD []) := by
  obtain ⟨body, c, line, breaks⟩ := lineCloses next
  have soft : EndsSoft (body ++ [c]) ↔ c ≠ '\n' ∧ c ≠ '\r' := by simp [EndsSoft, breaks]
  rw [lineStartNext, lineWidth, line, Option.getD_some, soft, Nat.add_lt_add_iff_left]
  by_cases newline : c = '\n' ∨ c = '\r'
  · have short := trimNewlineLength body
    rw [trimNewlineDropped newline, List.length_append, List.length_singleton]
    refine iff_of_true (by omega) fun kept => ?_
    exact newline.elim kept.1 kept.2
  · obtain ⟨feed, return_⟩ := not_or.mp newline
    rw [trimNewlineKept feed return_]
    exact iff_of_false (Nat.lt_irrefl _) fun dropped => dropped ⟨feed, return_⟩

def Precedes (d : Document) (i j : Nat) : Prop := ∀ column column' : Nat, ∃ m n : Int,
  d.offsetAt (.ofInts i column) = .ok (.int m) ∧ d.offsetAt (.ofInts j column') = .ok (.int n) ∧ m < n

theorem precedesStarts {i j : Nat} (order : i < j) (inside : j < d.lineCount) :
    d.Precedes i j ↔ d.lineStart i + d.lineWidth i < d.lineStart j := by
  have found : ∀ l < d.lineCount, ∀ column : Nat, d.offsetAt (.ofInts l column) = .ok (.int (d.spot l column)) :=
    fun l counted column => by rw [offsetAtNat, if_pos counted]
  constructor
  · intro precedes
    obtain ⟨m, n, first, second, less⟩ := precedes (d.lineWidth i) 0
    rw [found i (by omega), Except.ok.injEq, Number.int.injEq] at first
    rw [found j inside, Except.ok.injEq, Number.int.injEq] at second
    rw [spot, min_self] at first
    rw [spot, Nat.zero_min] at second
    omega
  · intro stops column column'
    refine ⟨_, _, found i (by omega) column, found j inside column', ?_⟩
    rw [spot, spot]
    omega

theorem linesPrecede {i j : Nat} (order : i < j) (inside : j < d.lineCount) :
    d.Precedes i j ↔ ¬(j = i + 1 ∧ EndsSoft (d.lines[i]?.getD [])) := by
  rw [precedesStarts order inside]
  rcases Nat.eq_or_lt_of_le (Nat.succ_le_of_lt order) with rfl | later
  · rw [widthStops inside]
    simp
  · have reach := @spotBefore d i (d.lineWidth i)
    have passes : d.lineStart (i + 1) < d.lineStart j := lineStartPasses later inside
    rw [spot, min_self] at reach
    exact iff_of_true (by omega) fun next => by omega

/-- A document has one line more than line breaks exactly where its text does not end in a break other than a newline, and its
lines follow one another without touching exactly where no such break ends the earlier of two neighbours. -/
theorem linesSeparated (d : Document) :
    (d.lineCount = lineBreaks d.text + 1 ↔ ¬EndsSoft d.text) ∧
    ∀ i j : Nat, i < j → j < d.lineCount → (d.Precedes i j ↔ ¬(j = i + 1 ∧ EndsSoft (d.lines[i]?.getD []))) := by
  refine ⟨?_, fun i j order inside => linesPrecede order inside⟩
  rcases countBreaks d with ⟨count, soft⟩ | ⟨count, hard⟩
  · exact iff_of_false (by omega) (not_not.mpr soft)
  · exact iff_of_true count hard

def feeds : Document := ⟨"/p/A.jsx", ['a', '\x0c', 'b', '\n', 'c', '\x0c'], "javascriptreact", "file"⟩

theorem feedsPrecede : feeds.Precedes 1 2 :=
  ((linesSeparated feeds).2 1 2 (by decide) (by decide)).mpr fun soft => by
    obtain ⟨c, last, -, feed, -⟩ := soft.2
    exact feed (Option.some.inj last).symm

theorem feedsTouch : feeds.lineCount = 3 ∧ lineBreaks feeds.text = 3 ∧ ¬feeds.Precedes 0 1 := by
  refine ⟨by decide, by decide, fun precedes => ?_⟩
  obtain ⟨m, n, first, second, less⟩ := precedes 2 0
  have here : feeds.offsetAt (.ofInts 0 2) = .ok (.int 2) := by decide
  have there : feeds.offsetAt (.ofInts 1 0) = .ok (.int 2) := by decide
  rw [Nat.cast_zero, Nat.cast_ofNat, here, Except.ok.injEq, Number.int.injEq] at first
  rw [Nat.cast_one, Nat.cast_zero, there, Except.ok.injEq, Number.int.injEq] at second
  omega

end Document

end AccessFix
