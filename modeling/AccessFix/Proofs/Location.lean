import AccessFix.Proofs.Text.Line

/-! Places that a linter names, in documents. A script counts fewer line breaks than a document, and it has an empty line
after its last break where a document has one only after a newline; which places mean the same in both is said exactly. -/
namespace AccessFix
open Text

namespace Document

variable {d : Document} {before after : Letters}

def lastLine (text : Letters) : List Letters :=
  match text.getLast? with
  | none => [[]]
  | some c => if c = '\n' ∨ c = '\r' then [[]] else []

theorem linesOfLast (text : Letters) : linesOf text = Text.lines text ++ lastLine text := by
  cases last : text.getLast? with
  | none => simp [linesOf, lastLine, last]
  | some c =>
    simp only [linesOf, lastLine, last]
    split <;> simp

theorem linesCut (text : d.text = before ++ after) (whole : ¬Splits before after) :
    d.lines = closedFrom [] before ++ (linesFrom (openFrom [] before) after ++ lastLine d.text) := by
  rw [lines, linesOfLast, Text.lines, text, linesAppend [] before whole, List.append_assoc]

theorem offsetOn {first rest : List Letters} {line : Letters} (lines : d.lines = first ++ line :: rest) (column : Nat) :
    d.offsetAt (.ofInts first.length column) =
      .ok (.int ((min column (trimNewline line).length + first.flatten.length : Nat))) := by
  have inside : first.length < d.lineCount := by simp [lineCount, lines]
  rw [offsetAtNat, if_pos inside, spot, lineWidth, lineStart, lines]
  simp

def Unended (text : Letters) : Prop := ∃ c, text.getLast? = some c ∧ isSeparator c = true

theorem openEnded {text : Letters} (some : openFrom [] text ≠ []) : ¬Unended text := by
  obtain ⟨c, line, last⟩ := List.exists_cons_of_ne_nil some
  rintro ⟨separator, same, separates⟩
  have all := wholeClosedOpen text
  rw [last, List.reverse_cons, ← List.append_assoc] at all
  rw [← all, List.getLast?_concat, Option.some.injEq] at same
  have breaks : isLineBreak separator = true := scriptBreakBreaks (by simp [isScriptBreak, separates])
  have free : ∀ c ∈ openFrom [] text, isLineBreak c = false := openFree (by simp) text
  rw [← same, free c (by simp [last])] at breaks
  contradiction

theorem lastLineClosed {text : Letters} (plain : ∀ c ∈ text, isForeignBreak c = false) (none : openFrom [] text = []) :
    lastLine text = [[]] ∧ ¬Unended text ∨ lastLine text = [] ∧ Unended text := by
  have all := wholeClosedOpen text
  rcases List.eq_nil_or_concat' (closedFrom [] text) with empty | ⟨front, l, last⟩
  · rw [none, empty] at all
    subst all
    exact .inl ⟨rfl, by simp [Unended]⟩
  · obtain ⟨body, c, ends, -, breaks⟩ := closedLast last none
    have final : text.getLast? = some c := by rw [ends, List.getLast?_concat]
    have script : isScriptBreak c = true := by
      have domestic := plain c (by rw [ends]; simp)
      simpa [isForeignBreak, breaks] using domestic
    by_cases separator : isSeparator c = true
    · have feed : c ≠ '\n' := by
        rintro rfl
        cases separator
      have return_ : c ≠ '\r' := by
        rintro rfl
        cases separator
      exact .inr ⟨by simp [lastLine, final, feed, return_], c, final, separator⟩
    · have newline : c = '\n' ∨ c = '\r' := by simpa [isScriptBreak, separator] using script
      refine .inl ⟨by simp [lastLine, final, newline], ?_⟩
      rintro ⟨c', final', separates⟩
      rw [final, Option.some.injEq] at final'
      exact separator (final' ▸ separates)

theorem offsetOpen (text : d.text = before ++ after) (whole : ¬Splits before after) (rest : openFrom [] before ≠ [] ∨ after ≠ []) :
    d.offsetAt (.ofInts (closedFrom [] before).length (openFrom [] before).length) = .ok (.int before.length) := by
  have cut := linesCut text whole
  obtain ⟨more, others, head⟩ := linesFromHead rest
  rw [head, List.cons_append] at cut
  rw [offsetOn cut, min_eq_left (trimNewlineOpen (openFree (by simp) before) more), lengthClosedOpen]

theorem offsetLast (none : openFrom [] d.text = []) (line : lastLine d.text = [[]]) :
    d.offsetAt (.ofInts (closedFrom [] d.text).length 0) = .ok (.int d.text.length) := by
  have parts : d.lines = closedFrom [] d.text ++ [[]] := by
    rw [lines, linesOfLast, Text.lines, linesClosed, none, line]
    simp
  have length := lengthClosedOpen d.text
  rw [none, List.length_nil] at length
  have found := offsetOn parts 0
  rwa [Nat.zero_min, length] at found

theorem offsetPlain (text : d.text = before ++ after) (whole : ¬Splits before after)
    (plain : ∀ c ∈ before, isForeignBreak c = false) :
    d.offsetAt (.ofInts (scriptBreaks before) (sinceBreak before)) = .ok (.int before.length) ↔
      ¬(after = [] ∧ Unended before) := by
  rw [← closedPlain plain, sinceBreakOpen plain]
  by_cases rest : openFrom [] before ≠ [] ∨ after ≠ []
  · refine iff_of_true (offsetOpen text whole rest) ?_
    rintro ⟨none, unended⟩
    exact openEnded (rest.resolve_right (by simp [none])) unended
  · obtain ⟨none, rfl⟩ : openFrom [] before = [] ∧ after = [] := by simpa [not_or] using rest
    rw [List.append_nil] at text
    rcases lastLineClosed plain none with ⟨line, ended⟩ | ⟨line, unended⟩
    · refine iff_of_true ?_ fun both => ended both.2
      rw [← text] at none line
      rw [← text, none]
      exact offsetLast none line
    · have beyond : ¬(closedFrom [] before).length < d.lineCount := by
        simp [lineCount, lines, text, linesOfLast, Text.lines, linesClosed, none, line]
      rw [offsetAtNat, if_neg beyond]
      simp [unended]

theorem foreignLast (text : d.text = before ++ after) (whole : ¬Splits before after)
    (foreign : 0 < before.countP isForeignBreak)
    (found : d.offsetAt (.ofInts (scriptBreaks before) (sinceBreak before)) = .ok (.int before.length)) :
    ∃ first line, closedFrom [] before = first ++ [line] ∧ first.length = scriptBreaks before ∧ openFrom [] before = [] ∧
      0 < sinceBreak before := by
  have count := closedCount [] before
  have inside : scriptBreaks before < (closedFrom [] before).length := by omega
  obtain ⟨first, line, rest, split, index⟩ : ∃ first line rest, closedFrom [] before = first ++ line :: rest ∧
      first.length = scriptBreaks before :=
    ⟨_, _, _, (List.take_append_drop _ _).symm.trans (by rw [List.drop_eq_getElem_cons inside]), by simp; omega⟩
  have cut := linesCut text whole
  rw [split, List.append_assoc, List.cons_append] at cut
  rw [← index, offsetOn cut] at found
  simp only [Except.ok.injEq, Number.int.injEq, Nat.cast_inj] at found
  have length := lengthClosedOpen before
  simp only [split, List.flatten_append, List.flatten_cons, List.length_append] at length
  have short := trimNewlineLength line
  -- what is found lies on this line, and the place behind every line that is closed: nothing can be closed after it
  obtain ⟨body, c, rfl, _⟩ := closedEnds [] before line (by simp [split])
  rw [List.length_append, List.length_singleton] at length short
  have none : rest = [] := by
    cases rest with
    | nil => rfl
    | cons next rest =>
      obtain ⟨_, _, rfl, _⟩ := closedEnds [] before next (by simp [split])
      rw [List.flatten_cons, List.length_append, List.length_append, List.length_singleton] at length
      omega
  exact ⟨first, body ++ [c], by rw [split, none], index, List.length_eq_zero_iff.mp (by omega), by omega⟩

theorem foreignFound (text : d.text = before ++ after) (whole : ¬Splits before after)
    (foreign : 0 < before.countP isForeignBreak)
    (found : d.offsetAt (.ofInts (scriptBreaks before) (sinceBreak before)) = .ok (.int before.length)) :
    ∀ c ∈ before.dropLast, isForeignBreak c = false := by
  obtain ⟨first, line, last, index, closed, since⟩ := foreignLast text whole foreign found
  obtain ⟨body, c, ends, -, breaks⟩ := closedLast last closed
  have domestic : isScriptBreak c = false := by
    cases script : isScriptBreak c with
    | false => rfl
    | true =>
      rw [ends, sinceBreakLast, if_pos script] at since
      contradiction
  have one : before.countP isForeignBreak = 1 := by
    have count := closedCount [] before
    rw [last, List.length_append, List.length_singleton] at count
    omega
  rw [ends, List.countP_append, List.countP_singleton, if_pos (by simp [isForeignBreak, breaks, domestic])] at one
  rw [ends, List.dropLast_concat]
  simpa using List.countP_eq_zero.mp (by omega : (first.flatten ++ body).countP isForeignBreak = 0)

theorem offsetForeign (text : d.text = before ++ after) (whole : ¬Splits before after)
    (foreign : 0 < before.countP isForeignBreak) :
    d.offsetAt (.ofInts (scriptBreaks before) (sinceBreak before)) = .ok (.int before.length) ↔
      ∀ c ∈ before.dropLast, isForeignBreak c = false := by
  refine ⟨foreignFound text whole foreign, fun plain => ?_⟩
  rcases List.eq_nil_or_concat' before with rfl | ⟨front, c, rfl⟩
  · simp at foreign
  rw [List.dropLast_concat] at plain
  have none : front.countP isForeignBreak = 0 := List.countP_eq_zero.mpr (by simpa using plain)
  have last : isForeignBreak c = true := by
    by_contra other
    simp [none, other] at foreign
  obtain ⟨_, domestic⟩ : isLineBreak c = true ∧ isScriptBreak c = false := by simpa [isForeignBreak] using last
  obtain ⟨feed, return_⟩ := foreignKept last
  have closed := closedForeign front last
  have count := closedCount [] (front ++ [c])
  rw [closed, List.length_append, List.length_singleton, List.countP_append, none, List.countP_singleton, if_pos last] at count
  have index : scriptBreaks (front ++ [c]) = (closedFrom [] front).length := by omega
  have cut := linesCut text whole
  rw [closed, List.append_assoc, List.singleton_append] at cut
  rw [index, offsetOn cut, sinceBreakLast, trimNewlineKept feed return_, sinceBreakOpen plain]
  have length := lengthClosedOpen front
  simp only [domestic, List.length_append, List.length_reverse, List.length_singleton, Except.ok.injEq, Number.int.injEq,
    Nat.cast_inj, Bool.false_eq_true, if_false, min_self]
  omega

/-- Where a document finds the place again that a script's line and column name: no character before the one left of it is
a foreign break, and it is not the end of a text that ends in a separator. -/
def Agreed (text : Letters) (o : Nat) : Prop :=
  (∀ c ∈ text.take (o - 1), isForeignBreak c = false) ∧ ¬(o = text.length ∧ Unended text)

theorem offsetReported (d : Document) {o : Nat} (inside : o ≤ d.text.length)
    (whole : ¬Splits (d.text.take o) (d.text.drop o)) :
    d.offsetAt (.ofInts (scriptBreaks (d.text.take o)) (sinceBreak (d.text.take o))) = .ok (.int o) ↔ Agreed d.text o := by
  have text : d.text = d.text.take o ++ d.text.drop o := (List.take_append_drop o d.text).symm
  have length : (d.text.take o).length = o := List.length_take_of_le inside
  have left : d.text.take (o - 1) = (d.text.take o).dropLast := by
    rw [List.dropLast_eq_take, length, List.take_take]
    congr 1
    omega
  have stop : d.text.drop o = [] ↔ o = d.text.length := by
    rw [List.drop_eq_nil_iff]
    omega
  rcases Nat.eq_zero_or_pos ((d.text.take o).countP isForeignBreak) with none | some
  · have plain : ∀ c ∈ d.text.take o, isForeignBreak c = false := by simpa using List.countP_eq_zero.mp none
    have found := offsetPlain text whole plain
    rw [length] at found
    rw [found, stop, Agreed, left]
    have before : ∀ c ∈ (d.text.take o).dropLast, isForeignBreak c = false := fun c mem =>
      plain c (List.dropLast_subset _ mem)
    have same : o = d.text.length ∧ Unended (d.text.take o) ↔ o = d.text.length ∧ Unended d.text :=
      and_congr_right fun ended => by rw [ended, List.take_length]
    rw [same]
    exact ⟨fun ended => ⟨before, ended⟩, And.right⟩
  · have found := offsetForeign text whole some
    rw [length] at found
    rw [found, Agreed, left]
    refine ⟨fun plain => ⟨plain, ?_⟩, And.left⟩
    rintro ⟨rfl, c, last, separates⟩
    obtain ⟨front, same⟩ := List.getLast?_eq_some_iff.mp last
    rw [List.take_length, same, List.dropLast_concat] at plain
    have none : front.countP isForeignBreak = 0 := List.countP_eq_zero.mpr (by simpa using plain)
    have domestic : isForeignBreak c = false := by simp [isForeignBreak, isScriptBreak, separates]
    rw [List.take_length, same, List.countP_append, none, List.countP_singleton] at some
    simp [domestic] at some

end Document

end AccessFix
