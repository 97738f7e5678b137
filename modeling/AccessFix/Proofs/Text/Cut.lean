import AccessFix.Proofs.Location

/-! Texts that are cut between two lines. The lines of both parts are the lines of the whole, and there is such a cut in front of
every line. -/
namespace AccessFix
open Text

namespace Text

structure Cut (before after : Letters) : Prop where
  whole : ¬Splits before after
  closed : openFrom [] before = []

theorem openEnds (line before : Letters) {c : Letter} (breaks : isLineBreak c = true) : openFrom line (before ++ [c]) = [] := by
  by_cases splits : Splits before [c]
  · obtain ⟨front, rfl⟩ := List.getLast?_eq_some_iff.mp splits.1
    obtain rfl : c = '\n' := by simpa using splits.2
    rw [List.append_assoc, List.singleton_append, (closedAppend line front (splitsOther front (by decide) ['\n'])).2]
    rfl
  · rw [(closedAppend line before splits).2]
    simp [openFrom, breaks]

theorem splitsFront {front before after : Letters} (whole : ¬Splits front (before ++ after)) : ¬Splits front before := by
  rintro ⟨last, head⟩
  exact whole ⟨last, by rw [List.head?_append, head]; rfl⟩

theorem splitsBehind {front before after : Letters} (whole : ¬Splits front (before ++ after)) (behind : ¬Splits before after) :
    ¬Splits (front ++ before) after := by
  rintro ⟨last, head⟩
  cases before with
  | nil => exact whole ⟨by simpa using last, head⟩
  | cons c before => exact behind ⟨by rwa [List.getLast?_append_of_ne_nil front (by simp)] at last, head⟩

theorem frontLine {line text l : Letters} {others : List Letters} (closed : closedFrom line text = l :: others) :
    ∃ front after, text = front ++ after ∧ closedFrom line front = [l] ∧ openFrom line front = [] ∧ ¬Splits front after ∧
      closedFrom [] after = others := by
  fun_induction closedFrom line text with
  | case1 line => contradiction
  | case2 line rest ih =>
    obtain ⟨rfl, same⟩ := List.cons.inj closed
    exact ⟨['\r', '\n'], rest, rfl, by simp [closedFrom], by simp [openFrom], by simp [Splits], same⟩
  | case3 line c rest alone ends ih =>
    obtain ⟨rfl, same⟩ := List.cons.inj closed
    refine ⟨[c], rest, rfl, by simp [closedFrom, ends], by simp [openFrom, ends], ?_, same⟩
    rintro ⟨last, head⟩
    obtain ⟨tail, feed⟩ := List.head?_eq_some_iff.mp head
    exact alone tail (by simpa using last) feed
  | case4 line c rest alone stays ih =>
    obtain ⟨front, after, rfl, one, none, whole, same⟩ := ih closed
    have still : ∀ tail, c = '\r' → front = Letter.char '\n' :: tail → False := fun tail back feed =>
      alone (tail ++ after) back (by rw [feed]; rfl)
    refine ⟨c :: front, after, rfl, by simp [closedFrom, stays, one], by simp [openFrom, stays, none], ?_, same⟩
    refine @splitsBehind [c] front after ?_ whole
    rintro ⟨last, head⟩
    obtain ⟨tail, feed⟩ := List.head?_eq_some_iff.mp head
    exact alone tail (by simpa using last) feed

theorem closedCut {text : Letters} {first second : List Letters} (parts : closedFrom [] text = first ++ second) :
    ∃ before after, text = before ++ after ∧ closedFrom [] before = first ∧ Cut before after := by
  -- the text is cut behind its first line, and what is left of it behind the others
  induction first generalizing text with
  | nil => exact ⟨[], text, rfl, rfl, by simp [Splits], rfl⟩
  | cons l first ih =>
    obtain ⟨front, rest, rfl, one, none, whole, same⟩ := frontLine parts
    obtain ⟨before, after, rfl, closed, cut⟩ := ih same
    obtain ⟨lines, rest⟩ := closedAppend [] front (splitsFront whole)
    refine ⟨front ++ before, after, by rw [List.append_assoc], ?_, splitsBehind whole cut.whole, ?_⟩
    · rw [lines, one, none, closed]
      rfl
    · rw [rest, none, cut.closed]

end Text

namespace Document

theorem lastLineEither (text : Letters) : lastLine text = [] ∨ lastLine text = [[]] := by
  rw [lastLine]
  split
  · exact .inr rfl
  · split
    · exact .inr rfl
    · exact .inl rfl

theorem lastLineOpen {text : Letters} (filled : openFrom [] text ≠ []) : lastLine text = [] := by
  obtain ⟨c, line, last⟩ := List.exists_cons_of_ne_nil filled
  have all := wholeClosedOpen text
  rw [last, List.reverse_cons, ← List.append_assoc] at all
  have open_ : ∀ c ∈ openFrom [] text, isLineBreak c = false := openFree (by simp) text
  obtain ⟨feed, return_⟩ := innerKept (open_ c (by simp [last]))
  have final : text.getLast? = some c := by rw [← all, List.getLast?_concat]
  simp [lastLine, final, feed, return_]

def EndsSoft (text : Letters) : Prop := ∃ c, text.getLast? = some c ∧ isLineBreak c = true ∧ c ≠ '\n' ∧ c ≠ '\r'

theorem endsSoft {text : Letters} : EndsSoft text ↔ openFrom [] text = [] ∧ lastLine text = [] := by
  constructor
  · rintro ⟨c, last, breaks, feed, return_⟩
    obtain ⟨front, rfl⟩ := List.getLast?_eq_some_iff.mp last
    exact ⟨openEnds [] front breaks, by simp [lastLine, feed, return_]⟩
  · rintro ⟨none, nothing⟩
    rcases List.eq_nil_or_concat' (closedFrom [] text) with empty | ⟨front, line, last⟩
    · have all := wholeClosedOpen text
      rw [none, empty] at all
      rw [← all] at nothing
      cases nothing
    · obtain ⟨body, c, parts, -, breaks⟩ := closedLast last none
      have final : text.getLast? = some c := by rw [parts, List.getLast?_concat]
      obtain ⟨feed, return_⟩ : c ≠ '\n' ∧ c ≠ '\r' := by simpa [lastLine, final] using nothing
      exact ⟨c, final, breaks, feed, return_⟩

theorem linesTail (text : Letters) : ∃ tail, linesOf text = closedFrom [] text ++ tail ∧ tail.length ≤ 1 := by
  rw [linesOfLast, Text.lines, linesClosed, List.append_assoc]
  refine ⟨_, rfl, ?_⟩
  by_cases none : openFrom [] text = []
  · rcases lastLineEither text with same | same <;> simp [none, same]
  · simp [none, lastLineOpen none]

theorem linesOfCut {before after : Letters} (cut : Cut before after) (more : after ≠ [] ∨ lastLine before = [[]]) :
    linesOf (before ++ after) = closedFrom [] before ++ linesOf after := by
  rw [linesOfLast, linesOfLast, Text.lines, Text.lines, linesAppend [] before cut.whole, cut.closed, List.append_assoc]
  congr 2
  cases after with
  | nil => simpa [lastLine] using more.resolve_left (by simp)
  | cons c after =>
    simp only [lastLine]
    rw [List.getLast?_append_of_ne_nil before (by simp)]

theorem linesAt {text : Letters} {l : Nat} (inside : l < (linesOf text).length) : ∃ before after, text = before ++ after ∧
    Cut before after ∧ closedFrom [] before = (linesOf text).take l ∧ linesOf after = (linesOf text).drop l := by
  obtain ⟨tail, parts, short⟩ := linesTail text
  have closed : l ≤ (closedFrom [] text).length := by
    rw [parts, List.length_append] at inside
    omega
  have length : ((closedFrom [] text).take l).length = l := List.length_take_of_le closed
  obtain ⟨before, after, rfl, first, cut⟩ := closedCut (List.take_append_drop l (closedFrom [] text)).symm
  have more : after ≠ [] ∨ lastLine before = [[]] := by
    by_contra neither
    obtain ⟨end_, none⟩ : after = [] ∧ lastLine before = [] := by
      rw [not_or, not_not] at neither
      exact ⟨neither.1, (lastLineEither before).resolve_right neither.2⟩
    rw [end_, List.append_nil, linesOfLast, Text.lines, linesClosed, cut.closed, none, first, List.append_nil] at inside
    simp [length] at inside
  have whole := linesOfCut cut more
  rw [first] at whole
  refine ⟨before, after, rfl, cut, ?_, ?_⟩
  · rw [first, whole, List.take_left' length]
  · rw [whole, List.drop_left' length]

theorem lineParts {text : Letters} {l : Nat} (inside : l < (linesOf text).length) : ∃ before after,
    text = before ++ (trimNewline (linesOf text)[l] ++ after) ∧ Cut before (trimNewline (linesOf text)[l] ++ after) ∧
      closedFrom [] before = (linesOf text).take l ∧ before = ((linesOf text).take l).flatten := by
  obtain ⟨before, after, whole, cut, closed, rest⟩ := linesAt inside
  obtain ⟨newlines, content⟩ := trimNewlinePrefix (linesOf text)[l]
  have front : before = ((linesOf text).take l).flatten := by
    have all := wholeClosedOpen before
    rwa [cut.closed, closed, List.reverse_nil, List.append_nil, eq_comm] at all
  have line : after = trimNewline (linesOf text)[l] ++ (newlines ++ ((linesOf text).drop (l + 1)).flatten) := by
    rw [← linesOfFlatten after, rest, List.drop_eq_getElem_cons inside, List.flatten_cons, ← List.append_assoc, content]
  rw [line] at whole cut
  exact ⟨before, _, whole, cut, closed, front⟩

end Document

end AccessFix
