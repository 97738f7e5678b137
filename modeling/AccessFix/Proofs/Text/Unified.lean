import AccessFix.Proofs.Text.Cut
import AccessFix.Proofs.Text.Newline

/-! Lines of a text with carriage returns and lines of the same text with line feeds in their place. There are as many, each
with the content that it had; a place in a line's content is the place that stands as far behind the line's first character. -/
namespace AccessFix
open Text

namespace Text

theorem unifyOther {c : Letter} (other : c ≠ '\r') (rest : Letters) : unifyNewlines (c :: rest) = c :: unifyNewlines rest :=
  unifyNewlines.eq_4 c rest (fun _ same => absurd same other) other

theorem unifyAppend {before after : Letters} (whole : ¬Splits before after) :
    unifyNewlines (before ++ after) = unifyNewlines before ++ unifyNewlines after := by
  fun_induction unifyNewlines before with
  | case1 => rfl
  | case2 rest ih =>
    rw [List.cons_append, List.cons_append, unifyNewlines, ih (splitsTail (splitsTail whole)), List.cons_append]
  | case3 rest alone ih =>
    have still : ∀ tail, rest ++ after ≠ Letter.char '\n' :: tail := fun tail =>
      splitsStep whole (fun tail _ => alone tail) tail rfl
    rw [List.cons_append, unifyReturn still, ih (splitsTail whole), List.cons_append]
  | case4 c rest _ other ih =>
    rw [List.cons_append, unifyOther other, ih (splitsTail whole), List.cons_append]

theorem placeWhole {before after : Letters} (whole : ¬Splits before after) :
    placeIn (before ++ after) (unifyNewlines before).length = before.length := by
  fun_induction unifyNewlines before with
  | case1 => simp [placeIn]
  | case2 rest ih => simp [placeIn, ih (splitsTail (splitsTail whole))]
  | case3 rest alone ih =>
    have still : ∀ tail, rest ++ after ≠ Letter.char '\n' :: tail := fun tail =>
      splitsStep whole (fun tail _ => alone tail) tail rfl
    simp [placeIn, still, ih (splitsTail whole)]
  | case4 c rest _ other ih =>
    rw [List.cons_append, List.length_cons, List.length_cons, placeIn, ih (splitsTail whole)]
    exact fun _ same => absurd same other

theorem placeEnd (text : Letters) : placeIn text (unifyNewlines text).length = text.length := by
  have whole : ¬Splits text [] := fun splits => by simpa using splits.2
  simpa using placeWhole whole

theorem splitsFree {front : Letters} (free : Letter.char '\r' ∉ front) (after : Letters) : ¬Splits front after := fun splits =>
  free (List.mem_of_getLast? splits.1)

theorem unifyFree {front : Letters} (free : Letter.char '\r' ∉ front) (rest : Letters) :
    unifyNewlines (front ++ rest) = front ++ unifyNewlines rest := by
  rw [unifyAppend (splitsFree free rest), unifySame free]

theorem placeFree {front : Letters} (free : Letter.char '\r' ∉ front) {n : Nat} (short : n ≤ front.length) (rest : Letters) :
    placeIn (front ++ rest) n = n := by
  have first : Letter.char '\r' ∉ front.take n := fun mem => free (List.mem_of_mem_take mem)
  have place := placeWhole (splitsFree first (front.drop n ++ rest))
  rwa [unifySame first, ← List.append_assoc, List.take_append_drop, List.length_take_of_le short] at place

theorem returnBreaks {line : Letters} (free : ∀ c ∈ line, isLineBreak c = false) : Letter.char '\r' ∉ line := fun mem => by
  cases free _ mem

theorem closedUnified {line : Letters} (free : ∀ c ∈ line, isLineBreak c = false) (cs : Letters) :
    closedFrom line (unifyNewlines cs) = (closedFrom line cs).map unifyNewlines ∧
      openFrom line (unifyNewlines cs) = openFrom line cs := by
  -- an open line holds no break, so whatever closes it is unified by itself
  have feed : isLineBreak '\n' = true := by decide
  fun_induction closedFrom line cs with
  | case1 line => simp [unifyNewlines, closedFrom, openFrom]
  | case2 line rest ih =>
    obtain ⟨closed, open_⟩ := ih (by simp)
    have kept := @unifyFree line.reverse (by simpa using returnBreaks free)
    simp [unifyNewlines, closedFrom, openFrom, feed, closed, open_, kept]
  | case3 line c rest alone ends ih =>
    obtain ⟨closed, open_⟩ := ih (by simp)
    have kept := @unifyFree line.reverse (by simpa using returnBreaks free)
    by_cases back : c = '\r'
    · subst back
      have single : ∀ tail, rest ≠ Letter.char '\n' :: tail := fun tail => alone tail rfl
      simp [unifyNewlines, unifyReturn single, closedFrom, openFrom, feed, ends, closed, open_, kept]
    · simp [unifyNewlines, unifyOther back, closedFrom, openFrom, back, ends, closed, open_, kept]
  | case4 line c rest alone stays ih =>
    have back : c ≠ '\r' := by
      rintro rfl
      exact stays (by decide)
    obtain ⟨closed, open_⟩ := ih (List.forall_mem_cons.mpr ⟨by simpa using stays, free⟩)
    simp [unifyOther back, closedFrom, openFrom, back, stays, closed, open_]

theorem unifyEnd {front : Letters} {c : Letter} (whole : ¬Splits front [c]) :
    unifyNewlines (front ++ [c]) = unifyNewlines front ++ [if c = '\r' then Letter.char '\n' else c] := by
  rw [unifyAppend whole]
  by_cases back : c = '\r'
  · subst back
    rfl
  · rw [unifyOther back, if_neg back]
    rfl

theorem unifyJoined {front : Letters} {c : Letter} (splits : Splits front [c]) :
    c = '\n' ∧ unifyNewlines (front ++ [c]) = unifyNewlines front ∧ (unifyNewlines front).getLast? = some '\n' := by
  obtain ⟨before, rfl⟩ := List.getLast?_eq_some_iff.mp splits.1
  obtain rfl : c = '\n' := by simpa using splits.2
  have whole : ∀ rest, ¬Splits before ('\r' :: rest) := splitsOther before (by decide)
  rw [List.append_assoc, List.singleton_append, unifyAppend (whole ['\n']), unifyEnd (whole [])]
  exact ⟨rfl, rfl, List.getLast?_concat⟩

theorem unifyLast (cs : Letters) :
    (unifyNewlines cs).getLast? = cs.getLast?.map fun c => if c = Letter.char '\r' then Letter.char '\n' else c := by
  rcases List.eq_nil_or_concat' cs with rfl | ⟨front, c, rfl⟩
  · rfl
  · rw [List.getLast?_concat, Option.map_some]
    by_cases splits : Splits front [c]
    · obtain ⟨rfl, same, last⟩ := unifyJoined splits
      rw [same, last]
      rfl
    · rw [unifyEnd splits, List.getLast?_concat]

/-! The content of a line. -/

theorem trimUnified (line : Letters) : trimNewline (unifyNewlines line) = unifyNewlines (trimNewline line) := by
  induction line using List.reverseRecOn with
  | nil => rfl
  | append_singleton front c ih =>
    by_cases newline : c = '\n' ∨ c = '\r'
    · rw [trimNewlineDropped newline, ← ih]
      by_cases splits : Splits front [c]
      · rw [(unifyJoined splits).2.1]
      · rw [unifyEnd splits, trimNewlineDropped]
        rcases newline with rfl | rfl <;> simp
    · obtain ⟨feed, back⟩ := not_or.mp newline
      rw [trimNewlineKept feed back, unifyEnd (splitsOther front feed []), if_neg back, trimNewlineKept feed back]

theorem closedContent {line : Letters} (free : ∀ c ∈ line, isLineBreak c = false) (cs : Letters) :
    ∀ l ∈ closedFrom line cs, Letter.char '\r' ∉ trimNewline l := by
  have body : Letter.char '\r' ∉ trimNewline line.reverse := fun mem =>
    returnBreaks free (List.mem_reverse.mp ((trimNewlinePrefix _).subset mem))
  fun_induction closedFrom line cs with
  | case1 line => simp
  | case2 line rest ih =>
    refine List.forall_mem_cons.mpr ⟨?_, ih (by simp) (by simp [trimNewline])⟩
    rwa [List.reverse_cons, trimNewlineDropped (.inl rfl), List.reverse_cons, trimNewlineDropped (.inr rfl)]
  | case3 line c rest alone ends ih =>
    refine List.forall_mem_cons.mpr ⟨?_, ih (by simp) (by simp [trimNewline])⟩
    rw [List.reverse_cons]
    by_cases newline : c = '\n' ∨ c = '\r'
    · rwa [trimNewlineDropped newline]
    · obtain ⟨feed, back⟩ := not_or.mp newline
      rw [trimNewlineKept feed back]
      simpa [Ne.symm back] using returnBreaks free
  | case4 line c rest alone stays ih =>
    have plain := List.forall_mem_cons.mpr ⟨by simpa using stays, free⟩
    exact ih plain fun mem => returnBreaks plain (List.mem_reverse.mp ((trimNewlinePrefix _).subset mem))

end Text

namespace Document

theorem lastLineUnified (text : Letters) : lastLine (unifyNewlines text) = lastLine text := by
  rw [lastLine, lastLine, unifyLast]
  cases text.getLast? with
  | none => rfl
  | some c => by_cases back : c = '\r' <;> simp [back]

theorem linesUnified (text : Letters) : linesOf (unifyNewlines text) = (linesOf text).map unifyNewlines := by
  obtain ⟨closed, open_⟩ := @closedUnified [] (by simp) text
  have last : (lastLine text).map unifyNewlines = lastLine text := by
    rcases lastLineEither text with none | one
    · rw [none, List.map_nil]
    · rw [one]
      rfl
  have free : Letter.char '\r' ∉ (openFrom [] text).reverse := by
    rw [List.mem_reverse]
    exact returnBreaks (openFree (by simp) text)
  rw [linesOfLast, linesOfLast, Text.lines, Text.lines, linesClosed, linesClosed, closed, open_, lastLineUnified,
    List.map_append, List.map_append, last]
  split
  · rfl
  · rw [List.map_singleton, unifySame free]

theorem lineContent (text : Letters) : ∀ line ∈ linesOf text, Letter.char '\r' ∉ trimNewline line := by
  intro line mem return_
  rw [linesOfLast, Text.lines, linesClosed] at mem
  rcases List.mem_append.mp mem with whole | last
  · rcases List.mem_append.mp whole with closed | opened
    · exact closedContent (by simp) text line closed return_
    · split at opened
      · cases opened
      · rw [List.mem_singleton.mp opened] at return_
        exact returnBreaks (openFree (by simp) text) (List.mem_reverse.mp ((trimNewlinePrefix _).subset return_))
  · rcases lastLineEither text with none | one
    · rw [none] at last
      cases last
    · rw [one, List.mem_singleton] at last
      rw [last] at return_
      cases return_

theorem placeLine {text : Letters} {l : Nat} (inside : l < (linesOf text).length) {column : Nat}
    (short : column ≤ (trimNewline (linesOf text)[l]).length) :
    placeIn text (column + ((linesOf (unifyNewlines text)).take l).flatten.length) =
      column + ((linesOf text).take l).flatten.length := by
  obtain ⟨before, after, whole, cut, closed, front⟩ := lineParts inside
  have unified : ((linesOf (unifyNewlines text)).take l).flatten = unifyNewlines before := by
    obtain ⟨lines, open_⟩ := @closedUnified [] (by simp) before
    have all := wholeClosedOpen (unifyNewlines before)
    rwa [lines, open_, cut.closed, closed, List.reverse_nil, List.append_nil, List.map_take, ← linesUnified] at all
  have place : placeIn (before ++ (trimNewline (linesOf text)[l] ++ after)) (column + (unifyNewlines before).length) =
      column + before.length := by
    rw [Nat.add_comm, placeAdd, placeWhole cut.whole, List.drop_left,
      placeFree (lineContent text _ (List.getElem_mem inside)) short, Nat.add_comm]
  rw [unified, ← front]
  rwa [← whole] at place

end Document

end AccessFix
