import AccessFix.Proofs.Edit.Single
import AccessFix.Proofs.Text.Cut

/-! What one replacement leaves of the lines around it. Lines above keep their places; at most the break behind the last of them
grows by a line feed that the new text, or what comes after it, begins with. Lines below stay whole and move together. -/
namespace AccessFix
open Text WorkspaceEdit

namespace Text

theorem closedGrows {before : Letters} {first : List Letters} {line : Letters}
    (closed : closedFrom [] before = first ++ [line]) (after : Letters) :
    ∃ line' rest, closedFrom [] (before ++ after) = first ++ line' :: rest ∧ trimNewline line' = trimNewline line := by
  by_cases splits : Splits before after
  · -- the line feed that follows joins the carriage return that closes the last line
    obtain ⟨front, rfl⟩ := List.getLast?_eq_some_iff.mp splits.1
    obtain ⟨tail, rfl⟩ := List.head?_eq_some_iff.mp splits.2
    obtain ⟨rfl, same⟩ := List.append_inj' ((closedBreak front (by decide) (by decide)).symm.trans closed) rfl
    obtain rfl : (openFrom [] front).reverse ++ [Letter.char '\r'] = line := List.singleton_inj.mp same
    refine ⟨(openFrom [] front).reverse ++ [Letter.char '\r'] ++ [Letter.char '\n'], closedFrom [] tail, ?_, trimNewlineDropped (.inl rfl) _⟩
    rw [List.append_assoc, List.singleton_append, (closedAppend [] front (splitsOther front (by decide) (Letter.char '\n' :: tail))).1]
    simp [closedFrom]
  · exact ⟨line, closedFrom (openFrom [] before) after, by simp [(closedAppend [] before splits).1, closed], rfl⟩

end Text

namespace Document

variable {d d' : Document} {before after other : Letters}

theorem placeOn {l : Nat} (inside : l < d.lines.length) (character : Number) :
    d.place ⟨.int l, character⟩ = if character.less 0 then .error (.negative ⟨.int l, character⟩ d.path)
      else .ok (some (offsetIn d.lines l character)) := by
  have forward : (Number.int l).less 0 = false := (Number.lessInt l 0).trans (decide_eq_false (by omega))
  have before : (Number.int d.lines.length).atMost (.int l) = false := by
    rw [Number.atMostInt, decide_eq_false_iff_not]
    omega
  simp [place, forward, before]

theorem linesAbove {before : Letters} {first : List Letters} {line : Letters}
    (closed : closedFrom [] before = first ++ [line]) (after : Letters) :
    ∃ line' rest, linesOf (before ++ after) = first ++ line' :: rest ∧ trimNewline line' = trimNewline line := by
  obtain ⟨line', rest, grown, content⟩ := closedGrows closed after
  obtain ⟨tail, parts, _⟩ := linesTail (before ++ after)
  exact ⟨line', rest ++ tail, by rw [parts, grown, List.append_assoc, List.cons_append], content⟩

structure Kept (d d' : Document) (l : Nat) : Prop where
  content : ∃ line line', d.lines[l]? = some line ∧ d'.lines[l]? = some line' ∧ trimNewline line' = trimNewline line
  offset : ∀ character, d'.offsetAt ⟨.int l, character⟩ = d.offsetAt ⟨.int l, character⟩

theorem keptAlike {first rest rest' : List Letters} {line line' : Letters} (parts : d.lines = first ++ line :: rest)
    (parts' : d'.lines = first ++ line' :: rest') (content : trimNewline line' = trimNewline line) (path : d'.path = d.path)
    {l : Nat} (above : l ≤ first.length) : Kept d d' l := by
  have starts : d'.lines.take l = d.lines.take l := by
    rw [parts, parts', List.take_append_of_le_length above, List.take_append_of_le_length above]
  obtain ⟨k, k', there, there', same⟩ :
      ∃ k k', d.lines[l]? = some k ∧ d'.lines[l]? = some k' ∧ trimNewline k' = trimNewline k := by
    rw [parts, parts']
    rcases above.lt_or_eq with earlier | rfl
    · rw [List.getElem?_append_left earlier, List.getElem?_append_left earlier, List.getElem?_eq_getElem earlier]
      exact ⟨_, _, rfl, rfl, rfl⟩
    · exact ⟨line, line', by simp, by simp, content⟩
  obtain ⟨inside, -⟩ := List.getElem?_eq_some_iff.mp there
  obtain ⟨inside', -⟩ := List.getElem?_eq_some_iff.mp there'
  refine ⟨⟨k, k', there, there', same⟩, fun character => ?_⟩
  have offset : offsetIn d'.lines l character = offsetIn d.lines l character := by
    simp only [offsetIn, starts, there, there', Option.getD_some, same]
  simp only [offsetAt, placeOn inside, placeOn inside', offset, path]
  split <;> rfl

def Moved (d d' : Document) (l : Nat) : Prop :=
  ∃ l' : Nat, (l' : Int) = l + ((d'.lineCount : Int) - d.lineCount) ∧ d'.lines[l']? = d.lines[l]?

theorem closedNewline {text : Letters} {front : List Letters} {line : Letters} (last : closedFrom [] text = front ++ [line])
    (none : openFrom [] text = []) (plain : ∀ c ∈ text, isLineBreak c = true → c = '\n' ∨ c = '\r') :
    front.flatten.length + (trimNewline line).length < text.length ∧ ∃ c, text.getLast? = some c ∧ (c = '\n' ∨ c = '\r') := by
  obtain ⟨body, c, whole, rfl, breaks⟩ := closedLast last none
  have newline : c = '\n' ∨ c = '\r' := plain c (by simp [whole]) breaks
  refine ⟨?_, c, by rw [whole, List.getLast?_concat], newline⟩
  have short := trimNewlineLength body
  rw [trimNewlineDropped newline, whole, List.length_append, List.length_append, List.length_singleton]
  omega

theorem lastLineNewline {c : Letter} (last : before.getLast? = some c) (newline : c = '\n' ∨ c = '\r') :
    lastLine before = [[]] := by
  simp [lastLine, last, newline]

theorem cutAlike (cut : Cut before after) {c : Letter} (last : before.getLast? = some c) (last' : other.getLast? = some c)
    (newline : c = '\n' ∨ c = '\r') : Cut other after := by
  have breaks : isLineBreak c = true := by rcases newline with rfl | rfl <;> decide
  refine ⟨?_, ?_⟩
  · rw [Splits, last', ← last]
    exact cut.whole
  · obtain ⟨front, rfl⟩ := List.getLast?_eq_some_iff.mp last'
    exact openEnds [] front breaks

theorem linesBelow (text : d.text = before ++ after) (text' : d'.text = other ++ after) (cut : Cut before after) {c : Letter}
    (last : before.getLast? = some c) (last' : other.getLast? = some c) (newline : c = '\n' ∨ c = '\r') {l : Nat}
    (below : (closedFrom [] before).length ≤ l) : Moved d d' l := by
  have parts : d.lines = closedFrom [] before ++ linesOf after := by
    rw [lines, text, linesOfCut cut (.inr (lastLineNewline last newline))]
  have parts' : d'.lines = closedFrom [] other ++ linesOf after := by
    rw [lines, text', linesOfCut (cutAlike cut last last' newline) (.inr (lastLineNewline last' newline))]
  obtain ⟨k, rfl⟩ := Nat.exists_eq_add_of_le below
  refine ⟨(closedFrom [] other).length + k, ?_, ?_⟩
  · simp only [lineCount, parts, parts', List.length_append]
    push_cast
    omega
  · rw [parts, parts', List.getElem?_append_right (by omega), List.getElem?_append_right (by omega),
      Nat.add_sub_cancel_left, Nat.add_sub_cancel_left]

variable {first last : Nat} {text : Letters}

theorem replacedAbove {p : Position} (start : d.offsetAt p = .ok (.int first))
    (renewed : d' = { d with text := d.text.take first ++ text ++ d.text.drop last }) :
    ∃ top : Nat, p.line = .int top ∧ ∀ l < top, Kept d d' l := by
  obtain ⟨top, column, given, inside, -, rfl⟩ := offsetOnLine start
  obtain ⟨before, after, whole, cut, closed, -⟩ := linesAt inside
  rw [← lines] at closed
  have length : before.length = (d.lines.take top).flatten.length := by
    have all := lengthClosedOpen before
    rwa [cut.closed, closed, List.length_nil, Nat.zero_add, eq_comm] at all
  refine ⟨top, given, fun l above => ?_⟩
  have kept : d.text.take (column + (d.lines.take top).flatten.length) = before ++ after.take column := by
    rw [whole, ← length, Nat.add_comm, List.take_length_add_append]
  have text' : d'.text = before ++ (after.take column ++ (text ++ d.text.drop last)) := by
    rw [renewed, kept, List.append_assoc, List.append_assoc]
  obtain ⟨k, rfl⟩ := Nat.exists_eq_succ_of_ne_zero (Nat.ne_zero_of_lt above)
  have earlier : k < d.lines.length := Nat.lt_of_succ_lt inside
  rw [Nat.succ_eq_add_one, List.take_succ_eq_append_getElem earlier] at closed
  obtain ⟨_, _, parts, content⟩ := linesAbove closed after
  obtain ⟨_, _, parts', content'⟩ := linesAbove closed (after.take column ++ (text ++ d.text.drop last))
  rw [← whole] at parts
  rw [← text'] at parts'
  refine keptAlike parts parts' (content'.trans content.symm) (by rw [renewed]) ?_
  rw [List.length_take_of_le earlier.le]
  exact Nat.le_of_lt_succ above

theorem replacedBelow {p : Position} (stop : d.offsetAt p = .ok (.int last))
    (plain : ∀ c ∈ d.text, isLineBreak c = true → c = '\n' ∨ c = '\r')
    (renewed : d' = { d with text := d.text.take first ++ text ++ d.text.drop last }) :
    ∃ bottom : Nat, p.line = .int bottom ∧ ∀ l, bottom < l → l < d.lineCount → Moved d d' l := by
  obtain ⟨bottom, column, given, inside, content, rfl⟩ := offsetOnLine stop
  refine ⟨bottom, given, fun l below counted => ?_⟩
  obtain ⟨before, after, whole, cut, closed, -⟩ := linesAt (lt_of_le_of_lt (Nat.succ_le_of_lt below) counted)
  rw [← lines, Nat.succ_eq_add_one, List.take_succ_eq_append_getElem inside] at closed
  obtain ⟨short, c, ends, newline⟩ := closedNewline closed cut.closed fun c mem => plain c (by simp [whole, mem])
  have stops : column + (d.lines.take bottom).flatten.length < before.length := by
    rw [List.getElem?_eq_getElem inside, Option.getD_some] at content
    omega
  have text' : d'.text = d.text.take first ++ text ++ before.drop (column + (d.lines.take bottom).flatten.length) ++ after := by
    rw [renewed, List.append_assoc _ _ after, ← List.drop_append_of_le_length stops.le, ← whole]
  refine linesBelow whole text' cut ends ?_ newline ?_
  · rw [List.getLast?_append_of_ne_nil _ (by simpa using stops), List.getLast?_drop, if_neg (by omega), ends]
  · rw [closed, List.length_append, List.length_take_of_le inside.le, List.length_singleton]
    exact below

end Document

/-- One replacement keeps the lines above the first one that it touches and moves those below the last one. -/
theorem editLocal {w w' : Workspace} (r : Replacement w.buffers) {save : Bool}
    (ok : (collect [r]).apply save w = (.ok (), w')) {d : Document} (opened : w.buffers[(r.document : Nat)]? = some d)
    (plain : ∀ c ∈ d.text, isLineBreak c = true → c = '\n' ∨ c = '\r') :
    ∃ (d' : Document) (first last : Nat), w'.buffers[(r.document : Nat)]? = some d' ∧
      r.edit.range.start.line = .int first ∧ r.edit.range.stop.line = .int last ∧ (∀ l < first, Document.Kept d d' l) ∧
      ∀ l, last < l → l < d.lineCount → Document.Moved d d' l := by
  obtain ⟨jobs, applied⟩ := applyOk ok
  obtain ⟨job, rest, ⟨document, texted⟩, nothing, rfl⟩ := List.forall₂_cons_left_iff.mp applied.texts
  obtain rfl := List.forall₂_nil_left_iff.mp nothing
  obtain ⟨a, b, covers, spliced⟩ := (newTextSingle opened rfl).mp texted
  have after : w'.buffers[(r.document : Nat)]? = some { d with text := job.2 } := by
    have same : job.1 = r.document := document
    rw [applied.buffers, ← same, setTextsAt (by simp) (List.mem_singleton_self job), same, opened, Option.map_some]
  rw [spliced] at after
  obtain ⟨first, start, above⟩ := Document.replacedAbove covers.start rfl
  obtain ⟨last, stop, below⟩ := Document.replacedBelow covers.stop plain rfl
  exact ⟨_, first, last, after, start, stop, above, below⟩

def brief (text : Letters) : Document := ⟨"/p/A.jsx", text, "javascriptreact", "file"⟩

def briefOpen : Workspace where
  files := { nodes := [(["p"], .folder), (["p", "A.jsx"], .file [97])], here := ["p"] }
  buffers := [brief ['a', '\r', 'b', '\n', 'c']]

def briefEdit : Replacement briefOpen.buffers := ⟨⟨0, Nat.zero_lt_one⟩, ⟨⟨.ofInts 1 0, .ofInts 1 1⟩, []⟩⟩

theorem briefJoined : ∃ w', (collect [briefEdit]).apply true briefOpen = (.ok (), w') ∧
    w'.buffers[0]? = some (brief ['a', '\r', '\n', 'c']) ∧
    Document.Kept (brief ['a', '\r', 'b', '\n', 'c']) (brief ['a', '\r', '\n', 'c']) 0 ∧
    (brief ['a', '\r', '\n', 'c']).lines[1]? = some [Letter.char 'c'] := by
  have ok : (collect [briefEdit]).apply true briefOpen = (.ok (), ((collect [briefEdit]).apply true briefOpen).2) :=
    Prod.ext (by decide) rfl
  have now : ((collect [briefEdit]).apply true briefOpen).2.buffers[0]? = some (brief ['a', '\r', '\n', 'c']) := by decide
  have plain : ∀ c ∈ (brief ['a', '\r', 'b', '\n', 'c']).text, isLineBreak c = true → c = '\n' ∨ c = '\r' := by
    decide
  obtain ⟨d', first, last, after, start, stop, above, below⟩ := editLocal briefEdit ok rfl plain
  obtain rfl : brief ['a', '\r', '\n', 'c'] = d' := Option.some.inj (now.symm.trans after)
  obtain rfl : 1 = first := by exact_mod_cast (Number.int.inj start : (1 : Int) = first)
  obtain rfl : 1 = last := by exact_mod_cast (Number.int.inj stop : (1 : Int) = last)
  obtain ⟨l', moved, same⟩ := below 2 (by decide) (by decide)
  obtain rfl : l' = 1 := by
    have counts : (brief ['a', '\r', '\n', 'c']).lineCount = 2 ∧ (brief ['a', '\r', 'b', '\n', 'c']).lineCount = 3 := by decide
    rw [counts.1, counts.2] at moved
    omega
  exact ⟨_, ok, now, above 0 (by decide), same.trans (by decide)⟩

end AccessFix
