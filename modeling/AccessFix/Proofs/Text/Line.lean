import AccessFix.Proofs.Document

/-! Lines of a text that is read up to a place: those that are closed there by their line breaks, and the one that is still
open. Script texts know fewer line breaks than documents do; their lines and columns are counted beside. -/
namespace AccessFix.Text

def Splits (before after : Letters) : Prop := before.getLast? = some (.char '\r') ∧ after.head? = some (.char '\n')

def closedFrom (line : Letters) : Letters → List Letters
  | [] => []
  | '\r' :: '\n' :: rest => (Letter.char '\n' :: '\r' :: line).reverse :: closedFrom [] rest
  | c :: rest => if isLineBreak c then (c :: line).reverse :: closedFrom [] rest else closedFrom (c :: line) rest

def openFrom (line : Letters) : Letters → Letters
  | [] => line
  | '\r' :: '\n' :: rest => openFrom [] rest
  | c :: rest => if isLineBreak c then openFrom [] rest else openFrom (c :: line) rest

theorem closedOpen (line cs : Letters) : (closedFrom line cs).flatten ++ (openFrom line cs).reverse = line.reverse ++ cs := by
  fun_induction closedFrom line cs with
  | case1 line => simp [openFrom]
  | case2 line rest ih => simp [openFrom, ih]
  | case3 line c rest other ends ih => simp [openFrom, ends, ih]
  | case4 line c rest other stays ih => simp [openFrom, stays, ih]

theorem wholeClosedOpen (cs : Letters) : (closedFrom [] cs).flatten ++ (openFrom [] cs).reverse = cs := closedOpen [] cs

theorem lengthClosedOpen (cs : Letters) : (openFrom [] cs).length + (closedFrom [] cs).flatten.length = cs.length := by
  have all := congrArg List.length (wholeClosedOpen cs)
  rw [List.length_append, List.length_reverse] at all
  omega

theorem openFree {line : Letters} (free : ∀ c ∈ line, isLineBreak c = false) (cs : Letters) :
    ∀ c ∈ openFrom line cs, isLineBreak c = false := by
  fun_induction openFrom line cs with
  | case1 line => exact free
  | case2 line rest ih => exact ih (by simp)
  | case3 line c rest other ends ih => exact ih (by simp)
  | case4 line c rest other stays ih => exact ih (List.forall_mem_cons.mpr ⟨by simpa using stays, free⟩)

theorem closedEnds (line cs : Letters) : ∀ l ∈ closedFrom line cs, ∃ body c, l = body ++ [c] ∧ isLineBreak c = true := by
  fun_induction closedFrom line cs with
  | case1 line => simp
  | case2 line rest ih =>
    exact List.forall_mem_cons.mpr ⟨⟨(Letter.char '\r' :: line).reverse, '\n', by simp, by decide⟩, ih⟩
  | case3 line c rest other ends ih => exact List.forall_mem_cons.mpr ⟨⟨line.reverse, c, by simp, ends⟩, ih⟩
  | case4 line c rest other stays ih => exact ih

theorem closedLast {cs : Letters} {front : List Letters} {line : Letters} (last : closedFrom [] cs = front ++ [line])
    (none : openFrom [] cs = []) : ∃ body c, cs = front.flatten ++ body ++ [c] ∧ line = body ++ [c] ∧ isLineBreak c = true := by
  obtain ⟨body, c, rfl, breaks⟩ := closedEnds [] cs line (by simp [last])
  refine ⟨body, c, ?_, rfl, breaks⟩
  rw [← wholeClosedOpen cs, none, last]
  simp

theorem splitsOther (front : Letters) {c : Letter} (other : c ≠ '\n') (rest : Letters) : ¬Splits front (c :: rest) :=
  fun splits => other (by simpa using splits.2)

theorem splitsTail {c : Letter} {rest after : Letters} (whole : ¬Splits (c :: rest) after) : ¬Splits rest after := by
  rintro ⟨last, head⟩
  exact whole ⟨by simp [List.getLast?_cons, last], head⟩

theorem splitsStep {c : Letter} {rest after : Letters} (whole : ¬Splits (c :: rest) after)
    (alone : ∀ tail, c = '\r' → rest = Letter.char '\n' :: tail → False) :
    ∀ tail, c = '\r' → rest ++ after = Letter.char '\n' :: tail → False := by
  rintro tail rfl same
  cases rest with
  | nil => exact whole ⟨rfl, by simp_all⟩
  | cons d rest => exact alone rest rfl (by simp_all)

theorem closedAppend (line before : Letters) {after : Letters} (whole : ¬Splits before after) :
    closedFrom line (before ++ after) = closedFrom line before ++ closedFrom (openFrom line before) after ∧
      openFrom line (before ++ after) = openFrom (openFrom line before) after := by
  fun_induction closedFrom line before with
  | case1 line => simp [openFrom]
  | case2 line rest ih => simp [closedFrom, openFrom, ih (splitsTail (splitsTail whole))]
  | case3 line c rest alone ends ih =>
    have still := splitsStep whole alone
    simp [closedFrom, openFrom, ends, ih (splitsTail whole)]
  | case4 line c rest alone stays ih =>
    have still := splitsStep whole alone
    simp [closedFrom, openFrom, stays, ih (splitsTail whole)]

theorem closedBreak (front : Letters) {c : Letter} (other : c ≠ '\n') (breaks : isLineBreak c = true) :
    closedFrom [] (front ++ [c]) = closedFrom [] front ++ [(openFrom [] front).reverse ++ [c]] := by
  rw [(closedAppend [] front (splitsOther front other [])).1]
  simp [closedFrom, breaks]

theorem linesClosed (line cs : Letters) :
    linesFrom line cs = closedFrom line cs ++ if (openFrom line cs).isEmpty then [] else [(openFrom line cs).reverse] := by
  fun_induction linesFrom line cs with
  | case1 line empty => simp [closedFrom, openFrom, empty]
  | case2 line filled => simp [closedFrom, openFrom, filled]
  | case3 line rest ih => simp [closedFrom, openFrom, ih]
  | case4 line c rest alone ends ih => simp [closedFrom, openFrom, ends, ih]
  | case5 line c rest alone stays ih => simp [closedFrom, openFrom, stays, ih]

theorem linesAppend (line before : Letters) {after : Letters} (whole : ¬Splits before after) :
    linesFrom line (before ++ after) = closedFrom line before ++ linesFrom (openFrom line before) after := by
  obtain ⟨closed, open_⟩ := closedAppend line before whole
  rw [linesClosed, linesClosed (openFrom line before), closed, open_, List.append_assoc]

theorem linesFromHead {line cs : Letters} (some : line ≠ [] ∨ cs ≠ []) :
    ∃ more rest, linesFrom line cs = (line.reverse ++ more) :: rest := by
  fun_induction linesFrom line cs with
  | case1 line empty => simp_all
  | case2 line filled => exact ⟨[], [], by simp⟩
  | case3 line rest ih => exact ⟨['\r', '\n'], linesFrom [] rest, by simp⟩
  | case4 line c rest alone ends ih => exact ⟨[c], linesFrom [] rest, by simp⟩
  | case5 line c rest alone stays ih =>
    obtain ⟨more, others, same⟩ := ih (.inl (by simp))
    exact ⟨c :: more, others, by simp [same]⟩

theorem innerKept {c : Letter} (inner : isLineBreak c = false) : c ≠ '\n' ∧ c ≠ '\r' := by
  constructor
  · rintro rfl
    cases inner
  · rintro rfl
    cases inner

theorem trimNewlineOpen {line : Letters} (free : ∀ c ∈ line, isLineBreak c = false) (more : Letters) :
    line.length ≤ (trimNewline (line.reverse ++ more)).length := by
  have stays : (line.dropWhile fun c : Letter => c = '\n' || c = '\r') = line := by
    cases line with
    | nil => rfl
    | cons c line =>
      obtain ⟨feed, return_⟩ := innerKept (free c (by simp))
      simp [feed, return_]
  simp only [trimNewline, List.reverse_append, List.reverse_reverse, List.length_reverse, List.dropWhile_append]
  split
  · rw [stays]
  · simp

theorem trimNewlineKept {body : Letters} {c : Letter} (feed : c ≠ '\n') (return_ : c ≠ '\r') :
    trimNewline (body ++ [c]) = body ++ [c] := by
  simp [trimNewline, feed, return_]

theorem trimNewlineDropped {c : Letter} (newline : c = '\n' ∨ c = '\r') (body : Letters) :
    trimNewline (body ++ [c]) = trimNewline body := by
  simp [trimNewline, newline]

def isSeparator (c : Letter) : Bool := c.code == 0x2028 || c.code == 0x2029

def isScriptBreak (c : Letter) : Bool := c = '\n' || c = '\r' || isSeparator c

/-- Whether a character breaks lines in a document and none in a script. -/
def isForeignBreak (c : Letter) : Bool := isLineBreak c && !isScriptBreak c

def scriptBreaks : Letters → Nat
  | [] => 0
  | '\r' :: '\n' :: rest => scriptBreaks rest + 1
  | c :: rest => scriptBreaks rest + if isScriptBreak c then 1 else 0

def sinceBreak (cs : Letters) : Nat := (cs.reverse.takeWhile fun c => !isScriptBreak c).length

theorem scriptBreakBreaks {c : Letter} (script : isScriptBreak c = true) : isLineBreak c = true := by
  simp only [isScriptBreak, isSeparator, Bool.or_eq_true, decide_eq_true_eq, beq_iff_eq] at script
  rcases script with (rfl | rfl) | separator | separator
  · decide
  · decide
  · simp [isLineBreak, separator]
  · simp [isLineBreak, separator]

theorem foreignKept {c : Letter} (foreign : isForeignBreak c = true) : c ≠ '\n' ∧ c ≠ '\r' := by
  constructor
  · rintro rfl
    cases foreign
  · rintro rfl
    cases foreign

theorem closedForeign (front : Letters) {c : Letter} (foreign : isForeignBreak c = true) :
    closedFrom [] (front ++ [c]) = closedFrom [] front ++ [(openFrom [] front).reverse ++ [c]] := by
  rw [isForeignBreak, Bool.and_eq_true] at foreign
  exact closedBreak front (foreignKept (by rwa [isForeignBreak, Bool.and_eq_true])).1 foreign.1

theorem closedCount (line cs : Letters) : (closedFrom line cs).length = scriptBreaks cs + cs.countP isForeignBreak := by
  fun_induction closedFrom line cs with
  | case1 line => simp [scriptBreaks]
  | case2 line rest ih =>
    have return_ : isForeignBreak '\r' = false := by decide
    have feed : isForeignBreak '\n' = false := by decide
    simp [scriptBreaks, return_, feed, ih]
    omega
  | case3 line c rest alone ends ih =>
    cases script : isScriptBreak c <;> simp [scriptBreaks, isForeignBreak, ends, script, ih] <;> omega
  | case4 line c rest alone stays ih =>
    have plain : isScriptBreak c = false := by
      cases script : isScriptBreak c with
      | false => rfl
      | true => exact absurd (scriptBreakBreaks script) stays
    simp [scriptBreaks, isForeignBreak, stays, plain, ih]

theorem closedPlain {cs : Letters} (plain : ∀ c ∈ cs, isForeignBreak c = false) :
    (closedFrom [] cs).length = scriptBreaks cs := by
  have none : cs.countP isForeignBreak = 0 := List.countP_eq_zero.mpr (by simpa using plain)
  rw [closedCount, none, Nat.add_zero]

theorem sinceBreakLast (front : Letters) (x : Letter) :
    sinceBreak (front ++ [x]) = if isScriptBreak x then 0 else sinceBreak front + 1 := by
  cases script : isScriptBreak x <;> simp [sinceBreak, script]

theorem sinceBreakOpen {cs : Letters} (plain : ∀ c ∈ cs, isForeignBreak c = false) :
    sinceBreak cs = (openFrom [] cs).length := by
  have all := wholeClosedOpen cs
  have free : ∀ c ∈ openFrom [] cs, (!isScriptBreak c) = true := by
    intro c mem
    by_contra script
    have breaks := scriptBreakBreaks (by simpa using script)
    rw [openFree (by simp) cs c mem] at breaks
    contradiction
  have stop : ((closedFrom [] cs).flatten.reverse.takeWhile fun c => !isScriptBreak c) = [] := by
    rcases List.eq_nil_or_concat' (closedFrom [] cs) with none | ⟨front, l, last⟩
    · simp [none]
    · obtain ⟨body, c, rfl, breaks⟩ := closedEnds [] cs l (by simp [last])
      have mem : c ∈ cs := by
        rw [← all, last]
        simp
      have script : isScriptBreak c = true := by simpa [isForeignBreak, breaks] using plain c mem
      simp [last, script]
  have backwards : cs.reverse = openFrom [] cs ++ (closedFrom [] cs).flatten.reverse := by
    calc cs.reverse = ((closedFrom [] cs).flatten ++ (openFrom [] cs).reverse).reverse := by rw [all]
      _ = openFrom [] cs ++ (closedFrom [] cs).flatten.reverse := by rw [List.reverse_append, List.reverse_reverse]
  rw [sinceBreak, backwards, List.takeWhile_append_of_pos free, stop, List.append_nil]

end AccessFix.Text
