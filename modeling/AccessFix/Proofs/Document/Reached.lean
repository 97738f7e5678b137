import AccessFix.Proofs.Document.Offset
import AccessFix.Proofs.Edit.Apply
import AccessFix.Proofs.Text.Unified

/-! Places of a text that positions reach. A position on one of the lines leads to a place that is not inside a carriage return
with its line feed, and there is a position for every such place. So replacements leave those two together. -/
namespace AccessFix
open Text Fallible

namespace Document

variable {d : Document}

structure Whole (text : Letters) (o : Nat) : Prop where
  inside : o ≤ text.length
  unsplit : ¬Splits (text.take o) (text.drop o)

theorem wholeCut {before after : Letters} (whole : ¬Splits before after) : Whole (before ++ after) before.length :=
  ⟨by simp, by rwa [List.take_left, List.drop_left]⟩

theorem spotWhole {l : Nat} (counted : l < d.lineCount) (column : Nat) : Whole d.text (d.spot l column) := by
  have inside : l < (linesOf d.text).length := counted
  obtain ⟨before, after, whole, cut, -, front⟩ := lineParts inside
  have content : Letter.char '\r' ∉ trimNewline (linesOf d.text)[l] := lineContent d.text _ (List.getElem_mem inside)
  have width : d.lineWidth l = (trimNewline (linesOf d.text)[l]).length := by
    rw [lineWidth, lines, List.getElem?_eq_getElem inside, Option.getD_some]
  generalize trimNewline (linesOf d.text)[l] = line at whole cut content width
  have free : Letter.char '\r' ∉ line.take column := fun mem => content (List.mem_of_mem_take mem)
  have parts : line ++ after = line.take column ++ (line.drop column ++ after) := by
    rw [← List.append_assoc, List.take_append_drop]
  have unsplit : ¬Splits (before ++ line.take column) (line.drop column ++ after) :=
    splitsBehind (parts ▸ cut.whole) (splitsFree free _)
  have length : (before ++ line.take column).length = d.spot l column := by
    rw [List.length_append, List.length_take, spot, width, front, lineStart, lines, Nat.add_comm]
  have reached := wholeCut unsplit
  rwa [length, List.append_assoc, ← parts, ← whole] at reached

theorem offsetWhole {p : Position} {o : Nat} (placed : d.offsetAt p = .ok (.int o)) : Whole d.text o := by
  obtain ⟨l, column, -, inside, short, rfl⟩ := offsetOnLine placed
  have whole := spotWhole inside column
  rwa [spot, lineWidth, Nat.min_eq_left short] at whole

theorem wholeEnd (soft : EndsSoft d.text) : ∃ l column : Nat, d.offsetAt (.ofInts l column) = .ok (.int d.text.length) := by
  obtain ⟨none, nothing⟩ := endsSoft.mp soft
  obtain ⟨c, last, breaks, feed, return_⟩ := soft
  obtain ⟨front, parts⟩ := List.getLast?_eq_some_iff.mp last
  have closed := closedBreak front feed breaks
  have lines : d.lines = closedFrom [] front ++ [(openFrom [] front).reverse ++ [c]] := by
    rw [Document.lines, linesOfLast, Text.lines, linesClosed, none, nothing, parts, closed]
    simp
  refine ⟨_, _, (offsetOn lines ((openFrom [] front).length + 1)).trans ?_⟩
  have length := lengthClosedOpen front
  rw [trimNewlineKept feed return_, parts]
  simp only [List.length_append, List.length_reverse, List.length_singleton, min_self, Except.ok.injEq, Number.int.injEq]
  omega

theorem wholeReached {o : Nat} (whole : Whole d.text o) : ∃ l column : Nat, d.offsetAt (.ofInts l column) = .ok (.int o) := by
  have text : d.text = d.text.take o ++ d.text.drop o := (List.take_append_drop o d.text).symm
  have length : (d.text.take o).length = o := List.length_take_of_le whole.inside
  by_cases rest : openFrom [] (d.text.take o) ≠ [] ∨ d.text.drop o ≠ []
  · have found := offsetOpen text whole.unsplit rest
    rw [length] at found
    exact ⟨_, _, found⟩
  · obtain ⟨none, stop⟩ : openFrom [] (d.text.take o) = [] ∧ d.text.drop o = [] := by simpa [not_or] using rest
    rw [List.drop_eq_nil_iff] at stop
    obtain rfl := le_antisymm whole.inside stop
    rw [List.take_length] at none
    rcases lastLineEither d.text with nothing | line
    · exact wholeEnd (endsSoft.mpr ⟨none, nothing⟩)
    · exact ⟨_, _, offsetLast none line⟩

def places (d : Document) : Set Number :=
  {o | ∃ line column : Int, 0 ≤ line ∧ line < d.lineCount ∧ 0 ≤ column ∧ d.offsetAt (.ofInts line column) = .ok o}

theorem strictInts {line column : Int} (first : 0 ≤ line) (counted : line < d.lineCount) (second : 0 ≤ column) :
    ∃ l c : Nat, l < d.lineCount ∧ line = l ∧ column = c ∧ d.offsetAt (.ofInts line column) = .ok (.int (d.spot l c)) := by
  obtain ⟨l, rfl⟩ := Int.eq_ofNat_of_zero_le first
  obtain ⟨c, rfl⟩ := Int.eq_ofNat_of_zero_le second
  have inside : l < d.lineCount := by exact_mod_cast counted
  exact ⟨l, c, inside, rfl, rfl, by rw [offsetAtNat, if_pos inside]⟩

theorem placesWhole (d : Document) : d.places = {o | ∃ n : Nat, o = .int n ∧ Whole d.text n} := by
  ext o
  constructor
  · rintro ⟨line, column, first, counted, second, placed⟩
    obtain ⟨l, c, inside, -, -, found⟩ := strictInts first counted second
    rw [placed, Except.ok.injEq] at found
    exact ⟨d.spot l c, found, spotWhole inside c⟩
  · rintro ⟨n, rfl, whole⟩
    obtain ⟨l, column, found⟩ := wholeReached whole
    have counted : l < d.lineCount := by
      by_contra beyond
      rw [offsetAtNat, if_neg beyond] at found
      cases found
    exact ⟨l, column, by omega, by omega, by omega, found⟩

/-! What an edit replaces. -/

theorem splitsAt {text : Letters} {k : Nat} (back : text[k]? = some (Letter.char '\r')) (feed : text[k + 1]? = some (Letter.char '\n')) :
    Splits (text.take (k + 1)) (text.drop (k + 1)) := by
  refine ⟨?_, by rwa [List.head?_drop]⟩
  rw [List.getLast?_take, if_neg (Nat.succ_ne_zero k), Nat.add_sub_cancel, back, Option.some_or]

theorem coversPair {r : Range} {first last : Nat} (covers : Covers d r first last) {k : Nat} (back : d.text[k]? = some (Letter.char '\r'))
    (feed : d.text[k + 1]? = some (Letter.char '\n')) : last ≤ k ∨ k + 2 ≤ first ∨ first ≤ k ∧ k + 2 ≤ last := by
  have whole : ∀ o, Whole d.text o → o ≠ k + 1 := by
    rintro _ whole rfl
    exact whole.unsplit (splitsAt back feed)
  have start := whole first (offsetWhole covers.start)
  have stop := whole last (offsetWhole covers.stop)
  omega

theorem newTextCovers {buffers : Buffers} {g : EditGroup} (opened : buffers[g.buffer]? = some d) {text : Letters}
    (made : g.newText buffers = .ok text) : ∀ edit ∈ g.edits, ∃ first last, Covers d edit.range first last := by
  intro edit mem
  obtain ⟨splices, resolved, apart, -⟩ := (EditGroup.newTextOk opened).mp made
  obtain ⟨s, there, placed⟩ := pairedRight resolved mem
  have ordered := (Splice.apartPairwise.mp apart).1 s (List.mem_mergeSort.mpr there)
  exact ⟨s.start, s.stop, placed.start, placed.stop, ordered.2⟩

/-- Positions on the lines of a document lead to every place in its text but those inside a carriage return with its line feed.
What an edit replaces has both of these or none of them, and nothing comes between them. -/
theorem placesReached (d : Document) :
    d.places = {o | ∃ n : Nat, o = .int n ∧ Whole d.text n} ∧
    (∀ line column : Int, 0 ≤ line → line < d.lineCount → 0 ≤ column → ∃ o ∈ d.places, d.offsetAt (.ofInts line column) = .ok o) ∧
    ∀ (e : WorkspaceEdit) (save : Bool) (w w' : Workspace), e.apply save w = (.ok (), w') →
      ∀ g ∈ e, w.buffers[g.buffer]? = some d → ∀ edit ∈ g.edits, ∃ first last, Covers d edit.range first last ∧
        ∀ k, d.text[k]? = some (Letter.char '\r') → d.text[k + 1]? = some (Letter.char '\n') → last ≤ k ∨ k + 2 ≤ first ∨ first ≤ k ∧ k + 2 ≤ last := by
  refine ⟨placesWhole d, ?_, ?_⟩
  · intro line column first counted second
    obtain ⟨l, c, -, -, -, found⟩ := strictInts first counted second
    exact ⟨_, ⟨line, column, first, counted, second, found⟩, found⟩
  · intro e save w w' applied g mem opened edit asked
    obtain ⟨jobs, done⟩ := applyOk applied
    obtain ⟨job, -, texted⟩ := pairedRight done.texts mem
    obtain ⟨first, last, covers⟩ := newTextCovers opened texted.text edit asked
    exact ⟨first, last, covers, fun k => coversPair covers⟩

theorem leafReached : .int 5 ∈ leaf.places ∧ .int 2 ∉ leaf.places := by
  rw [(placesReached leaf).1]
  refine ⟨⟨5, rfl, by decide, by simp [leaf, Splits]⟩, ?_⟩
  rintro ⟨n, same, whole⟩
  obtain rfl : 2 = n := by exact_mod_cast (Number.int.inj same : (2 : Int) = n)
  exact whole.unsplit ⟨rfl, rfl⟩

end Document

end AccessFix
