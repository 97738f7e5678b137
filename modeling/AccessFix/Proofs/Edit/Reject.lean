import AccessFix.Proofs.Edit.Apply

/-! Edits that fail. Buffers are as they were; a flaw in the replacements of any document, wherever it stands in the edit, is
found before anything is written, and nothing else is taken for one. -/
namespace AccessFix
open Fallible

/-! What is wrong with replacements. -/

namespace Splice

def Clash (a b : Splice) : Prop := if a.start ≤ b.start then b.start < a.stop else a.start < b.stop

theorem apartInOrder {splices : List Splice} :
    Apart 0 (inOrder splices) ↔ (∀ s ∈ splices, s.start ≤ s.stop) ∧ splices.Pairwise fun a b => ¬Clash a b := by
  rw [apartPairwise, Sorting.stablePairwise (inOrderStable splices)]
  refine and_congr ?_ ?_
  · simp only [Sorting.stableMem (inOrderStable splices), Nat.zero_le, true_and]
  · refine iff_of_eq (congrArg (List.Pairwise · splices) ?_)
    funext a b
    simp only [Clash, Nat.cast_le]
    split <;> simp

end Splice

def Range.Ends (r : Range) (p : Position) : Prop := p = r.start ∨ p = r.stop

inductive Flaw (d : Document) (edits : List TextEdit) : EditFault → Prop where
  | negative {e p} (mem : e ∈ edits) (side : e.range.Ends p) (below : p.Negative) :
      Flaw d edits (.position (.negative p d.path))
  | beyond {e p} (mem : e ∈ edits) (side : e.range.Ends p) (after : (Number.int d.lineCount).atMost p.line = true) :
      Flaw d edits (.position (.beyondLines p.line d.path d.lineCount))
  | inverted {e s} (mem : e ∈ edits) (resolved : Splice.Resolved d e s) (order : s.stop < s.start) :
      Flaw d edits (.overlap d.path)
  | clash {e e' s s'} (both : [e, e'].Sublist edits) (first : Splice.Resolved d e s) (second : Splice.Resolved d e' s')
      (clash : s.Clash s') : Flaw d edits (.overlap d.path)

def TextEdit.Whole (e : TextEdit) : Prop := ∀ p, e.range.Ends p → p.Whole

namespace EditGroup
open Splice

theorem flawRejects {buffers : Buffers} {g : EditGroup} {d : Document} (opened : buffers[g.buffer]? = some d)
    {f : EditFault} (flaw : Flaw d g.edits f) (text : Letters) : g.newText buffers ≠ .ok text := by
  intro ok
  obtain ⟨splices, resolved, apart, _⟩ := (newTextOk opened).mp ok
  obtain ⟨forward, pairs⟩ := apartInOrder.mp apart
  have counted : ∀ e ∈ g.edits, ∀ p, e.range.Ends p → ∃ o, d.offsetAt p = .ok o := by
    intro e mem p side
    obtain ⟨s, _, placed⟩ := pairedRight resolved mem
    rcases side with rfl | rfl
    · exact ⟨_, placed.start⟩
    · exact ⟨_, placed.stop⟩
  cases flaw with
  | @negative e p mem side below =>
    obtain ⟨o, ok⟩ := counted e mem p side
    exact (Document.offsetAtForward ok).1 below
  | @beyond e p mem side after =>
    obtain ⟨o, ok⟩ := counted e mem p side
    have inside := (Document.offsetAtForward ok).2
    rw [after] at inside
    contradiction
  | @inverted e s mem placed order =>
    obtain ⟨t, there, placed'⟩ := pairedRight resolved mem
    have ordered := forward t there
    rw [resolvedOne d placed' placed] at ordered
    omega
  | @clash e e' s s' both first second clash =>
    rw [pairedPairwise (resolvedOne d) resolved, List.pairwise_iff_forall_sublist] at pairs
    exact pairs both s s' first second clash

theorem spansWhole {d : Document} {edits : List TextEdit} (whole : ∀ e ∈ edits, e.Whole) {spans : List Span}
    (made : edits.mapM (Span.ofEdit d) = .ok spans) :
    ∃ splices, List.Forall₂ (Resolved d) edits splices ∧ spans = splices.map toSpan := by
  have counted : ∀ e ∈ edits, ∀ p, e.range.Ends p → ∀ o, d.offsetAt p = .ok o → ∃ n : Nat, o = .int n := by
    intro e mem p side o ok
    obtain ⟨line, character, rfl⟩ := whole e mem p side
    rcases Document.offsetAtInts d line character with ⟨n, int⟩ | ⟨f, failed, _⟩
    · exact ⟨n, Except.ok.inj (ok.symm.trans int)⟩
    · rw [ok] at failed
      cases failed
  -- on replacements and spans in pairs, of which each says for itself that its ends are integers
  have paired := (List.forall₂_and_left _ _).mpr ⟨counted, mapMOk.mp made⟩
  clear made whole counted
  induction paired with
  | nil => exact ⟨[], .nil, rfl⟩
  | @cons e span edits spans head tail ih =>
    obtain ⟨splices, resolved, rfl⟩ := ih
    obtain ⟨counted, made⟩ := head
    obtain ⟨start, first, made⟩ := bindOk.mp made
    obtain ⟨stop, last, made⟩ := bindOk.mp made
    obtain ⟨a, rfl⟩ := counted _ (.inl rfl) _ first
    obtain ⟨b, rfl⟩ := counted _ (.inr rfl) _ last
    obtain rfl := pureOk.mp made
    exact ⟨⟨a, b, e.newText⟩ :: splices, .cons ⟨first, last, rfl⟩ resolved, rfl⟩

theorem disorderFlaw {d : Document} {edits : List TextEdit} {splices : List Splice}
    (resolved : List.Forall₂ (Resolved d) edits splices) (disorder : ¬Apart 0 (inOrder splices)) :
    Flaw d edits (.overlap d.path) := by
  rw [apartInOrder, not_and_or] at disorder
  rcases disorder with inverted | clashing
  · push Not at inverted
    obtain ⟨s, there, order⟩ := inverted
    obtain ⟨e, mem, placed⟩ := pairedLeft resolved there
    exact .inverted mem placed order
  · rw [pairedPairwise (resolvedOne d) resolved, List.pairwise_iff_forall_sublist] at clashing
    push Not at clashing
    obtain ⟨e, e', both, s, s', first, second, clash⟩ := clashing
    exact .clash both first second clash

theorem rejectsFlaw {buffers : Buffers} {g : EditGroup} (whole : ∀ e ∈ g.edits, e.Whole) {f : EditFault}
    (failed : g.newText buffers = .error f) : ∃ d, buffers[g.buffer]? = some d ∧ Flaw d g.edits f := by
  simp only [newText] at failed
  split at failed
  · cases failed
  · rename_i d opened
    refine ⟨d, opened, ?_⟩
    split at failed
    · rename_i p made
      cases failed
      obtain ⟨e, mem, failed⟩ := mapMError made
      have side : ∃ q, e.range.Ends q ∧ d.offsetAt q = .error p := by
        rcases bindError.mp failed with start | ⟨_, _, failed⟩
        · exact ⟨_, .inl rfl, start⟩
        · rcases bindError.mp failed with stop | ⟨_, _, never⟩
          · exact ⟨_, .inr rfl, stop⟩
          · exact absurd never pureError
      obtain ⟨q, side, failed⟩ := side
      rcases Document.offsetAtFault (whole e mem q side) failed with ⟨below, rfl⟩ | ⟨after, rfl⟩
      · exact .negative mem side below
      · exact .beyond mem side after
    · rename_i spans made
      obtain ⟨splices, resolved, rfl⟩ := spansWhole whole made
      rw [sortSpans] at failed
      obtain rfl := @spliceOverlap d 0 _ f failed
      refine disorderFlaw resolved fun apart => ?_
      have accepted : d.splice 0 ((inOrder splices).map toSpan) = .ok (pass d.text 0 (inOrder splices)) :=
        spliceOk.mpr ⟨inOrder splices, rfl, apart, rfl⟩
      rw [accepted] at failed
      cases failed

end EditGroup

/-! How an edit fails. -/

theorem writeAllLate {buffers : Buffers} {files after : Files} {done : List BufferId} {jobs : List Job} {f : EditFault}
    (failed : writeAll buffers files done jobs = (.error f, after)) : ¬f.Early := by
  induction jobs generalizing files done with
  | nil => cases failed
  | cons job rest ih =>
    obtain ⟨id, text⟩ := job
    simp only [writeAll] at failed
    split at failed
    · exact ih failed
    · split at failed
      · exact ih failed
      · cases failed
        rintro ⟨⟩
      · split at failed
        · split at failed <;> cases failed <;> rintro ⟨⟩
        · cases failed
          rintro ⟨⟩

theorem applyError {e : WorkspaceEdit} {save : Bool} {w w' : Workspace} {f : EditFault}
    (failed : e.apply save w = (.error f, w')) :
    w'.buffers = w.buffers ∧ (f.Early → w' = w ∧ e.newTexts w.buffers = .error f) := by
  simp only [WorkspaceEdit.apply] at failed
  split at failed
  · rename_i made
    cases failed
    exact ⟨rfl, fun _ => ⟨rfl, made⟩⟩
  · split at failed
    · rename_i wrote
      cases failed
      refine ⟨rfl, fun early => ?_⟩
      split at wrote
      · exact absurd early (writeAllLate wrote)
      · cases wrote
    · cases failed

theorem newTextsRejects {buffers : Buffers} {e : WorkspaceEdit} {g : EditGroup} (mem : g ∈ e)
    (rejected : ∀ text, g.newText buffers ≠ .ok text) : ∃ f, e.newTexts buffers = .error f := by
  cases made : e.newTexts buffers with
  | error f => exact ⟨f, rfl⟩
  | ok jobs =>
    obtain ⟨job, _, texted⟩ := pairedRight (newTextsOk.mp made) mem
    exact absurd texted.text (rejected job.2)

theorem applyRejects (e : WorkspaceEdit) (save : Bool) (w : Workspace) :
    (∀ f w', e.apply save w = (.error f, w') → w'.buffers = w.buffers ∧ (f.Early → w' = w)) ∧
    (∀ g ∈ e, ∀ d f, w.buffers[g.buffer]? = some d → Flaw d g.edits f →
      ∃ f', f'.Early ∧ e.apply save w = (.error f', w)) ∧
    (∀ f w', e.apply save w = (.error f, w') → f.Early → (∀ g ∈ e, ∀ t ∈ g.edits, t.Whole) →
      ∃ g ∈ e, ∃ d, w.buffers[g.buffer]? = some d ∧ Flaw d g.edits f) := by
  refine ⟨?_, ?_, ?_⟩
  · intro f w' failed
    obtain ⟨same, early⟩ := applyError failed
    exact ⟨same, fun first => (early first).1⟩
  · intro g mem d f opened flaw
    obtain ⟨f', made⟩ := newTextsRejects mem (EditGroup.flawRejects opened flaw)
    exact ⟨f', newTextsEarly made, by simp only [WorkspaceEdit.apply, made]⟩
  · intro f w' failed early whole
    obtain ⟨g, mem, failed⟩ := mapMError ((applyError failed).2 early).2
    rcases bindError.mp failed with rejected | ⟨_, _, never⟩
    · obtain ⟨d, opened, flaw⟩ := EditGroup.rejectsFlaw (whole g mem) rejected
      exact ⟨g, mem, d, opened, flaw⟩
    · exact absurd never pureError

end AccessFix
