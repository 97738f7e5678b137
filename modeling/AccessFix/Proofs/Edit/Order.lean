import AccessFix.Proofs.Edit.Reject
import AccessFix.Proofs.Edit.Single
import AccessFix.Proofs.Text.Encoding

/-! The order in which the replacements of one document are added. It is nothing to whether a position has a place, a span is
inverted or two of them overlap. But of an insertion and a replacement that start at one place, the one that was added first comes
first in the pass, and behind the replacement there is no way back to the insertion's place. -/
namespace AccessFix
open Fallible WorkspaceEdit

namespace Splice

def Overlap (a b : Splice) : Prop := a.start < b.stop ∧ b.start < a.stop

def Late (a b : Splice) : Prop := a.start < a.stop ∧ b.start = a.start ∧ b.stop = a.start

instance : Std.Symm Overlap := ⟨fun _ _ overlap => ⟨overlap.2, overlap.1⟩⟩

theorem clashCases {a b : Splice} (first : a.start ≤ a.stop) (second : b.start ≤ b.stop) :
    Clash a b ↔ Overlap a b ∨ Late a b := by
  unfold Clash Overlap Late
  split <;> omega

theorem inOrderSorted (splices : List Splice) : (inOrder splices).Pairwise fun a b => a.start ≤ b.start := by
  simpa using (inOrderStable splices).1

theorem inOrderSame {splices splices' : List Splice} (same : splices.Perm splices')
    (apart : splices.Pairwise fun a b => a.start ≠ b.start) : inOrder splices = inOrder splices' := by
  have perm : (inOrder splices).Perm (inOrder splices') :=
    (List.mergeSort_perm splices _).trans (same.trans (List.mergeSort_perm splices' _).symm)
  refine List.Perm.eq_of_pairwise ?_ (inOrderSorted splices) (inOrderSorted splices') perm
  intro a b here there before after
  have one : a ∈ splices := List.mem_mergeSort.mp here
  have other : b ∈ splices := same.mem_iff.mpr (List.mem_mergeSort.mp there)
  by_contra differ
  have : Std.Symm fun a b : Splice => a.start ≠ b.start := ⟨fun _ _ => Ne.symm⟩
  exact apart.forall one other differ (le_antisymm before after)

end Splice

/-! What is wrong with replacements in any order, and what is in one. -/

inductive Unfit (d : Document) (edits : List TextEdit) : Prop where
  | misplaced {e p} (mem : e ∈ edits) (side : e.range.Ends p)
      (nowhere : p.Negative ∨ (Number.int d.lineCount).atMost p.line = true)
  | inverted {e s} (mem : e ∈ edits) (resolved : Splice.Resolved d e s) (order : s.stop < s.start)
  | overlapping {e e' s s'} (both : [e, e'].Sublist edits) (first : Splice.Resolved d e s)
      (second : Splice.Resolved d e' s') (overlap : s.Overlap s')

def Belated (d : Document) (edits : List TextEdit) : Prop :=
  ∃ e e' s s', [e, e'].Sublist edits ∧ Splice.Resolved d e s ∧ Splice.Resolved d e' s' ∧ s.Late s'

variable {d : Document} {edits edits' : List TextEdit}

theorem flawUnfit : (∃ f, Flaw d edits f) ↔ Unfit d edits ∨ Belated d edits := by
  constructor
  · rintro ⟨_, flaw⟩
    cases flaw with
    | negative mem side below => exact .inl (.misplaced mem side (.inl below))
    | beyond mem side after => exact .inl (.misplaced mem side (.inr after))
    | inverted mem resolved order => exact .inl (.inverted mem resolved order)
    | @clash e e' s s' both first second clash =>
      by_cases forward : s.start ≤ s.stop ∧ s'.start ≤ s'.stop
      · rcases (Splice.clashCases forward.1 forward.2).mp clash with overlap | late
        · exact .inl (.overlapping both first second overlap)
        · exact .inr ⟨e, e', s, s', both, first, second, late⟩
      · rcases not_and_or.mp forward with inverted | inverted
        · exact .inl (.inverted (both.subset (by simp)) first (not_le.mp inverted))
        · exact .inl (.inverted (both.subset (by simp)) second (not_le.mp inverted))
  · rintro (unfit | ⟨e, e', s, s', both, first, second, late⟩)
    · cases unfit with
      | misplaced mem side nowhere =>
        rcases nowhere with below | after
        · exact ⟨_, .negative mem side below⟩
        · exact ⟨_, .beyond mem side after⟩
      | inverted mem resolved order => exact ⟨_, .inverted mem resolved order⟩
      | @overlapping e e' s s' both first second overlap =>
        refine ⟨_, .clash both first second ?_⟩
        obtain ⟨one, other⟩ := overlap
        simp only [Splice.Clash, one, other, ite_self]
    · refine ⟨_, .clash both first second ?_⟩
      obtain ⟨some, starts, -⟩ := late
      simpa [Splice.Clash, starts] using some

def Clear (d : Document) (e e' : TextEdit) : Prop :=
  ∀ s s', Splice.Resolved d e s → Splice.Resolved d e' s' → ¬s.Overlap s'

instance : Std.Symm (Clear d) := ⟨fun _ _ clear s s' first second overlap => clear s' s second first (symm overlap)⟩

theorem unfitSame (same : edits.Perm edits') (unfit : Unfit d edits) : Unfit d edits' := by
  cases unfit with
  | misplaced mem side nowhere => exact .misplaced (same.mem_iff.mp mem) side nowhere
  | inverted mem resolved order => exact .inverted (same.mem_iff.mp mem) resolved order
  | overlapping both first second overlap =>
    have crowded : ¬edits'.Pairwise (Clear d) := by
      rw [← same.pairwise_iff symm, List.pairwise_iff_forall_sublist]
      exact fun clear => clear both _ _ first second overlap
    rw [List.pairwise_iff_forall_sublist] at crowded
    simp only [Clear] at crowded
    push Not at crowded
    obtain ⟨e, e', both', s, s', first', second', overlap'⟩ := crowded
    exact .overlapping both' first' second' overlap'

def WorkspaceEdit.Rejected (e : WorkspaceEdit) (save : Bool) (w : Workspace) : Prop :=
  ∃ f : EditFault, f.Early ∧ e.apply save w = (.error f, w)

theorem newTextsOne {buffers : Buffers} {g : EditGroup} {text : Letters} (made : g.newText buffers = .ok text) :
    WorkspaceEdit.newTexts buffers [g] = .ok [(g.buffer, text)] :=
  newTextsOk.mpr (.cons ⟨rfl, made⟩ .nil)

variable {w : Workspace} {g g' : EditGroup} {save : Bool}

theorem rejectedNewText : WorkspaceEdit.Rejected [g] save w ↔ ∃ f, g.newText w.buffers = .error f := by
  constructor
  · rintro ⟨f, early, failed⟩
    cases made : g.newText w.buffers with
    | error f => exact ⟨f, rfl⟩
    | ok text =>
      have texts := ((applyError failed).2 early).2
      rw [newTextsOne made] at texts
      cases texts
  · rintro ⟨f, made⟩
    have texts : WorkspaceEdit.newTexts w.buffers [g] = .error f := by
      simp [WorkspaceEdit.newTexts, made, bind, Except.bind]
    exact ⟨f, EditGroup.newTextEarly made, by simp only [WorkspaceEdit.apply, texts]⟩

theorem acceptedNewText (accepted : ¬WorkspaceEdit.Rejected [g] save w) : ∃ text, g.newText w.buffers = .ok text := by
  cases made : g.newText w.buffers with
  | error f => exact absurd (rejectedNewText.mpr ⟨f, made⟩) accepted
  | ok text => exact ⟨text, rfl⟩

theorem newTextFlaw {buffers : Buffers} (opened : buffers[g.buffer]? = some d) (whole : ∀ e ∈ g.edits, e.Whole) :
    (∃ f, g.newText buffers = .error f) ↔ ∃ f, Flaw d g.edits f := by
  constructor
  · rintro ⟨f, failed⟩
    obtain ⟨d', opened', flaw⟩ := EditGroup.rejectsFlaw whole failed
    rw [opened, Option.some.injEq] at opened'
    exact ⟨f, opened' ▸ flaw⟩
  · rintro ⟨f, flaw⟩
    cases made : g.newText buffers with
    | error f => exact ⟨f, rfl⟩
    | ok text => exact absurd made (EditGroup.flawRejects opened flaw text)

theorem newTextReordered {buffers : Buffers} (opened : buffers[g.buffer]? = some d) (document : g'.buffer = g.buffer)
    (same : g.edits.Perm g'.edits)
    (apart : g.edits.Pairwise fun e e' => d.offsetAt e.range.start ≠ d.offsetAt e'.range.start) {text : Letters}
    (made : g.newText buffers = .ok text) : g'.newText buffers = .ok text := by
  obtain ⟨splices, resolved, ordered, rfl⟩ := (EditGroup.newTextOk opened).mp made
  obtain ⟨splices', resolved', turned⟩ := List.perm_comp_forall₂ same.symm resolved
  have distinct : splices.Pairwise fun a b => a.start ≠ b.start := by
    rw [pairedPairwise (Splice.resolvedOne d) resolved]
    refine apart.imp fun differ s s' first second alike => differ ?_
    rw [first.start, second.start, alike]
  have sorted := Splice.inOrderSame turned.symm distinct
  refine (EditGroup.newTextOk (by rwa [document])).mpr ⟨splices', resolved', ?_, ?_⟩
  · rwa [← sorted]
  · rw [sorted]

theorem newTextLetters {buffers : Buffers} (opened : buffers[g.buffer]? = some d) (document : g'.buffer = g.buffer)
    (same : g.edits.Perm g'.edits) {text text' : Letters} (made : g.newText buffers = .ok text)
    (made' : g'.newText buffers = .ok text') : text.Perm text' := by
  obtain ⟨splices, resolved, apart, rfl⟩ := (EditGroup.newTextOk opened).mp made
  obtain ⟨splices', resolved', apart', rfl⟩ := (EditGroup.newTextOk (document ▸ opened)).mp made'
  obtain ⟨between, paired, turned⟩ := List.perm_comp_forall₂ same.symm resolved
  obtain rfl := List.right_unique_forall₂' (Splice.resolvedOne d) paired resolved'
  have sorted : (Splice.inOrder splices).Perm (Splice.inOrder between) :=
    (List.mergeSort_perm splices _).trans (turned.symm.trans (List.mergeSort_perm between _).symm)
  rw [← EditGroup.passWhole resolved apart, ← EditGroup.passWhole resolved' apart']
  exact Splice.passPerm d.text sorted apart apart'

/-- The same ending, apart from the place of the first surrogate in a text that has no encoding. -/
def EndsAlike (ending ending' : Except EditFault Unit) : Prop :=
  ending = ending' ∨ ∃ f f', ending = .error (.unusable (.encoding f)) ∧ ending' = .error (.unusable (.encoding f'))

theorem writeAllAlike {buffers : Buffers} {id : BufferId} (opened : buffers[id]? = some d) {text text' : Letters}
    (letters : text.Perm text') (files : Files) :
    EndsAlike (writeAll buffers files [] [(id, text)]).1 (writeAll buffers files [] [(id, text')]).1 := by
  have plain : Text.Encodable text ↔ Text.Encodable text' := by simp only [Text.Encodable, letters.mem_iff]
  rw [writeAllSingle opened, writeAllSingle opened]
  simp only [Files.writeText, Files.write]
  cases files.target (Path.normal d.path) with
  | error fault => exact .inl rfl
  | ok route =>
    cases coded : Text.Codec.utf8.encode text <;> cases coded' : Text.Codec.utf8.encode text'
    · exact .inr ⟨_, _, rfl, rfl⟩
    · exact absurd (plain.mpr (Text.encodeOk.mp coded').1) (Text.encodeFails coded)
    · exact absurd (plain.mp (Text.encodeOk.mp coded).1) (Text.encodeFails coded')
    · exact .inl rfl

theorem applyAlike (opened : w.buffers[g.buffer]? = some d) (document : g'.buffer = g.buffer)
    (same : g.edits.Perm g'.edits) {text text' : Letters} (made : g.newText w.buffers = .ok text)
    (made' : g'.newText w.buffers = .ok text') :
    EndsAlike (WorkspaceEdit.apply [g] save w).1 (WorkspaceEdit.apply [g'] save w).1 := by
  have wrote := writeAllAlike opened (newTextLetters opened document same made made') w.files
  simp only [WorkspaceEdit.apply, newTextsOne made, newTextsOne made', document]
  cases save with
  | false => exact .inl rfl
  | true =>
    simp only [if_true]
    generalize writeAll w.buffers w.files [] [(g.buffer, text)] = one,
      writeAll w.buffers w.files [] [(g.buffer, text')] = other at wrote
    obtain ⟨ending, files⟩ := one
    obtain ⟨ending', files'⟩ := other
    rcases wrote with rfl | ⟨f, f', rfl, rfl⟩
    · cases ending <;> exact .inl rfl
    · exact .inr ⟨f, f', rfl, rfl⟩

def additions (id : Fin w.buffers.length) (edits : List TextEdit) : WorkspaceEdit := collect (edits.map fun e => ⟨id, e⟩)

theorem collectOne {buffers : Buffers} {id : Fin buffers.length} {path : String}
    (named : ∀ e, Replacement.path (⟨id, e⟩ : Replacement buffers) = path) (done rest : List TextEdit) :
    (rest.map fun e => (⟨id, e⟩ : Replacement buffers)).foldl (fun e r => replace r.path r.document r.edit e) [⟨path, id, done⟩] =
      [⟨path, id, done ++ rest⟩] := by
  induction rest generalizing done with
  | nil => simp
  | cons e rest ih => simpa [replace, named] using ih (done ++ [e])

theorem additionsGroup {id : Fin w.buffers.length} (opened : w.buffers[(id : Nat)]? = some d) (filled : edits ≠ []) :
    additions id edits = [⟨d.path, id, edits⟩] := by
  have named : ∀ e, Replacement.path (⟨id, e⟩ : Replacement w.buffers) = d.path := fun e =>
    congrArg Document.path (Option.some.inj ((List.getElem?_eq_getElem id.isLt).symm.trans opened))
  cases edits with
  | nil => exact absurd rfl filled
  | cons e rest => simpa [additions, collect, replace, empty, named] using collectOne named [e] rest

theorem additionsRejected {id : Fin w.buffers.length} (opened : w.buffers[(id : Nat)]? = some d) (whole : ∀ e ∈ edits, e.Whole) :
    (additions id edits).Rejected save w ↔ Unfit d edits ∨ Belated d edits := by
  rw [← flawUnfit]
  by_cases filled : edits ≠ []
  · rw [additionsGroup opened filled, rejectedNewText]
    exact newTextFlaw opened whole
  · obtain rfl := not_not.mp filled
    refine iff_of_false ?_ ?_
    · rintro ⟨f, early, failed⟩
      have texts := ((applyError failed).2 early).2
      cases texts
    · rintro ⟨f, flaw⟩
      cases flaw with
      | negative mem => cases mem
      | beyond mem => cases mem
      | inverted mem => cases mem
      | clash both => cases both

theorem belatedStart (late : Belated d edits) :
    ¬edits.Pairwise fun e e' => d.offsetAt e.range.start ≠ d.offsetAt e'.range.start := by
  obtain ⟨e, e', s, s', both, first, second, -, starts, -⟩ := late
  rw [List.pairwise_iff_forall_sublist]
  exact fun apart => apart both (by rw [first.start, second.start, starts])

theorem acceptedAlike {id : Fin w.buffers.length} (opened : w.buffers[(id : Nat)]? = some d) (same : edits.Perm edits')
    (accepted : ¬(additions id edits).Rejected save w) (accepted' : ¬(additions id edits').Rejected save w) :
    EndsAlike ((additions id edits).apply save w).1 ((additions id edits').apply save w).1 := by
  by_cases empty : edits = []
  · obtain rfl := empty
    rw [← same.nil_eq]
    exact .inl rfl
  · have filled' : edits' ≠ [] := fun none => empty (none ▸ same).eq_nil
    rw [additionsGroup opened empty] at accepted ⊢
    rw [additionsGroup opened filled'] at accepted' ⊢
    obtain ⟨text, made⟩ := acceptedNewText accepted
    obtain ⟨text', made'⟩ := acceptedNewText accepted'
    exact applyAlike opened rfl same made made'

theorem acceptedSame {id : Fin w.buffers.length} (opened : w.buffers[(id : Nat)]? = some d) (same : edits.Perm edits')
    (apart : edits.Pairwise fun e e' => d.offsetAt e.range.start ≠ d.offsetAt e'.range.start)
    (accepted : ¬(additions id edits).Rejected save w) :
    (additions id edits).apply save w = (additions id edits').apply save w := by
  by_cases empty : edits = []
  · obtain rfl := empty
    rw [← same.nil_eq]
  · have filled' : edits' ≠ [] := fun none => empty (none ▸ same).eq_nil
    rw [additionsGroup opened empty] at accepted ⊢
    rw [additionsGroup opened filled']
    obtain ⟨text, made⟩ := acceptedNewText accepted
    have made' := @newTextReordered d ⟨d.path, id, edits⟩ ⟨d.path, id, edits'⟩ w.buffers opened rfl same apart text made
    simp only [WorkspaceEdit.apply, newTextsOne made, newTextsOne made']

def slate : Workspace where
  files := { nodes := [(["p"], .folder), (["p", "A.jsx"], .file [97, 98])], here := ["p"] }
  buffers := [⟨"/p/A.jsx", ['a', 'b'], "javascriptreact", "file"⟩]

def slateFirst : TextEdit := ⟨⟨.ofInts 0 0, .ofInts 0 1⟩, ['x']⟩

def slateLast : TextEdit := ⟨⟨.ofInts 0 1, .ofInts 0 2⟩, ['z']⟩

def slateInsert : TextEdit := ⟨⟨.ofInts 0 0, .ofInts 0 0⟩, ['y']⟩

def slateAdded (edits : List TextEdit) : WorkspaceEdit := additions (w := slate) ⟨0, Nat.zero_lt_one⟩ edits

theorem slateAccepted {edits : List TextEdit} (ok : ((slateAdded edits).apply true slate).1 = .ok ()) :
    ¬(slateAdded edits).Rejected true slate := by
  rintro ⟨f, _, failed⟩
  rw [failed] at ok
  cases ok

end AccessFix
