import AccessFix.Proofs.Edit.Splice

/-! What a document's replacements come to, said without a cursor: all of them are resolved in the text as it is, put in
order of their starts, those with one start as they were added, and carried out one by one from the last to the first.
The pass over the document gives this text or none, and it gives it exactly where the replacements stand apart. -/
namespace AccessFix

namespace Splice
open Fallible

def ofEdit (d : Document) (e : TextEdit) : Except PositionFault Splice := do
  let start ← d.offsetAt e.range.start
  let stop ← d.offsetAt e.range.stop
  match start, stop with
  | .int a, .int b => return ⟨a.toNat, b.toNat, e.newText⟩
  | _, _ => throw .notInteger

def inOrder (splices : List Splice) : List Splice := splices.mergeSort fun a b => decide (a.start ≤ b.start)

structure Resolved (d : Document) (e : TextEdit) (s : Splice) : Prop where
  start : d.offsetAt e.range.start = .ok (.int s.start)
  stop : d.offsetAt e.range.stop = .ok (.int s.stop)
  newText : s.newText = e.newText

theorem ofEditOk {d : Document} {e : TextEdit} {s : Splice} : ofEdit d e = .ok s ↔ Resolved d e s := by
  constructor
  · intro ok
    obtain ⟨start, first, ok⟩ := bindOk.mp ok
    obtain ⟨stop, last, ok⟩ := bindOk.mp ok
    cases start with
    | real x => exact absurd ok throwOk
    | int a =>
      cases stop with
      | real x => exact absurd ok throwOk
      | int b =>
        obtain ⟨k, rfl, _⟩ := Document.offsetAtInside first
        obtain ⟨l, rfl, _⟩ := Document.offsetAtInside last
        obtain rfl := pureOk.mp ok
        exact ⟨first, last, rfl⟩
  · rintro ⟨first, last, same⟩
    obtain ⟨start, stop, newText⟩ := s
    simp only at first last same
    subst same
    simp [ofEdit, first, last, bind, Except.bind, pure, Except.pure]

theorem resolvedOne (d : Document) : Relator.RightUnique (Resolved d) := fun _ _ _ first second =>
  Except.ok.inj ((ofEditOk.mpr first).symm.trans (ofEditOk.mpr second))

theorem spanOfEditOk {d : Document} {e : TextEdit} {s : Splice} :
    Span.ofEdit d e = .ok s.toSpan ↔ Resolved d e s := by
  constructor
  · intro ok
    obtain ⟨start, first, ok⟩ := bindOk.mp ok
    obtain ⟨stop, last, ok⟩ := bindOk.mp ok
    have same := pureOk.mp ok
    simp only [toSpan, Span.mk.injEq] at same
    obtain ⟨rfl, rfl, newText⟩ := same
    exact ⟨first, last, newText.symm⟩
  · rintro ⟨first, last, same⟩
    simp [Span.ofEdit, first, last, toSpan, same, bind, Except.bind, pure, Except.pure]

theorem toSpanInjective : Function.Injective toSpan := by
  intro a b same
  obtain ⟨_, _, _⟩ := a
  obtain ⟨_, _, _⟩ := b
  simpa [toSpan] using same

theorem sortSpans (splices : List Splice) : Span.sort (splices.map toSpan) = (inOrder splices).map toSpan := by
  have starts : (fun a b : Splice => a.toSpan.start.less b.toSpan.start) = Sorting.less fun s => (s.start : Int) := by
    funext a b
    exact Number.lessInt _ _
  simp only [Span.sort, Sorting.sortMap, starts, Sorting.sortEqMergeSort, inOrder, Nat.cast_le]

theorem spansOfSorted {spans : List Span} {sorted : List Splice} (same : Span.sort spans = sorted.map toSpan) :
    ∃ splices, spans = splices.map toSpan ∧ sorted = inOrder splices := by
  -- sorting loses nothing, so spans that are integers in order were integers as they came
  have each : ∀ span ∈ spans, span ∈ Set.range toSpan := by
    intro span mem
    have there : span ∈ sorted.map toSpan := by
      rw [← same]
      exact (Sorting.sortPerm _ spans).mem_iff.mpr mem
    obtain ⟨s, _, rfl⟩ := List.mem_map.mp there
    exact ⟨s, rfl⟩
  obtain ⟨splices, rfl⟩ : spans ∈ Set.range (List.map toSpan) := by
    rw [Set.range_list_map]
    exact each
  rw [sortSpans] at same
  exact ⟨splices, rfl, (toSpanInjective.list_map same).symm⟩

theorem inOrderStable (splices : List Splice) :
    Sorting.Stable (fun s : Splice => (s.start : Int)) splices (inOrder splices) := by
  simpa only [inOrder, Nat.cast_le] using Sorting.mergeSortStable (fun s : Splice => (s.start : Int)) splices

end Splice

namespace Document
open Fallible Splice

def replaceAll (d : Document) (edits : List TextEdit) : Except PositionFault (Letters) := do
  let splices ← edits.mapM (Splice.ofEdit d)
  return backToFront (inOrder splices) d.text

end Document

/-! A fault that is found before anything is written is one of a position or of the order of replacements. -/

inductive EditFault.Early : EditFault → Prop where
  | position (f) : Early (.position f)
  | overlap (path) : Early (.overlap path)

namespace EditGroup
open Fallible Splice

theorem passWhole {d : Document} {edits : List TextEdit} {splices : List Splice}
    (resolved : List.Forall₂ (Resolved d) edits splices) (apart : Apart 0 (inOrder splices)) :
    pass d.text 0 (inOrder splices) = backToFront (inOrder splices) d.text := by
  rw [backToFrontPass apart, List.take_zero, List.nil_append]
  intro s mem
  obtain ⟨e, _, placed⟩ := pairedLeft resolved (List.mem_mergeSort.mp mem)
  obtain ⟨k, same, inside⟩ := Document.offsetAtInside placed.stop
  omega

theorem newTextOk {buffers : Buffers} {g : EditGroup} {d : Document} (opened : buffers[g.buffer]? = some d)
    {text : Letters} :
    g.newText buffers = .ok text ↔
      ∃ splices, List.Forall₂ (Resolved d) g.edits splices ∧ Apart 0 (inOrder splices) ∧
        text = backToFront (inOrder splices) d.text := by
  simp only [newText, opened]
  constructor
  · intro ok
    split at ok
    · contradiction
    · rename_i spans made
      obtain ⟨sorted, same, apart, rfl⟩ := spliceOk.mp ok
      obtain ⟨splices, rfl, rfl⟩ := spansOfSorted same
      have resolved := List.forall₂_map_right_iff.mp (mapMOk.mp made)
      simp only [spanOfEditOk] at resolved
      exact ⟨splices, resolved, apart, passWhole resolved apart⟩
  · rintro ⟨splices, resolved, apart, rfl⟩
    have made : g.edits.mapM (Span.ofEdit d) = .ok (splices.map toSpan) := by
      simp only [mapMOk, List.forall₂_map_right_iff, spanOfEditOk]
      exact resolved
    simp only [made, sortSpans]
    exact spliceOk.mpr ⟨inOrder splices, rfl, apart, (passWhole resolved apart).symm⟩

theorem newTextReplaceAll {buffers : Buffers} {g : EditGroup} {d : Document} (opened : buffers[g.buffer]? = some d)
    {text : Letters} (ok : g.newText buffers = .ok text) : d.replaceAll g.edits = .ok text := by
  obtain ⟨splices, resolved, _, rfl⟩ := (newTextOk opened).mp ok
  have made : g.edits.mapM (Splice.ofEdit d) = .ok splices := by
    simp only [mapMOk, ofEditOk]
    exact resolved
  simp [Document.replaceAll, made, bind, Except.bind, pure, Except.pure]

theorem spliceEarly {d : Document} {cursor : Number} {spans : List Span} {f : EditFault}
    (failed : d.splice cursor spans = .error f) : f.Early := by
  induction spans generalizing cursor with
  | nil =>
    obtain ⟨p, _, rfl⟩ := mapErrorError.mp failed
    exact .position p
  | cons s rest ih =>
    simp only [Document.splice] at failed
    split at failed
    · cases failed
      exact .overlap d.path
    · rcases bindError.mp failed with cut | ⟨_, _, failed⟩
      · obtain ⟨p, _, rfl⟩ := mapErrorError.mp cut
        exact .position p
      · rcases bindError.mp failed with later | ⟨_, _, never⟩
        · exact ih later
        · exact absurd never pureError

theorem newTextEarly {buffers : Buffers} {g : EditGroup} {f : EditFault} (failed : g.newText buffers = .error f) : f.Early := by
  simp only [EditGroup.newText] at failed
  split at failed
  · cases failed
  · split at failed
    · cases failed
      exact .position _
    · exact spliceEarly failed

end EditGroup

end AccessFix
