import AccessFix.Edit
import AccessFix.Proofs.Document
import AccessFix.Proofs.Sorting

/-! Replacements at places of a text. Replacing them one by one, the last first, gives what one pass from the front
gives, as long as they stand apart and end inside the text: what is replaced later lies before everything that has
moved. -/
namespace AccessFix

structure Splice where
  start : Nat
  stop : Nat
  newText : Letters
  deriving DecidableEq, Repr

namespace Splice
open Fallible

def toSpan (s : Splice) : Span := ⟨.int s.start, .int s.stop, s.newText⟩

def replace (s : Splice) (text : Letters) : Letters := text.take s.start ++ s.newText ++ text.drop s.stop

def backToFront (splices : List Splice) (text : Letters) : Letters := splices.foldr replace text

def pass (text : Letters) (cursor : Nat) : List Splice → Letters
  | [] => text.drop cursor
  | s :: rest => Document.slice text cursor s.start ++ s.newText ++ pass text s.stop rest

def Apart (cursor : Nat) : List Splice → Prop
  | [] => True
  | s :: rest => cursor ≤ s.start ∧ s.start ≤ s.stop ∧ Apart s.stop rest

theorem apartPairwise {cursor : Nat} {splices : List Splice} :
    Apart cursor splices ↔ (∀ s ∈ splices, cursor ≤ s.start ∧ s.start ≤ s.stop) ∧
      splices.Pairwise fun a b => a.stop ≤ b.start := by
  induction splices generalizing cursor with
  | nil => simp [Apart]
  | cons s rest ih =>
    simp only [Apart, ih, List.forall_mem_cons, List.pairwise_cons]
    constructor
    · rintro ⟨after, forward, each, pairs⟩
      refine ⟨⟨⟨after, forward⟩, fun t mem => ?_⟩, fun t mem => (each t mem).1, pairs⟩
      have := each t mem
      omega
    · rintro ⟨⟨⟨after, forward⟩, each⟩, first, pairs⟩
      exact ⟨after, forward, fun t mem => ⟨first t mem, (each t mem).2⟩, pairs⟩

theorem takeSlice (text : Letters) {a b : Nat} (ordered : a ≤ b) :
    text.take a ++ Document.slice text a b = text.take b := by
  rw [Document.slice, ← List.take_add, Nat.add_sub_cancel' ordered]

theorem backToFrontPass {text : Letters} {cursor : Nat} {splices : List Splice} (apart : Apart cursor splices)
    (inside : ∀ s ∈ splices, s.stop ≤ text.length) :
    backToFront splices text = text.take cursor ++ pass text cursor splices := by
  induction splices generalizing cursor with
  | nil => simp [backToFront, pass]
  | cons s rest ih =>
    obtain ⟨after, forward, tail⟩ := apart
    have short : s.stop ≤ text.length := inside s (by simp)
    have done := ih tail fun t mem => inside t (by simp [mem])
    -- the replacements after `s` have left everything before the end of `s` as it was
    calc backToFront (s :: rest) text
        = s.replace (text.take s.stop ++ pass text s.stop rest) := by rw [← done]; rfl
      _ = text.take s.start ++ s.newText ++ pass text s.stop rest := by
          have kept : (text.take s.stop).length = s.stop := List.length_take_of_le short
          rw [replace, List.take_append_of_le_length (by omega), List.take_take, Nat.min_eq_left forward]
          congr 1
          exact List.drop_left' kept
      _ = text.take cursor ++ pass text cursor (s :: rest) := by
          rw [pass, ← takeSlice text after]
          simp only [List.append_assoc]

/-! What is left of a text around the replaced places. -/

def removal (s : Splice) : Splice := { s with newText := [] }

theorem apartRemoval {cursor : Nat} {splices : List Splice} (apart : Apart cursor splices) : Apart cursor (splices.map removal) := by
  induction splices generalizing cursor with
  | nil => trivial
  | cons s rest ih =>
    obtain ⟨after, forward, later⟩ := apart
    exact ⟨after, forward, ih later⟩

theorem passCount (text : Letters) (c : Letter) {cursor : Nat} {splices : List Splice} :
    (pass text cursor splices).count c =
      (splices.map fun s => s.newText.count c).sum + (pass text cursor (splices.map removal)).count c := by
  induction splices generalizing cursor with
  | nil => simp [pass]
  | cons s rest ih =>
    simp only [List.map_cons, pass, List.count_append, ih, List.sum_cons, removal, List.count_nil]
    omega

theorem removalSame {splices splices' : List Splice} (same : splices.Perm splices') (apart : Apart 0 splices)
    (apart' : Apart 0 splices') : splices.map removal = splices'.map removal := by
  let Before (a b : Splice) : Prop := a.start ≤ a.stop ∧ a.stop ≤ b.start ∧ b.start ≤ b.stop
  have sorted : ∀ {ss : List Splice}, Apart 0 ss → (ss.map removal).Pairwise Before := by
    intro ss apart
    obtain ⟨forward, pairs⟩ := apartPairwise.mp apart
    rw [List.pairwise_map]
    exact pairs.imp_of_mem fun here there between => ⟨(forward _ here).2, between, (forward _ there).2⟩
  refine List.Perm.eq_of_pairwise ?_ (sorted apart) (sorted apart') (same.map removal)
  intro a b here there before after
  obtain ⟨s, _, rfl⟩ := List.mem_map.mp here
  obtain ⟨t, _, rfl⟩ := List.mem_map.mp there
  simp only [Before, removal, mk.injEq, and_true] at before after ⊢
  omega

theorem passPerm (text : Letters) {splices splices' : List Splice} (same : splices.Perm splices') (apart : Apart 0 splices)
    (apart' : Apart 0 splices') : (pass text 0 splices).Perm (pass text 0 splices') := by
  refine List.perm_iff_count.mpr fun c => ?_
  rw [passCount, removalSame same apart apart', (same.map _).sum_eq, ← passCount]

theorem spliceCursor {d : Document} {cursor : Number} {spans : List Span} {out : Letters}
    (ok : d.splice cursor spans = .ok out) : ∃ place, cursor = .int place := by
  cases cursor with
  | int place => exact ⟨place, rfl⟩
  | real x =>
    cases spans with
    | nil => simp [Document.splice, Document.cut, Except.mapError] at ok
    | cons s rest =>
      simp only [Document.splice] at ok
      split at ok
      · contradiction
      · simp [Document.cut, Except.mapError, bind, Except.bind] at ok

theorem spliceOk {d : Document} {cursor : Nat} {spans : List Span} {out : Letters} :
    d.splice (.int cursor) spans = .ok out ↔
      ∃ splices, spans = splices.map toSpan ∧ Apart cursor splices ∧ out = pass d.text cursor splices := by
  induction spans generalizing cursor out with
  | nil =>
    have rest : Document.slice d.text cursor d.text.length = d.text.drop cursor :=
      List.take_of_length_le (by simp)
    simp [Document.splice, Document.cut, Except.mapError, rest, pass, Apart, eq_comm]
  | cons s rest ih =>
    constructor
    · intro ok
      simp only [Document.splice] at ok
      split at ok
      · contradiction
      · rename_i order
        simp only [Bool.or_eq_true, not_or, Bool.not_eq_true] at order
        obtain ⟨kept, cut, ok⟩ := bindOk.mp ok
        obtain ⟨tail, spliced, ok⟩ := bindOk.mp ok
        obtain ⟨stop, stopInt⟩ := spliceCursor spliced
        obtain ⟨start, stop', newText⟩ := s
        simp only at stopInt order cut spliced
        subst stopInt
        cases start with
        | real x => simp [Document.cut, Except.mapError] at cut
        | int start =>
          simp only [Number.lessInt, decide_eq_false_iff_not] at order
          have natural : ((stop.toNat : Nat) : Int) = stop := Int.toNat_of_nonneg (by omega)
          rw [← natural] at spliced
          obtain ⟨splices, rfl, apart, rfl⟩ := ih.mp spliced
          refine ⟨⟨start.toNat, stop.toNat, newText⟩ :: splices, ?_, ⟨by simp only; omega, by simp only; omega, apart⟩, ?_⟩
          · simp only [List.map_cons, toSpan, List.cons.injEq, Span.mk.injEq, Number.int.injEq, and_true]
            omega
          · simp only [Document.cut, Except.mapError, Except.ok.injEq, Int.toNat_natCast] at cut
            rw [← pureOk.mp ok, ← cut, pass]
    · rintro ⟨splices, same, apart, rfl⟩
      cases splices with
      | nil => simp at same
      | cons head tail =>
        simp only [List.map_cons, List.cons.injEq] at same
        obtain ⟨rfl, rfl⟩ := same
        obtain ⟨after, forward, apart⟩ := apart
        have spliced := ih.mpr ⟨tail, rfl, apart, rfl⟩
        have order : ¬((head.start : Int) < cursor) ∧ ¬((head.stop : Int) < head.start) := by omega
        simp [Document.splice, toSpan, Number.lessInt, order.1, order.2, Document.cut, Except.mapError, spliced, pass,
          bind, Except.bind, pure, Except.pure]

theorem spliceOverlap {d : Document} {cursor : Nat} {splices : List Splice} {f : EditFault}
    (failed : d.splice (.int cursor) (splices.map toSpan) = .error f) : f = .overlap d.path := by
  induction splices generalizing cursor with
  | nil => simp [Document.splice, Document.cut, Except.mapError] at failed
  | cons s rest ih =>
    rw [List.map_cons, Document.splice] at failed
    split at failed
    · exact (Except.error.inj failed).symm
    · rcases bindError.mp failed with cut | ⟨_, _, failed⟩
      · simp [toSpan, Document.cut, Except.mapError] at cut
      · rcases bindError.mp failed with later | ⟨_, _, never⟩
        · exact ih later
        · exact absurd never pureError

end Splice

end AccessFix
