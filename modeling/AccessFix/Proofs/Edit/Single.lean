import AccessFix.Proofs.Edit.Apply

/-! One replacement in one document. It is rejected, refused or applied as a whole: unless it is applied, nothing has
changed anywhere. -/
namespace AccessFix
open Fallible Files WorkspaceEdit Document

theorem newTextSingle {buffers : Buffers} {g : EditGroup} {d : Document} (opened : buffers[g.buffer]? = some d)
    {edit : TextEdit} (one : g.edits = [edit]) {text : Letters} :
    g.newText buffers = .ok text ↔
      ∃ first last, Covers d edit.range first last ∧
        text = d.text.take first ++ edit.newText ++ d.text.drop last := by
  rw [EditGroup.newTextOk opened, one]
  constructor
  · rintro ⟨splices, resolved, apart, rfl⟩
    obtain ⟨s, rest, placed, nothing, rfl⟩ := List.forall₂_cons_left_iff.mp resolved
    obtain rfl := List.forall₂_nil_left_iff.mp nothing
    rw [Splice.inOrder, List.mergeSort_singleton] at apart ⊢
    exact ⟨s.start, s.stop, ⟨placed.start, placed.stop, apart.2.1⟩, by rw [← placed.newText]; rfl⟩
  · rintro ⟨first, last, covers, rfl⟩
    refine ⟨[⟨first, last, edit.newText⟩], .cons ⟨covers.start, covers.stop, rfl⟩ .nil, ?_, ?_⟩
    · rw [Splice.inOrder, List.mergeSort_singleton]
      exact ⟨Nat.zero_le _, covers.ordered, trivial⟩
    · rw [Splice.inOrder, List.mergeSort_singleton]
      rfl

def Replacement.group {buffers : Buffers} (r : Replacement buffers) : EditGroup := ⟨r.path, r.document, [r.edit]⟩

theorem sortSingle (s : Splice) : Span.sort [s.toSpan] = [s.toSpan] := by
  have sorted := Splice.sortSpans [s]
  rwa [Splice.inOrder, List.mergeSort_singleton] at sorted

theorem newTextInts {buffers : Buffers} {g : EditGroup} {d : Document} (opened : buffers[g.buffer]? = some d)
    {line character line' character' : Int} {text : Letters}
    (one : g.edits = [⟨⟨.ofInts line character, .ofInts line' character'⟩, text⟩]) {f : EditFault}
    (failed : g.newText buffers = .error f) : f ≠ .position .notInteger := by
  simp only [EditGroup.newText, opened, one, List.mapM_cons, List.mapM_nil, Span.ofEdit] at failed
  rcases offsetAtInts d line character with ⟨first, start⟩ | ⟨p, refused, other⟩
  · rcases offsetAtInts d line' character' with ⟨last, stop⟩ | ⟨p, refused, other⟩
    · simp only [start, stop, bind, Except.bind, pure, Except.pure] at failed
      rw [show [Span.mk (.int first) (.int last) text] = [(Splice.mk first last text).toSpan] from rfl,
        sortSingle] at failed
      by_cases ordered : first ≤ last
      · have accepted : d.splice 0 [(Splice.mk first last text).toSpan] = .ok _ :=
          Splice.spliceOk.mpr ⟨[⟨first, last, text⟩], rfl, ⟨Nat.zero_le _, ordered, trivial⟩, rfl⟩
        rw [accepted] at failed
        cases failed
      · have inverted : (Number.int last).less (.int first) = true :=
          (Number.lessInt _ _).trans (decide_eq_true (by omega))
        simp only [Document.splice, Splice.toSpan, inverted, Bool.or_true, if_true] at failed
        cases failed
        simp
    · simp only [start, refused, bind, Except.bind] at failed
      cases failed
      exact fun same => other (EditFault.position.inj same)
  · simp only [refused, bind, Except.bind] at failed
    cases failed
    exact fun same => other (EditFault.position.inj same)

variable {w : Workspace}

inductive SingleEnd (w : Workspace) (r : Replacement w.buffers) : Except EditFault Unit × Workspace → Prop where
  | rejected {f : EditFault} (failed : r.group.newText w.buffers = .error f) : SingleEnd w r (.error f, w)
  | refused {first last : Nat} {f : FileFault} (covers : Covers w.buffers[r.document] r.edit.range first last)
      (plain : ¬Path.HasZero r.path) (blocked : ∀ route, ¬Target w.files (Path.normal r.path) route) :
      SingleEnd w r (.error (.unwritable r.path f), w)
  | unusable {first last : Nat} {f : FileFault} (covers : Covers w.buffers[r.document] r.edit.range first last)
      (zero : Path.HasZero r.path) (unasked : f.fault.isRefusal = false) :
      SingleEnd w r (.error (.unusable (.file f)), w)
  | unencodable {first last : Nat} {route : Route} {text : Letters} {f : Text.Unencodable}
      (covers : Covers w.buffers[r.document] r.edit.range first last)
      (leads : Target w.files (Path.normal r.path) route)
      (spliced : text = w.buffers[r.document].text.take first ++ r.edit.newText ++
        w.buffers[r.document].text.drop last)
      (uncoded : Text.Codec.utf8.encode text = .error f) :
      SingleEnd w r (.error (.unusable (.encoding f)), { w with files := w.files.holding route [] })
  | applied {first last : Nat} {route : Route} {text : Letters} {octets : List UInt8}
      (covers : Covers w.buffers[r.document] r.edit.range first last)
      (leads : Target w.files (Path.normal r.path) route)
      (spliced : text = w.buffers[r.document].text.take first ++ r.edit.newText ++
        w.buffers[r.document].text.drop last)
      (coded : Text.Codec.utf8.encode text = .ok octets) :
      SingleEnd w r (.ok (), {
        files := w.files.holding route octets
        buffers := w.buffers.modify r.document fun d => { d with text := text } })

theorem writeAllSingle {buffers : Buffers} {files : Files} {id : BufferId} {d : Document}
    (opened : buffers[id]? = some d) (text : Letters) :
    writeAll buffers files [] [(id, text)] =
      match files.writeText (Path.normal d.path) text with
      | (.ok (), files) => (.ok (), files)
      | (.error (.encoding f), files) => (.error (.unusable (.encoding f)), files)
      | (.error (.file f), files) =>
        if f.fault.isRefusal then (.error (.unwritable d.path f), files) else (.error (.unusable (.file f)), files) := by
  rcases wrote : files.writeText (Path.normal d.path) text with ⟨(f | f) | done, files'⟩ <;>
    simp only [writeAll, opened, restore, wrote]

theorem applySingle (r : Replacement w.buffers) : SingleEnd w r ((collect [r]).apply true w) := by
  have opened : w.buffers[(r.document : Nat)]? = some w.buffers[r.document] := by simp
  have whole : collect [r] = [r.group] := rfl
  simp only [WorkspaceEdit.apply, whole]
  split
  · rename_i f failed
    obtain ⟨g, mem, failed⟩ := mapMError failed
    obtain rfl := List.mem_singleton.mp mem
    rcases bindError.mp failed with failed | ⟨_, _, never⟩
    · exact .rejected failed
    · exact absurd never pureError
  · rename_i jobs made
    obtain ⟨job, rest, ⟨document, texted⟩, nothing, rfl⟩ := List.forall₂_cons_left_iff.mp (newTextsOk.mp made)
    obtain rfl := List.forall₂_nil_left_iff.mp nothing
    obtain ⟨first, last, covers, spliced⟩ := (newTextSingle opened rfl).mp texted
    obtain ⟨id, text⟩ := job
    have sameId : id = r.document := document
    subst sameId
    rw [if_pos trivial, writeAllSingle opened]
    rcases wrote : w.files.writeText (Path.normal w.buffers[r.document].path) text with ⟨_ | _, files⟩
    rename_i fault
    · cases fault with
      | encoding f =>
        obtain ⟨uncoded, emptied⟩ := writeTextUnencodable.mp wrote
        obtain ⟨route, leads, rfl⟩ := writeOk.mp emptied
        exact .unencodable covers leads spliced uncoded
      | file f =>
        obtain ⟨⟨fault, failed, rfl⟩, rfl⟩ := writeTextRefused.mp wrote
        have zero : fault.isRefusal = false ↔ Path.HasZero r.path :=
          (targetRefusal failed).trans (Path.normalHasZero r.path)
        cases asked : fault.isRefusal with
        | true =>
          simp only [asked, if_true]
          refine .refused covers (by simp [← zero, asked]) fun route leads => ?_
          cases failed.symm.trans (targetOk.mpr leads)
        | false =>
          simp only [asked, Bool.false_eq_true, if_false]
          exact .unusable covers (zero.mp asked) asked
    · obtain ⟨octets, coded, wrote⟩ := writeTextOk.mp wrote
      obtain ⟨route, leads, rfl⟩ := writeOk.mp wrote
      exact .applied covers leads spliced coded

end AccessFix
