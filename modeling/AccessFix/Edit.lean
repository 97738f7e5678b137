import AccessFix.Document
import AccessFix.Sorting

/-! Edits of several open documents that are applied all together or not at all. Replacements are checked for every
document first; then the files are written; the buffers change last. A failed write restores the files already written
from their buffers. -/
namespace AccessFix

abbrev Buffers := List Document

abbrev BufferId := Nat

structure TextEdit where
  range : Range
  newText : Letters
  deriving DecidableEq, Repr

structure EditGroup where
  path : String
  buffer : BufferId
  edits : List TextEdit
  deriving DecidableEq, Repr

abbrev WorkspaceEdit := List EditGroup

namespace WorkspaceEdit

def empty : WorkspaceEdit := []

def replace (path : String) (buffer : BufferId) (edit : TextEdit) : WorkspaceEdit → WorkspaceEdit
  | [] => [⟨path, buffer, [edit]⟩]
  | g :: rest =>
    if g.path = path then { g with edits := g.edits ++ [edit] } :: rest
    else g :: replace path buffer edit rest

def size (e : WorkspaceEdit) : Nat := (List.flatMap EditGroup.edits e).length

end WorkspaceEdit

structure Span where
  start : Number
  stop : Number
  newText : Letters
  deriving DecidableEq, Repr

namespace Span

def ofEdit (d : Document) (e : TextEdit) : Except PositionFault Span := do
  let start ← d.offsetAt e.range.start
  let stop ← d.offsetAt e.range.stop
  return ⟨start, stop, e.newText⟩

def sort (spans : List Span) : List Span := Sorting.sort (fun a b => a.start.less b.start) spans

end Span

inductive EditFault where
  | position (fault : PositionFault)
  | overlap (path : String)
  | unwritable (path : String) (fault : FileFault)
  | unusable (fault : WriteFault)
  | refused (message : Letters)
  deriving DecidableEq, Repr

def EditFault.message : EditFault → Letters
  | .position f => f.message
  | .overlap path => "Overlapping or inverted edit ranges in '" ++ path ++ "'"
  | .unwritable path f => "Unable to write '" ++ path ++ "': " ++ f.message
  | .unusable f => f.message
  | .refused message => message

def Document.splice (d : Document) (cursor : Number) : List Span → Except EditFault (Letters)
  | [] => (cut d.text cursor (.int d.text.length)).mapError .position
  | s :: rest =>
    if s.start.less cursor || s.stop.less s.start then .error (.overlap d.path)
    else do
      let kept ← (cut d.text cursor s.start).mapError .position
      return kept ++ s.newText ++ (← d.splice s.stop rest)

structure Workspace where
  files : Files
  buffers : Buffers
  deriving Repr

namespace EditGroup

def newText (buffers : Buffers) (g : EditGroup) : Except EditFault (Letters) :=
  match buffers[g.buffer]? with
  | none => .ok []
  | some d =>
    match g.edits.mapM (Span.ofEdit d) with
    | .error f => .error (.position f)
    | .ok spans => d.splice 0 (Span.sort spans)

end EditGroup

namespace WorkspaceEdit

def newTexts (buffers : Buffers) (e : WorkspaceEdit) : Except EditFault (List (BufferId × Letters)) :=
  e.mapM fun g => do return (g.buffer, ← g.newText buffers)

end WorkspaceEdit

def restore (buffers : Buffers) (files : Files) : List BufferId → Except WriteFault Unit × Files
  | [] => (.ok (), files)
  | id :: rest =>
    match buffers[id]? with
    | none => restore buffers files rest
    | some d =>
      match d.save files with
      | (.ok (), files) => restore buffers files rest
      | (.error f, files) => (.error f, files)

def writeAll (buffers : Buffers) (files : Files) (written : List BufferId) :
    List (BufferId × Letters) → Except EditFault Unit × Files
  | [] => (.ok (), files)
  | (id, text) :: rest =>
    match buffers[id]? with
    | none => writeAll buffers files written rest
    | some d =>
      match files.writeText (Path.normal d.path) text with
      | (.ok (), files) => writeAll buffers files (written ++ [id]) rest
      | (.error (.encoding f), files) => (.error (.unusable (.encoding f)), files)
      | (.error (.file f), files) =>
        if f.fault.isRefusal then
          match restore buffers files written with
          | (.ok (), files) => (.error (.unwritable d.path f), files)
          | (.error f, files) => (.error (.unusable f), files)
        else (.error (.unusable (.file f)), files)

def setTexts (buffers : Buffers) : List (BufferId × Letters) → Buffers
  | [] => buffers
  | (id, text) :: rest => setTexts (buffers.modify id fun d => { d with text := text }) rest

def WorkspaceEdit.apply (e : WorkspaceEdit) (save : Bool) (w : Workspace) : Except EditFault Unit × Workspace :=
  match e.newTexts w.buffers with
  | .error f => (.error f, w)
  | .ok texts =>
    match if save then writeAll w.buffers w.files [] texts else (.ok (), w.files) with
    | (.error f, files) => (.error f, { w with files := files })
    | (.ok (), files) => (.ok (), ⟨files, setTexts w.buffers texts⟩)

inductive Applier where
  | write (save : Bool)
  | refuse (message : Letters)
  deriving DecidableEq, Repr

def Applier.run (a : Applier) (e : WorkspaceEdit) (w : Workspace) : Except EditFault Unit × Workspace :=
  match a with
  | .write save => e.apply save w
  | .refuse message => (.error (.refused message), w)

end AccessFix
