import AccessFix.Proofs.Edit.Apply
import AccessFix.Proofs.Text.Encoding
import AccessFix.Proofs.Text.Newline
import AccessFix.Proofs.Text.Utf8

/-! Files with carriage returns, opened, edited and saved. The document of such a file has line feeds in place of its line
breaks, and so has the file once an edit of the document is saved. -/
namespace AccessFix
open Fallible Files WorkspaceEdit

/-! Replacements in the original of a unified text. -/

namespace Splice
open Text

def original (cs : Letters) (s : Splice) : Splice := ⟨placeIn cs s.start, placeIn cs s.stop, s.newText⟩

variable {cs : Letters} {cursor : Nat} {splices : List Splice}

theorem apartOriginal (apart : Apart cursor splices) : Apart (placeIn cs cursor) (splices.map (original cs)) := by
  induction splices generalizing cursor with
  | nil => trivial
  | cons s rest ih =>
    obtain ⟨after, forward, later⟩ := apart
    exact ⟨placeRising after, placeRising forward, ih later⟩

theorem passUnified (apart : Apart cursor splices)
    (free : Letter.char '\r' ∉ pass cs (placeIn cs cursor) ((splices.map (original cs)).map removal)) :
    pass (unifyNewlines cs) cursor splices = pass cs (placeIn cs cursor) (splices.map (original cs)) := by
  induction splices generalizing cursor with
  | nil =>
    simp only [List.map_nil, pass] at free ⊢
    rw [← unifyDrop, unifySame free]
  | cons s rest ih =>
    obtain ⟨after, forward, later⟩ := apart
    simp only [List.map_cons, pass, List.mem_append, not_or] at free ⊢
    rw [ih later free.2, ← unifySlice after]
    simp only [original, removal] at free ⊢
    rw [unifySame free.1.1]

theorem passRemoval {text : Letters} {c : Letter} (there : c ∈ pass text cursor (splices.map removal)) : c ∈ text := by
  induction splices generalizing cursor with
  | nil => exact List.mem_of_mem_drop there
  | cons s rest ih =>
    simp only [List.map_cons, pass, removal, List.append_nil, List.mem_append] at there
    rcases there with here | later
    · exact List.mem_of_mem_drop (List.mem_of_mem_take here)
    · exact ih later

theorem passOriginal (apart : Apart cursor splices) :
    pass (unifyNewlines cs) cursor splices = pass cs (placeIn cs cursor) (splices.map (original cs)) ↔
      Letter.char '\r' ∉ pass cs (placeIn cs cursor) ((splices.map (original cs)).map removal) := by
  -- both texts hold the new ones, so they hold as many carriage returns around them: none, as the unified text
  refine ⟨fun same there => ?_, passUnified apart⟩
  have counts := congrArg (List.count (Letter.char '\r')) same
  rw [passCount, passCount cs, List.map_map] at counts
  have texts : (fun s : Splice => s.newText.count (Letter.char '\r')) ∘ original cs = fun s => s.newText.count (Letter.char '\r') := rfl
  rw [texts, Nat.add_left_cancel_iff] at counts
  have none : (pass (unifyNewlines cs) cursor (splices.map removal)).count (Letter.char '\r') = 0 :=
    List.count_eq_zero.mpr fun mem => unifyNoReturn cs (passRemoval mem)
  rw [none] at counts
  exact List.count_eq_zero.mp counts.symm there

theorem backToFrontOriginal (apart : Apart 0 splices) (inside : ∀ s ∈ splices, s.stop ≤ (unifyNewlines cs).length) :
    backToFront splices (unifyNewlines cs) = backToFront (splices.map (original cs)) cs ↔
      Letter.char '\r' ∉ backToFront ((splices.map (original cs)).map removal) cs := by
  have start : placeIn cs 0 = 0 := by simp [placeIn]
  have within : ∀ s ∈ splices.map (original cs), s.stop ≤ cs.length := by
    intro s mem
    obtain ⟨t, _, rfl⟩ := List.mem_map.mp mem
    exact placeInside cs t.stop
  have removed : ∀ s ∈ (splices.map (original cs)).map removal, s.stop ≤ cs.length := by
    intro s mem
    obtain ⟨t, there, rfl⟩ := List.mem_map.mp mem
    exact within t there
  have moved : Apart 0 (splices.map (original cs)) := by
    rw [← start]
    exact apartOriginal apart
  rw [backToFrontPass apart inside, backToFrontPass moved within, backToFrontPass (apartRemoval moved) removed]
  have whole := @passOriginal cs 0 splices apart
  rw [start] at whole
  simpa using whole

theorem replaceOwn {s : Splice} {text : Letters} (forward : s.start ≤ s.stop)
    (own : s.newText = Document.slice text s.start s.stop) : s.replace text = text := by
  rw [replace, own, takeSlice text forward, List.take_append_drop]

theorem backToFrontOwn {text : Letters} (forward : ∀ s ∈ splices, s.start ≤ s.stop)
    (own : ∀ s ∈ splices, s.newText = Document.slice text s.start s.stop) : backToFront splices text = text := by
  induction splices with
  | nil => rfl
  | cons s rest ih =>
    obtain ⟨here, later⟩ := List.forall_mem_cons.mp forward
    obtain ⟨first, others⟩ := List.forall_mem_cons.mp own
    rw [backToFront, List.foldr_cons, ← backToFront, ih later others, replaceOwn here first]

end Splice

/-! From the file to the document and back. -/

theorem readNode {files : Files} {path : String} {octets : List UInt8} (read : files.read path = .ok octets) :
    files.node? (Path.resolve files.here path) = some (.file octets) := by
  simp only [Files.read] at read
  split at read
  · cases read
  · cases read
  · rename_i found
    cases read
    obtain ⟨_, _, found⟩ := bindOk.mp found
    obtain ⟨route, located, found⟩ := bindOk.mp found
    have follows : Path.resolve files.here path = route := (locateFollow located).symm
    rw [follows]
    split at found
    · rename_i node there
      rw [there, pureOk.mp found]
    · exact absurd found throwOk

theorem decodeCoded {cs : Letters} {octets : List UInt8} (coded : Text.Codec.utf8.encode cs = .ok octets) :
    Text.Utf8.decode octets = .ok cs.chars ∧ .ofChars cs.chars = cs := by
  obtain ⟨plain, rfl⟩ := Text.encodeOk.mp coded
  exact ⟨Text.Utf8.decodeEncode _, Text.encodableChars plain⟩

theorem holdsOne {files : Files} {route : Route} {first second : Letters} (held : HoldsText files route first) :
    HoldsText files route second ↔ first = second := by
  constructor
  · rintro ⟨octets, coded, node⟩
    obtain ⟨others, coded', node'⟩ := held
    obtain rfl : octets = others := by simpa using node.symm.trans node'
    obtain ⟨decoded, same⟩ := decodeCoded coded
    obtain ⟨decoded', same'⟩ := decodeCoded coded'
    rw [← same, ← same', Except.ok.inj (decoded.symm.trans decoded')]
  · rintro rfl
    exact held

theorem openedUnified {files : Files} {file : String} {d : Document} (fresh : Document.ofFile files file = .ok d)
    {cs : Letters} (held : HoldsText files (Path.resolve files.here d.path) cs) : d.text = Text.unifyNewlines cs := by
  obtain ⟨octets, coded, node⟩ := held
  obtain ⟨text, read, fresh⟩ := bindOk.mp fresh
  obtain rfl := pureOk.mp fresh
  simp only [Files.readText] at read
  split at read
  · cases read
  · rename_i taken
    have same := (readNode taken).symm.trans node
    simp only [Option.some.injEq, Node.file.injEq] at same
    obtain ⟨decoded, whole⟩ := decodeCoded coded
    rw [same, decoded] at read
    rw [← whole]
    exact (Except.ok.inj read).symm

variable {w w' : Workspace} {rs : List (Replacement w.buffers)} {jobs : List Job}

theorem savedNode (applied : AppliedAs (collect rs) true w w' jobs) {g : EditGroup} (mem : g ∈ collect rs)
    (alone : ∀ h ∈ collect rs, Path.resolve w.files.here h.path = Path.resolve w.files.here g.path → h = g) :
    ∃ text, g.newText w.buffers = .ok text ∧ HoldsText w'.files (Path.resolve w.files.here g.path) text := by
  obtain ⟨h, there, same, text, made, held⟩ := savedLast applied mem
  obtain rfl := alone h there same
  exact ⟨text, made, held⟩

/-- An edited file of which the document was opened is, around the replacements, as it was exactly where it has no carriage
return there. Replaced by what is read of it, it is as it was exactly where it has none at all. -/
theorem savedOutside {w w' : Workspace} (rs : List (Replacement w.buffers)) (ok : (collect rs).apply true w = (.ok (), w'))
    {g : EditGroup} (mem : g ∈ collect rs)
    (alone : ∀ h ∈ collect rs, Path.resolve w.files.here h.path = Path.resolve w.files.here g.path → h = g)
    {file : String} {d : Document} (opened : w.buffers[g.buffer]? = some d) (fresh : Document.ofFile w.files file = .ok d)
    {cs : Letters} (held : HoldsText w.files (Path.resolve w.files.here d.path) cs) :
    ∃ splices, List.Forall₂ (Splice.Resolved d) g.edits splices ∧
      (HoldsText w'.files (Path.resolve w.files.here d.path)
          (Splice.backToFront ((Splice.inOrder splices).map (Splice.original cs)) cs) ↔
        Letter.char '\r' ∉ Splice.backToFront (((Splice.inOrder splices).map (Splice.original cs)).map Splice.removal) cs) ∧
      ((∀ e ∈ g.edits, d.read e.range = .ok e.newText) →
        (HoldsText w'.files (Path.resolve w.files.here d.path) cs ↔ Letter.char '\r' ∉ cs)) := by
  obtain ⟨jobs, applied⟩ := applyOk ok
  obtain ⟨text, made, node⟩ := savedNode applied mem alone
  have path : d.path = g.path := by
    obtain ⟨d', opened', path⟩ := gatheredOpened ((collectCollected rs).gathered g mem)
    rw [opened, Option.some.injEq] at opened'
    rw [opened', path]
  have unified := openedUnified fresh held
  obtain ⟨splices, resolved, apart, rfl⟩ := (EditGroup.newTextOk opened).mp made
  have inside : ∀ s ∈ Splice.inOrder splices, s.stop ≤ (Text.unifyNewlines cs).length := by
    intro s mem
    obtain ⟨e, _, placed⟩ := pairedLeft resolved (List.mem_mergeSort.mp mem)
    obtain ⟨k, same, short⟩ := Document.offsetAtInside placed.stop
    rw [← unified]
    omega
  refine ⟨splices, resolved, ?_, fun asRead => ?_⟩
  · rw [path, holdsOne node, unified]
    exact Splice.backToFrontOriginal apart inside
  · have forward : ∀ s ∈ Splice.inOrder splices, s.start ≤ s.stop := fun s mem =>
      ((Splice.apartPairwise.mp apart).1 s mem).2
    have own : ∀ s ∈ Splice.inOrder splices, s.newText = Document.slice d.text s.start s.stop := by
      intro s mem
      obtain ⟨e, there, placed⟩ := pairedLeft resolved (List.mem_mergeSort.mp mem)
      have read := Document.readCovers ⟨placed.start, placed.stop, forward s mem⟩
      rw [asRead e there, Except.ok.injEq] at read
      rw [placed.newText, read]
    rw [path, holdsOne node, Splice.backToFrontOwn forward own, unified]
    exact Text.unifyChanges

def sheet (octets : List UInt8) : Workspace where
  files := { nodes := [(["p"], .folder), (["p", "A.jsx"], .file octets)], here := ["p"] }
  buffers := [⟨"/p/A.jsx", ['a', '\n', 'b'], "javascriptreact", "file"⟩]

def sheetEdits (octets : List UInt8) (text : Letters) : List (Replacement (sheet octets).buffers) :=
  [⟨⟨0, Nat.zero_lt_one⟩, ⟨⟨.ofInts 1 0, .ofInts 1 1⟩, text⟩⟩]

theorem sheetKept : ∃ w', (collect (sheetEdits [97, 10, 98] ['b'])).apply true (sheet [97, 10, 98]) = (.ok (), w') ∧
    w'.files.node? ["p", "A.jsx"] = some (.file [97, 10, 98]) := by
  have ok : (collect (sheetEdits [97, 10, 98] ['b'])).apply true (sheet [97, 10, 98]) =
      (.ok (), ((collect (sheetEdits [97, 10, 98] ['b'])).apply true (sheet [97, 10, 98])).2) :=
    Prod.ext (by decide) rfl
  have mem : ⟨"/p/A.jsx", 0, [⟨⟨.ofInts 1 0, .ofInts 1 1⟩, ['b']⟩]⟩ ∈ collect (sheetEdits [97, 10, 98] ['b']) := by decide
  have fresh : Document.ofFile (sheet [97, 10, 98]).files "A.jsx" =
      .ok ⟨"/p/A.jsx", ['a', '\n', 'b'], "javascriptreact", "file"⟩ := by decide
  have held : HoldsText (sheet [97, 10, 98]).files (Path.resolve ["p"] "/p/A.jsx") ['a', '\n', 'b'] :=
    ⟨_, rfl, by decide⟩
  obtain ⟨_, _, _, asRead⟩ := savedOutside _ ok mem (by decide) rfl fresh held
  obtain ⟨octets, coded, node⟩ := (asRead (by decide)).mpr (by decide)
  cases coded
  exact ⟨_, ok, node⟩

theorem sheetChanged : ∃ w', (collect (sheetEdits [97, 13, 10, 98] ['c'])).apply true (sheet [97, 13, 10, 98]) = (.ok (), w') ∧
    Document.ofFile (sheet [97, 13, 10, 98]).files "A.jsx" = .ok ⟨"/p/A.jsx", ['a', '\n', 'b'], "javascriptreact", "file"⟩ ∧
    HoldsText (sheet [97, 13, 10, 98]).files ["p", "A.jsx"] ['a', '\r', '\n', 'b'] ∧
    ¬HoldsText w'.files ["p", "A.jsx"]
      ((Splice.original ['a', '\r', '\n', 'b'] ⟨2, 3, ['c']⟩).replace ['a', '\r', '\n', 'b']) := by
  refine ⟨_, Prod.ext (by decide) rfl, by decide, ⟨_, rfl, by decide⟩, ?_⟩
  rintro ⟨octets, coded, node⟩
  cases coded
  exact absurd node (by decide)

end AccessFix
