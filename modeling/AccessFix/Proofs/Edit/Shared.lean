import AccessFix.Proofs.Edit.Newlines

/-! Documents that share a path or a file. An edit has one group for a path, of the document that came first with it, and files
are written one after the other. So a document has its own replacements exactly where those of others with its path come to
nothing, and its file holds what it shows exactly where all documents of the file come to one text. -/
namespace AccessFix
open Fallible Files WorkspaceEdit
open Letter (char)

variable {buffers : Buffers}

def madeTo (document : Fin buffers.length) (rs : List (Replacement buffers)) : List TextEdit :=
  (rs.filter fun r => r.document = document).map Replacement.edit

def ownText (document : Fin buffers.length) (rs : List (Replacement buffers)) : Except PositionFault (Letters) :=
  (buffers.get document).replaceAll (madeTo document rs)

def Leading (rs : List (Replacement buffers)) (r : Replacement buffers) : Prop :=
  ∃ first, (own r.path rs).head? = some first ∧ first.document = r.document

structure Undivided (here : Route) (rs : List (Replacement buffers)) : Prop where
  leading : ∀ r ∈ rs, Leading rs r → ownText r.document rs = (buffers.get r.document).replaceAll (ownEdits r.path rs)
  behind : ∀ r ∈ rs, ¬Leading rs r → ownText r.document rs = .ok (buffers.get r.document).text
  alike : ∀ r ∈ rs, ∀ r' ∈ rs, Path.resolve here r.path = Path.resolve here r'.path →
    ownText r.document rs = ownText r'.document rs

theorem openedAt (document : Fin buffers.length) : buffers[(document : Nat)]? = some (buffers.get document) :=
  List.getElem?_eq_getElem document.isLt

/-! The group of a replacement. -/

theorem replacementGroup {rs : List (Replacement buffers)} {r : Replacement buffers} (mem : r ∈ rs) :
    ∃ g ∈ collect rs, g.path = r.path ∧ (g.buffer = r.document ↔ Leading rs r) := by
  obtain ⟨g, there, same⟩ := List.mem_map.mp ((collectCollected rs).whole r mem)
  obtain ⟨first, head, document⟩ := ((collectCollected rs).gathered g there).first
  rw [same] at head
  refine ⟨g, there, same, ?_⟩
  rw [document, Leading, head]
  simp [Fin.val_inj]

theorem groupReplacement {rs : List (Replacement buffers)} {g : EditGroup} (mem : g ∈ collect rs) :
    ∃ r ∈ rs, r.path = g.path ∧ g.buffer = r.document ∧ Leading rs r := by
  obtain ⟨first, head, document⟩ := ((collectCollected rs).gathered g mem).first
  obtain ⟨there, path⟩ := List.mem_filter.mp (List.mem_of_mem_head? head)
  have path := of_decide_eq_true path
  exact ⟨first, there, path, document, first, by rw [path, head], rfl⟩

theorem leadingAlone {rs : List (Replacement buffers)} {g : EditGroup} (mem : g ∈ collect rs) {r : Replacement buffers}
    (document : g.buffer = r.document) : Leading rs r := by
  obtain ⟨first, _, path, same, leading⟩ := groupReplacement mem
  have alike : first.document = r.document := Fin.ext (same.symm.trans document)
  obtain ⟨head, here, one⟩ := leading
  have samePath : first.path = r.path := congrArg (fun id : Fin buffers.length => (buffers.get id).path) alike
  exact ⟨head, samePath ▸ here, one.trans alike⟩

/-! Documents of an applied edit. -/

variable {w w' : Workspace} {rs : List (Replacement w.buffers)} {save : Bool} {jobs : List Job} {r : Replacement w.buffers}

theorem replacedIn {document : Fin w.buffers.length} {edits : List TextEdit} : Replaced w w' document edits ↔
    ∃ text, (w.buffers.get document).replaceAll edits = .ok text ∧
      w'.buffers[(document : Nat)]? = some { w.buffers.get document with text := text } := by
  simp only [Replaced, openedAt, Option.some.injEq]
  constructor
  · rintro ⟨_, text, rfl, made⟩
    exact ⟨text, made⟩
  · rintro ⟨text, made⟩
    exact ⟨_, text, rfl, made⟩

theorem leadingReplaced (applied : AppliedAs (collect rs) save w w' jobs) (mem : r ∈ rs) (leading : Leading rs r) :
    Replaced w w' r.document (ownEdits r.path rs) := by
  obtain ⟨g, there, path, document⟩ := replacementGroup mem
  rw [← document.mpr leading, ← path]
  exact appliedReplaced applied there

theorem behindKept (applied : AppliedAs (collect rs) save w w' jobs) (behind : ¬Leading rs r) :
    w'.buffers[(r.document : Nat)]? = some (w.buffers.get r.document) := by
  rw [appliedElsewhere applied fun g mem document => behind (leadingAlone mem document), openedAt]

theorem ownReplaced (applied : AppliedAs (collect rs) save w w' jobs) (mem : r ∈ rs) :
    Replaced w w' r.document (madeTo r.document rs) ↔
      (Leading rs r → ownText r.document rs = (w.buffers.get r.document).replaceAll (ownEdits r.path rs)) ∧
      (¬Leading rs r → ownText r.document rs = .ok (w.buffers.get r.document).text) := by
  rw [replacedIn, ← ownText]
  by_cases leading : Leading rs r
  · obtain ⟨text, made, after⟩ := replacedIn.mp (leadingReplaced applied mem leading)
    simp only [leading, made, after, Option.some.injEq, Document.mk.injEq, true_and, and_true, exists_eq_right', true_imp_iff,
      not_true, false_imp_iff]
  · simp only [leading, behindKept applied leading, not_false_eq_true, true_imp_iff, false_imp_iff, true_and, Option.some.injEq]
    constructor
    · rintro ⟨text, made, same⟩
      rw [made]
      exact congrArg _ (congrArg Document.text same).symm
    · exact fun made => ⟨_, made, rfl⟩

/-! Files of a saved edit. -/

theorem storedRoute (applied : AppliedAs (collect rs) true w w' jobs) (mem : r ∈ rs) {d : Document}
    (opened : w'.buffers[(r.document : Nat)]? = some d) (path : d.path = r.path) :
    Stored w' r.document ↔ w'.files.HoldsText (Path.resolve w.files.here r.path) d.text := by
  obtain ⟨g, here, same, _⟩ := replacementGroup mem
  have leads := savedTarget applied here
  rw [same, ← path] at leads
  rw [← path]
  constructor
  · rintro ⟨_, octets, opened', coded, read⟩
    obtain rfl := Option.some.inj (opened.symm.trans opened')
    exact ⟨octets, coded, (readTarget leads).mp read⟩
  · rintro ⟨octets, coded, node⟩
    exact ⟨d, octets, opened, coded, (readTarget leads).mpr node⟩

theorem savedLeading (applied : AppliedAs (collect rs) true w w' jobs) (mem : r ∈ rs) :
    ∃ last ∈ rs, Leading rs last ∧ Path.resolve w.files.here last.path = Path.resolve w.files.here r.path ∧
      ∃ text, (w.buffers.get last.document).replaceAll (ownEdits last.path rs) = .ok text ∧
        w'.files.HoldsText (Path.resolve w.files.here r.path) text := by
  obtain ⟨g, here, path, _⟩ := replacementGroup mem
  obtain ⟨h, there, same, text, made, held⟩ := savedLast applied here
  obtain ⟨last, among, path', document, leading⟩ := groupReplacement there
  have opened : w.buffers[h.buffer]? = some (w.buffers.get last.document) := by rw [document, openedAt]
  refine ⟨last, among, leading, by rw [path', ← path, same], text, ?_, ?_⟩
  · rw [path', ← ((collectCollected rs).gathered h there).edits]
    exact EditGroup.newTextReplaceAll opened made
  · rwa [← path]

theorem storedReplaced (applied : AppliedAs (collect rs) true w w' jobs) (mem : r ∈ rs) {edits : List TextEdit}
    (replaced : Replaced w w' r.document edits) :
    ∃ text, (w.buffers.get r.document).replaceAll edits = .ok text ∧
      (Stored w' r.document ↔ w'.files.HoldsText (Path.resolve w.files.here r.path) text) := by
  obtain ⟨text, made, after⟩ := replacedIn.mp replaced
  exact ⟨text, made, storedRoute applied mem after rfl⟩

theorem undividedApart (here : Route) {rs : List (Replacement buffers)}
    (apart : ∀ r ∈ rs, ∀ r' ∈ rs, Path.resolve here r.path = Path.resolve here r'.path → r.document = r'.document) :
    Undivided here rs := by
  refine ⟨fun r mem _ => ?_, fun r mem behind => ?_, fun r mem r' mem' same => by rw [apart r mem r' mem' same]⟩
  · have owned : madeTo r.document rs = ownEdits r.path rs := by
      refine congrArg (List.map Replacement.edit) (List.filter_congr fun q mem' => decide_eq_decide.mpr ⟨?_, ?_⟩)
      · exact congrArg fun id : Fin buffers.length => (buffers.get id).path
      · exact fun same => apart q mem' r mem (by rw [same])
    rw [ownText, owned]
  · obtain ⟨g, there, path, _⟩ := replacementGroup mem
    obtain ⟨first, mem', path', document, leading⟩ := groupReplacement there
    have one : first.document = r.document := apart first mem' r mem (by rw [path', path])
    exact absurd (leadingAlone there (document.trans (congrArg Fin.val one))) behind

/-- Of a saved edit, every document has its own replacements and is what its file holds, exactly where the edit is undivided: so
where no two documents are of one file. -/
theorem editsKept {w w' : Workspace} (rs : List (Replacement w.buffers)) (ok : (collect rs).apply true w = (.ok (), w')) :
    ((∀ r ∈ rs, Replaced w w' r.document (madeTo r.document rs) ∧ Stored w' r.document) ↔ Undivided w.files.here rs) ∧
    ((∀ r ∈ rs, ∀ r' ∈ rs, Path.resolve w.files.here r.path = Path.resolve w.files.here r'.path →
      r.document = r'.document) → Undivided w.files.here rs) := by
  obtain ⟨jobs, applied⟩ := applyOk ok
  refine ⟨⟨fun kept => ?_, fun undivided r mem => ?_⟩, undividedApart w.files.here⟩
  · refine ⟨fun r mem => ((ownReplaced applied mem).mp (kept r mem).1).1, fun r mem => ((ownReplaced applied mem).mp (kept r mem).1).2,
      fun r mem r' mem' same => ?_⟩
    obtain ⟨text, made, stored⟩ := storedReplaced applied mem (kept r mem).1
    obtain ⟨text', made', stored'⟩ := storedReplaced applied mem' (kept r' mem').1
    have held := stored.mp (kept r mem).2
    have held' := stored'.mp (kept r' mem').2
    rw [same] at held
    rw [ownText, ownText, made, made', (holdsOne held).mp held']
  · have replaced := (ownReplaced applied mem).mpr ⟨undivided.leading r mem, undivided.behind r mem⟩
    obtain ⟨text, made, stored⟩ := storedReplaced applied mem replaced
    obtain ⟨last, among, leading, same, text', made', held⟩ := savedLeading applied mem
    have alike : ownText r.document rs = .ok text' := by
      rw [← undivided.alike last among r mem same, undivided.leading last among leading, made']
    obtain rfl := Except.ok.inj (made.symm.trans alike)
    exact ⟨replaced, stored.mpr held⟩

def tray (second : String) : Workspace where
  files := { nodes := [(["p"], .folder), (["p", "A.jsx"], .file [120, 121])], here := ["p"] }
  buffers := [⟨"/p/A.jsx", ['x', 'y'], "javascriptreact", "file"⟩, ⟨second, ['x', 'y'], "javascriptreact", "file"⟩]

def trayEdits (second : String) (text : Letters) : List (Replacement (tray second).buffers) :=
  [⟨⟨0, Nat.zero_lt_two⟩, ⟨⟨.ofInts 0 0, .ofInts 0 0⟩, ['1']⟩⟩, ⟨⟨1, Nat.one_lt_two⟩, ⟨⟨.ofInts 0 0, .ofInts 0 0⟩, text⟩⟩]

theorem trayKept : ∃ w', (collect (trayEdits "/p/B.jsx" ['2'])).apply true (tray "/p/B.jsx") = (.ok (), w') ∧
    ∀ r ∈ trayEdits "/p/B.jsx" ['2'],
      Replaced (tray "/p/B.jsx") w' r.document (madeTo r.document (trayEdits "/p/B.jsx" ['2'])) ∧ Stored w' r.document := by
  have ok : (collect (trayEdits "/p/B.jsx" ['2'])).apply true (tray "/p/B.jsx") =
      (.ok (), ((collect (trayEdits "/p/B.jsx" ['2'])).apply true (tray "/p/B.jsx")).2) := Prod.ext (by decide) rfl
  obtain ⟨kept, apart⟩ := editsKept _ ok
  exact ⟨_, ok, kept.mpr (apart (by decide))⟩

theorem trayLost : (∃ w', (collect (trayEdits "/p/A.jsx" ['1'])).apply true (tray "/p/A.jsx") = (.ok (), w') ∧
      w'.buffers.map Document.text = [[char '1', char '1', char 'x', char 'y'], [char 'x', char 'y']] ∧
      ∀ r ∈ trayEdits "/p/A.jsx" ['1'], ownText r.document (trayEdits "/p/A.jsx" ['1']) = .ok [char '1', char 'x', char 'y'] ∧
        ¬Replaced (tray "/p/A.jsx") w' r.document (madeTo r.document (trayEdits "/p/A.jsx" ['1']))) ∧
    ∃ w', (collect (trayEdits "/p/./A.jsx" ['2'])).apply true (tray "/p/./A.jsx") = (.ok (), w') ∧
      w'.buffers.map Document.text = [[char '1', char 'x', char 'y'], [char '2', char 'x', char 'y']] ∧ ¬Stored w' 0 := by
  refine ⟨⟨_, Prod.ext (by decide) rfl, by decide, ?_⟩, _, Prod.ext (by decide) rfl, by decide, ?_⟩
  · have own : ∀ r ∈ trayEdits "/p/A.jsx" ['1'],
        ownText r.document (trayEdits "/p/A.jsx" ['1']) = .ok [char '1', char 'x', char 'y'] := by
      intro r mem
      have made : ∀ r ∈ trayEdits "/p/A.jsx" ['1'],
          EditGroup.newText (tray "/p/A.jsx").buffers ⟨r.path, r.document, madeTo r.document (trayEdits "/p/A.jsx" ['1'])⟩ =
            .ok [char '1', char 'x', char 'y'] := by decide
      exact EditGroup.newTextReplaceAll (openedAt r.document) (made r mem)
    have other : ∀ r ∈ trayEdits "/p/A.jsx" ['1'],
        ((collect (trayEdits "/p/A.jsx" ['1'])).apply true (tray "/p/A.jsx")).2.buffers[(r.document : Nat)]?.map Document.text ≠
          some [char '1', char 'x', char 'y'] := by decide
    intro r mem
    refine ⟨own r mem, fun replaced => ?_⟩
    obtain ⟨text, made, after⟩ := replacedIn.mp replaced
    obtain rfl := Except.ok.inj ((own r mem).symm.trans made)
    exact other r mem (congrArg (Option.map Document.text) after)
  · rintro ⟨d, octets, opened, coded, read⟩
    obtain rfl := Option.some.inj opened
    cases coded
    exact absurd read (by decide)

end AccessFix
