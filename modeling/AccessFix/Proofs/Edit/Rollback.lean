import AccessFix.Proofs.Edit.Apply

/-! What a refused write leaves behind. The files written before it are given back the texts of their open documents and not
what they held, so all files are as before exactly where every one of them held what its document shows. -/
namespace AccessFix
open Fallible Files WorkspaceEdit

variable {buffers : Buffers} {files : Files}

structure Backed (buffers : Buffers) (files : Files) (g : EditGroup) (back : Writing) : Prop extends
    Filed buffers files g back where
  octets : ∃ d, buffers[g.buffer]? = some d ∧ Text.Codec.utf8.encode d.text = .ok back.2

theorem backed {rs : List (Replacement buffers)} {g : EditGroup} {job : Job} {back : Writing}
    (gathered : Gathered rs g) (texted : Texted buffers g job) (goes : Goes buffers files (kept buffers job) back) :
    Backed buffers files g back := by
  obtain ⟨d, opened, _⟩ := gatheredOpened gathered
  have document : (kept buffers job).1 = g.buffer := texted.document
  have octets := goes.octets
  rw [kept, texted.document, opened, Option.getD_some] at octets
  exact ⟨filed gathered document goes, d, opened, octets⟩

def Restorable (w : Workspace) (groups : List EditGroup) : Prop :=
  ∀ before g after, groups = before ++ g :: after →
    (∀ later ∈ after, Path.resolve w.files.here later.path ≠ Path.resolve w.files.here g.path) → Stored w g.buffer

theorem backedStored {w : Workspace} {g : EditGroup} {back : Writing} (backed : Backed w.buffers w.files g back) :
    Stored w g.buffer ↔ w.files.node? back.1 = some (.file back.2) := by
  obtain ⟨⟨⟨d, opened, _, leads⟩, _⟩, d', opened', octets⟩ := backed
  rw [opened, Option.some.injEq] at opened'
  subst opened'
  rw [← readTarget leads]
  constructor
  · rintro ⟨d', _, opened', coded, read⟩
    rw [opened, Option.some.injEq] at opened'
    subst opened'
    rw [octets, Except.ok.injEq] at coded
    rwa [coded]
  · exact fun read => ⟨d, back.2, opened, octets, read⟩

theorem backedRestorable {w : Workspace} {groups : List EditGroup} {back : List Writing}
    (paired : List.Forall₂ (Backed w.buffers w.files) groups back) :
    Restorable w groups ↔
      ∀ route octets, lastAt route back = some octets → w.files.node? route = some (.file octets) := by
  constructor
  · -- what is last written to a route comes of the last group that resolves to it
    intro restorable route octets last
    obtain ⟨_, _, rfl, free⟩ := lastAtSome.mp last
    obtain ⟨before, g, after, rfl, _, here, later⟩ := pairedSplit paired
    refine (backedStored here).mp (restorable before g after rfl fun h mem same => ?_)
    obtain ⟨writing, there, backed⟩ := pairedRight later mem
    exact free writing there (backed.route.trans (same.trans here.route.symm))
  · rintro held before g after rfl free
    obtain ⟨_, back, _, rfl, _, here, later⟩ := pairedSplit (R := fun b g => Backed w.buffers w.files g b) paired.flip
    refine (backedStored here).mpr (held back.1 back.2 (lastAtSome.mpr ⟨_, _, rfl, fun writing mem same => ?_⟩))
    obtain ⟨h, there, backed⟩ := pairedRight later mem
    exact free h there (backed.route.symm.trans (same.trans here.route))

theorem applyRefused {e : WorkspaceEdit} {w w' : Workspace} {path : String} {f : FileFault}
    (refused : e.apply true w = (.error (.unwritable path f), w')) :
    ∃ jobs, List.Forall₂ (Texted w.buffers) e jobs ∧ w'.buffers = w.buffers ∧
      writeAll w.buffers w.files [] jobs = (.error (.unwritable path f), w'.files) := by
  simp only [WorkspaceEdit.apply] at refused
  split at refused
  · rename_i early
    cases refused
    cases newTextsEarly early
  · rename_i jobs made
    split at refused
    · rename_i wrote
      cases refused
      exact ⟨jobs, newTextsOk.mp made, rfl, wrote⟩
    · cases refused

theorem nodeTakenBack {groups : List EditGroup} {jobs : List Job} {writings back : List Writing}
    (placed : Placed buffers files jobs writings) (paired : List.Forall₂ (Backed buffers files) groups back)
    (routes : back.map Prod.fst = writings.map Prod.fst) (route : Route) :
    (files.holdingAll (writings ++ back)).node? route =
      ((lastAt route back).map .file).or (files.node? route) := by
  have namedBack : ∀ writing ∈ back, writing.1 ≠ [] := by
    intro writing mem
    obtain ⟨_, _, ⟨⟨_, _, _, leads⟩, _⟩, _⟩ := pairedLeft paired mem
    exact leads.routeNamed
  rw [nodeHoldingAll (List.forall_mem_append.mpr ⟨placedNamed placed, namedBack⟩), lastAtAppend]
  cases last : lastAt route back with
  | some octets => rfl
  | none =>
    have free : lastAt route writings = none := by
      rw [lastAtNone, ← List.forall_mem_map (P := (· ≠ route)), ← routes, List.forall_mem_map]
      exact lastAtNone.mp last
    rw [free]
    rfl

/-- A refused write changes no document, and no file either exactly where the files written before it held what their
documents show. -/
theorem refusedRestores {w w' : Workspace} (rs : List (Replacement w.buffers)) {path : String} {f : FileFault}
    (refused : (collect rs).apply true w = (.error (.unwritable path f), w')) :
    ∃ done failed rest, collect rs = done ++ failed :: rest ∧ failed.path = path ∧
      (∀ g ∈ done, ∃ route, Target w.files (Path.normal g.path) route) ∧
      (∀ route, ¬Target w.files (Path.normal failed.path) route) ∧ w'.buffers = w.buffers ∧
      ((∀ route, w'.files.node? route = w.files.node? route) ↔ Restorable w done) := by
  obtain ⟨jobs, texted, sameBuffers, wrote⟩ := applyRefused refused
  have gathered := (collectCollected rs).gathered
  obtain ⟨first, id, text, _, d, writings, back, rfl, placed, again, routes, files, opened, rfl, never⟩ :=
    writeAllRefused (textedOpened gathered texted) wrote
  obtain ⟨done, failed, rest, split, doneTexted, here, _⟩ := pairedSplit texted
  rw [split] at gathered
  have doneGathered : ∀ g ∈ done, Gathered rs g := fun g mem => gathered g (by simp [mem])
  obtain ⟨d', opened', path'⟩ := gatheredOpened (gathered failed (by simp))
  rw [← here.document, opened, Option.some.injEq] at opened'
  subst opened'
  have paired : List.Forall₂ (Backed w.buffers w.files) done back := by
    refine ((List.forall₂_and_left _ _).mpr
      ⟨doneGathered, pairedThrough doneTexted (List.forall₂_map_left_iff.mp again)⟩).imp ?_
    rintro g b ⟨gathered, job, texted, goes⟩
    exact backed gathered texted goes
  refine ⟨done, failed, rest, split, path'.symm, ?_, path' ▸ never, sameBuffers, ?_⟩
  · intro g mem
    obtain ⟨b, _, ⟨⟨d, _, path, leads⟩, _⟩, _⟩ := pairedRight paired mem
    exact ⟨b.1, path ▸ leads⟩
  · rw [backedRestorable paired]
    simp only [files, nodeTakenBack placed paired routes]
    refine forall_congr' fun route => ?_
    cases lastAt route back with
    | none => simp
    | some octets => simp [eq_comm]

def shelf (octets : List UInt8) : Workspace where
  files := { nodes := [(["p"], .folder), (["p", "A.jsx"], .file octets), (["p", "B.jsx"], .folder)], here := ["p"] }
  buffers := [⟨"/p/A.jsx", ['x', '\n'], "javascriptreact", "file"⟩, ⟨"/p/B.jsx", ['y'], "javascriptreact", "file"⟩]

def shelfEdits (octets : List UInt8) : List (Replacement (shelf octets).buffers) :=
  [⟨⟨0, Nat.zero_lt_two⟩, ⟨⟨.ofInts 0 0, .ofInts 0 1⟩, ['z']⟩⟩, ⟨⟨1, Nat.one_lt_two⟩, ⟨⟨.ofInts 0 0, .ofInts 0 1⟩, ['w']⟩⟩]

theorem shelfRestored : ∃ w', (collect (shelfEdits [120, 10])).apply true (shelf [120, 10]) =
      (.error (.unwritable "/p/B.jsx" ⟨.isFolder, "/p/B.jsx"⟩), w') ∧
    ∀ route, w'.files.node? route = (shelf [120, 10]).files.node? route := by
  have refused : (collect (shelfEdits [120, 10])).apply true (shelf [120, 10]) =
      (.error (.unwritable "/p/B.jsx" ⟨.isFolder, "/p/B.jsx"⟩),
        ((collect (shelfEdits [120, 10])).apply true (shelf [120, 10])).2) := Prod.ext (by decide) rfl
  obtain ⟨done, failed, rest, split, _, leads, _, _, restored⟩ := refusedRestores _ refused
  refine ⟨_, refused, restored.mpr fun before g after here _ => ?_⟩
  have mem : g ∈ done := by simp [here]
  have among : g ∈ collect (shelfEdits [120, 10]) := by simp [split, mem]
  rcases List.mem_pair.mp among with rfl | rfl
  · exact ⟨_, _, rfl, rfl, by decide⟩
  · obtain ⟨route, leads⟩ := leads _ mem
    have folder : (shelf [120, 10]).files.target (Path.normal "/p/B.jsx") = .error .isFolder := by decide
    cases folder.symm.trans (targetOk.mpr leads)

theorem shelfChanged : ∃ w', (collect (shelfEdits [120, 13, 10])).apply true (shelf [120, 13, 10]) =
      (.error (.unwritable "/p/B.jsx" ⟨.isFolder, "/p/B.jsx"⟩), w') ∧
    Document.ofFile (shelf [120, 13, 10]).files "/p/A.jsx" = .ok ⟨"/p/A.jsx", ['x', '\n'], "javascriptreact", "file"⟩ ∧
    w'.files.node? ["p", "A.jsx"] ≠ (shelf [120, 13, 10]).files.node? ["p", "A.jsx"] :=
  ⟨_, Prod.ext (by decide) rfl, by decide, by decide⟩

end AccessFix
