import AccessFix.Proofs.Edit.Collect
import AccessFix.Proofs.Edit.Reference
import AccessFix.Proofs.Edit.Write

/-! What an applied edit has done. Every document of the edit has the text that its own replacements give, and nothing else
of it has changed; the other documents are as they were. Saved files hold the new texts. -/
namespace AccessFix
open Fallible Files WorkspaceEdit

variable {buffers : Buffers}

/-! New texts for documents. -/

theorem setTextsElsewhere {jobs : List Job} {id : BufferId} (free : ∀ job ∈ jobs, job.1 ≠ id) :
    (setTexts buffers jobs)[id]? = buffers[id]? := by
  induction jobs generalizing buffers with
  | nil => rfl
  | cons job rest ih =>
    obtain ⟨here, later⟩ := List.forall_mem_cons.mp free
    rw [setTexts, ih later, List.getElem?_modify_ne _ _ here]

theorem setTextsAt {jobs : List Job} (distinct : (jobs.map Prod.fst).Nodup) {job : Job} (mem : job ∈ jobs) :
    (setTexts buffers jobs)[job.1]? = buffers[job.1]?.map fun d => { d with text := job.2 } := by
  induction jobs generalizing buffers with
  | nil => simp at mem
  | cons head rest ih =>
    rw [List.map_cons, List.nodup_cons] at distinct
    have later : ∀ other ∈ rest, other.1 ≠ head.1 := fun other there same =>
      distinct.1 (same ▸ List.mem_map_of_mem there)
    rw [setTexts]
    rcases List.mem_cons.mp mem with rfl | there
    · rw [setTextsElsewhere later, List.getElem?_modify_eq]
      rfl
    · rw [ih distinct.2 there, List.getElem?_modify_ne _ _ (Ne.symm (later job there))]

/-! The groups of an edit, their new texts and the writings of these. -/

structure Texted (buffers : Buffers) (g : EditGroup) (job : Job) : Prop where
  document : job.1 = g.buffer
  text : g.newText buffers = .ok job.2

theorem newTextsOk {e : WorkspaceEdit} {jobs : List Job} :
    e.newTexts buffers = .ok jobs ↔ List.Forall₂ (Texted buffers) e jobs := by
  rw [WorkspaceEdit.newTexts, mapMOk]
  refine ⟨fun paired => paired.imp fun g job made => ?_, fun paired => paired.imp fun g job texted => ?_⟩
  · obtain ⟨text, new, ok⟩ := bindOk.mp made
    obtain rfl := pureOk.mp ok
    exact ⟨rfl, new⟩
  · obtain ⟨document, text⟩ := texted
    exact bindOk.mpr ⟨job.2, text, by rw [← document]; rfl⟩

theorem newTextsEarly {e : WorkspaceEdit} {f : EditFault} (failed : e.newTexts buffers = .error f) : f.Early := by
  obtain ⟨g, _, failed⟩ := mapMError failed
  rcases bindError.mp failed with early | ⟨_, _, never⟩
  · exact EditGroup.newTextEarly early
  · exact absurd never pureError

structure AppliedAs (e : WorkspaceEdit) (save : Bool) (w w' : Workspace) (jobs : List Job) : Prop where
  texts : List.Forall₂ (Texted w.buffers) e jobs
  buffers : w'.buffers = setTexts w.buffers jobs
  unsaved : save = false → w'.files = w.files
  saved : save = true → writeAll w.buffers w.files [] jobs = (.ok (), w'.files)

theorem applyOk {e : WorkspaceEdit} {save : Bool} {w w' : Workspace} (ok : e.apply save w = (.ok (), w')) :
    ∃ jobs, AppliedAs e save w w' jobs := by
  simp only [WorkspaceEdit.apply] at ok
  split at ok
  · cases ok
  · rename_i jobs made
    split at ok
    · cases ok
    · rename_i files wrote
      cases ok
      refine ⟨jobs, newTextsOk.mp made, rfl, fun unsaved => ?_, fun saved => ?_⟩
      · rw [unsaved] at wrote
        cases wrote
        rfl
      · rwa [if_pos saved] at wrote

theorem textedOpened {rs : List (Replacement buffers)} {groups : List EditGroup} {jobs : List Job}
    (gathered : ∀ g ∈ groups, Gathered rs g) (texted : List.Forall₂ (Texted buffers) groups jobs) :
    ∀ job ∈ jobs, ∃ d, buffers[job.1]? = some d := by
  intro job mem
  obtain ⟨g, there, document, _⟩ := pairedLeft texted mem
  obtain ⟨d, opened, _⟩ := gatheredOpened (gathered g there)
  exact ⟨d, by rw [document, opened]⟩

structure Filed (buffers : Buffers) (files : Files) (g : EditGroup) (w : Writing) : Prop where
  document : ∃ d, buffers[g.buffer]? = some d ∧ d.path = g.path ∧ Target files (Path.normal d.path) w.1
  route : w.1 = Path.resolve files.here g.path

theorem filed {files : Files} {rs : List (Replacement buffers)} {g : EditGroup} {job : Job} {w : Writing}
    (gathered : Gathered rs g) (document : job.1 = g.buffer) (goes : Goes buffers files job w) :
    Filed buffers files g w := by
  obtain ⟨d, opened, path⟩ := gatheredOpened gathered
  obtain ⟨d', opened', leads⟩ := goes.leads
  rw [document, opened, Option.some.injEq] at opened'
  subst opened'
  exact ⟨⟨d, opened, path, leads⟩, path ▸ leads.resolved⟩

structure Renewed (buffers : Buffers) (files : Files) (g : EditGroup) (w : Writing) : Prop extends
    Filed buffers files g w where
  octets : ∃ text, g.newText buffers = .ok text ∧ Text.Codec.utf8.encode text = .ok w.2

theorem renewedAll {files : Files} {rs : List (Replacement buffers)} {groups : List EditGroup} {jobs : List Job}
    {writings : List Writing} (gathered : ∀ g ∈ groups, Gathered rs g)
    (texted : List.Forall₂ (Texted buffers) groups jobs) (placed : Placed buffers files jobs writings) :
    List.Forall₂ (Renewed buffers files) groups writings := by
  refine ((List.forall₂_and_left _ _).mpr ⟨gathered, pairedThrough texted placed⟩).imp ?_
  rintro g w ⟨gathered, job, texted, goes⟩
  exact ⟨filed gathered texted.document goes, job.2, texted.text, goes.octets⟩

/-! What has become of documents and files. -/

def Replaced (w w' : Workspace) (id : BufferId) (edits : List TextEdit) : Prop :=
  ∃ d text, w.buffers[id]? = some d ∧ d.replaceAll edits = .ok text ∧ w'.buffers[id]? = some { d with text := text }

def Stored (w : Workspace) (id : BufferId) : Prop :=
  ∃ d octets, w.buffers[id]? = some d ∧ Text.Codec.utf8.encode d.text = .ok octets ∧
    w.files.read (Path.normal d.path) = .ok octets

theorem replacedAlike {w w' v v' : Workspace} {id other : BufferId} {edits : List TextEdit}
    (one : Replaced w w' id edits) (two : Replaced v v' other edits) (same : v.buffers[other]? = w.buffers[id]?) :
    v'.buffers[other]? = w'.buffers[id]? := by
  obtain ⟨d, text, opened, made, after⟩ := one
  obtain ⟨d', text', opened', made', after'⟩ := two
  rw [opened', opened, Option.some.injEq] at same
  subst same
  rw [made', Except.ok.injEq] at made
  rw [after, after', made]

variable {w w' : Workspace} {rs : List (Replacement w.buffers)} {save : Bool} {jobs : List Job}

theorem jobsDistinct (applied : AppliedAs (collect rs) save w w' jobs) : (jobs.map Prod.fst).Nodup := by
  rw [pairedMap (applied.texts.imp fun _ _ => Texted.document)]
  exact collectDocuments rs

theorem appliedReplaced (applied : AppliedAs (collect rs) save w w' jobs) {g : EditGroup}
    (mem : g ∈ collect rs) : Replaced w w' g.buffer (ownEdits g.path rs) := by
  obtain ⟨job, asked, texted⟩ := pairedRight applied.texts mem
  have gathered := (collectCollected rs).gathered g mem
  obtain ⟨d, opened, _⟩ := gatheredOpened gathered
  refine ⟨d, job.2, opened, ?_, ?_⟩
  · rw [← gathered.edits]
    exact EditGroup.newTextReplaceAll opened texted.text
  · rw [applied.buffers, ← texted.document, setTextsAt (jobsDistinct applied) asked, texted.document, opened]
    rfl

theorem appliedElsewhere (applied : AppliedAs (collect rs) save w w' jobs) {id : BufferId}
    (free : ∀ g ∈ collect rs, g.buffer ≠ id) : w'.buffers[id]? = w.buffers[id]? := by
  rw [applied.buffers]
  refine setTextsElsewhere fun job mem => ?_
  obtain ⟨g, there, texted⟩ := pairedLeft applied.texts mem
  rw [texted.document]
  exact free g there

theorem savedRenewed (applied : AppliedAs (collect rs) true w w' jobs) :
    ∃ writings, List.Forall₂ (Renewed w.buffers w.files) (collect rs) writings ∧
      SameFolders w.files w'.files ∧
      ∀ route, w'.files.node? route = ((lastAt route writings).map .file).or (w.files.node? route) := by
  have gathered := (collectCollected rs).gathered
  obtain ⟨writings, placed, same⟩ := writeAllOk (textedOpened gathered applied.texts) (applied.saved rfl)
  refine ⟨writings, renewedAll gathered applied.texts placed, ?_, fun route => ?_⟩
  · rw [same]
    exact placedHolding placed (.refl w.files)
  · rw [same, nodeHoldingAll (placedNamed placed)]

theorem savedTarget (applied : AppliedAs (collect rs) true w w' jobs) {g : EditGroup} (mem : g ∈ collect rs) :
    Target w'.files (Path.normal g.path) (Path.resolve w.files.here g.path) := by
  obtain ⟨writings, renewed, same, _⟩ := savedRenewed applied
  obtain ⟨writing, _, ⟨⟨⟨d, _, path, leads⟩, route⟩, _⟩⟩ := pairedRight renewed mem
  rw [← route, ← path]
  exact leads.kept same

theorem savedLast (applied : AppliedAs (collect rs) true w w' jobs) {g : EditGroup} (mem : g ∈ collect rs) :
    ∃ h ∈ collect rs, Path.resolve w.files.here h.path = Path.resolve w.files.here g.path ∧
      ∃ text, h.newText w.buffers = .ok text ∧ w'.files.HoldsText (Path.resolve w.files.here g.path) text := by
  obtain ⟨writings, paired, _, nodes⟩ := savedRenewed applied
  obtain ⟨writing, done, renewed⟩ := pairedRight paired mem
  simp only [HoldsText, nodes]
  cases last : lastAt (Path.resolve w.files.here g.path) writings with
  | none => exact absurd renewed.route (lastAtNone.mp last writing done)
  | some octets =>
    obtain ⟨before, after, rfl, _⟩ := lastAtSome.mp last
    obtain ⟨h, there, renewed⟩ := pairedLeft paired (List.mem_append_right before List.mem_cons_self)
    obtain ⟨text, made, coded⟩ := renewed.octets
    exact ⟨h, there, renewed.route.symm, text, made, octets, coded, rfl⟩

theorem savedHeld (applied : AppliedAs (collect rs) true w w' jobs)
    (apart : ((collect rs).map fun g => Path.resolve w.files.here g.path).Nodup) {g : EditGroup}
    (mem : g ∈ collect rs) : Stored w' g.buffer := by
  obtain ⟨h, there, same, text, new, octets, coded, node⟩ := savedLast applied mem
  obtain rfl := List.inj_on_of_nodup_map apart there mem same
  have gathered := (collectCollected rs).gathered h mem
  obtain ⟨d, opened, path⟩ := gatheredOpened gathered
  obtain ⟨d', text', opened', made, after⟩ := appliedReplaced applied mem
  obtain rfl := Option.some.inj (opened.symm.trans opened')
  rw [← gathered.edits, EditGroup.newTextReplaceAll opened new] at made
  obtain rfl := Except.ok.inj made
  refine ⟨_, octets, after, coded, ?_⟩
  change w'.files.read (Path.normal d.path) = _
  rw [path]
  exact (readTarget (savedTarget applied mem)).mpr node

theorem savedElsewhere (applied : AppliedAs (collect rs) true w w' jobs) {route : Route}
    (free : ∀ g ∈ collect rs, Path.resolve w.files.here g.path ≠ route) :
    w'.files.node? route = w.files.node? route := by
  obtain ⟨writings, renewed, _, nodes⟩ := savedRenewed applied
  have none : lastAt route writings = none := by
    refine lastAtNone.mpr fun writing done => ?_
    obtain ⟨g, there, group⟩ := pairedLeft renewed done
    rw [group.route]
    exact free g there
  rw [nodes, none]
  rfl

theorem applyReplaces {w w' : Workspace} (rs : List (Replacement w.buffers)) (save : Bool)
    (ok : (collect rs).apply save w = (.ok (), w')) :
    (∀ r ∈ rs, ∃ g ∈ collect rs, g.path = r.path) ∧
    (∀ g ∈ collect rs, (∃ d, w.buffers[g.buffer]? = some d ∧ d.path = g.path) ∧
      Replaced w w' g.buffer (ownEdits g.path rs)) ∧
    (∀ id, (∀ g ∈ collect rs, g.buffer ≠ id) → w'.buffers[id]? = w.buffers[id]?) ∧
    (∀ (v v' : Workspace) (others : List (Replacement v.buffers)) (save' : Bool),
      (collect others).apply save' v = (.ok (), v') → ∀ g ∈ collect rs, ∀ h ∈ collect others,
        v.buffers[h.buffer]? = w.buffers[g.buffer]? → ownEdits h.path others = ownEdits g.path rs →
        v'.buffers[h.buffer]? = w'.buffers[g.buffer]?) ∧
    (save = false → w'.files = w.files) ∧
    (save = true → ((collect rs).map fun g => Path.resolve w.files.here g.path).Nodup →
      (∀ g ∈ collect rs, Stored w' g.buffer) ∧
      ∀ route, (∀ g ∈ collect rs, Path.resolve w.files.here g.path ≠ route) →
        w'.files.node? route = w.files.node? route) := by
  obtain ⟨jobs, applied⟩ := applyOk ok
  have collected := collectCollected rs
  refine ⟨?_, ?_, ?_, ?_, applied.unsaved, ?_⟩
  · intro r mem
    exact List.mem_map.mp (collected.whole r mem)
  · intro g mem
    exact ⟨gatheredOpened (collected.gathered g mem), appliedReplaced applied mem⟩
  · intro id free
    exact appliedElsewhere applied free
  · intro v v' others save' ok' g here h there same sameEdits
    obtain ⟨jobs', applied'⟩ := applyOk ok'
    have two := appliedReplaced applied' there
    rw [sameEdits] at two
    exact replacedAlike (appliedReplaced applied here) two same
  · intro saved apart
    subst saved
    exact ⟨fun g mem => savedHeld applied apart mem, fun route free => savedElsewhere applied free⟩

def desk : Workspace where
  files := { nodes := [(["p"], .folder), (["p", "a"], .file [97, 98]), (["p", "c"], .file [120])], here := ["p"] }
  buffers := [⟨"/p/a", ['a', 'b', '\n', 'c'], "plaintext", "file"⟩, ⟨"/p/b", ['u', 'v'], "plaintext", "file"⟩]

def deskEdits : List (Replacement desk.buffers) :=
  [⟨⟨1, by decide⟩, ⟨⟨.ofInts 0 2, .ofInts 0 9⟩, ['!']⟩⟩, ⟨⟨0, by decide⟩, ⟨⟨.ofInts 1 0, .ofInts 1 1⟩, []⟩⟩,
    ⟨⟨0, by decide⟩, ⟨⟨.ofInts 0 1, .ofInts 0 1⟩, ['y']⟩⟩, ⟨⟨0, by decide⟩, ⟨⟨.ofInts 0 1, .ofInts 0 2⟩, ['z']⟩⟩]

theorem deskReplaced : ∃ w', (collect deskEdits).apply true desk = (.ok (), w') ∧
    Replaced desk w' 0 (ownEdits "/p/a" deskEdits) ∧ Replaced desk w' 1 (ownEdits "/p/b" deskEdits) ∧
    w'.files.node? ["p", "c"] = some (.file [120]) := by
  have ok : (collect deskEdits).apply true desk = (.ok (), ((collect deskEdits).apply true desk).2) :=
    Prod.ext (by decide) rfl
  obtain ⟨_, replaced, _, _, _, saved⟩ := applyReplaces deskEdits true ok
  have first := replaced ⟨"/p/a", 0, ownEdits "/p/a" deskEdits⟩ (by decide)
  have second := replaced ⟨"/p/b", 1, ownEdits "/p/b" deskEdits⟩ (by decide)
  have beside := (saved rfl (by decide)).2 ["p", "c"] (by decide)
  exact ⟨_, ok, first.2, second.2, beside⟩

end AccessFix
