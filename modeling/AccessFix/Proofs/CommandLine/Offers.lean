import AccessFix.Proofs.CommandLine.Steps
import AccessFix.Proofs.Extension.Execute

/-! What commands do with an extension before they write anything: they open it, let it check, and ask it for the actions at
a place of a file. None of this changes a file; the document of the file is opened last, and all actions are for it. -/
namespace AccessFix.CommandLine
open Extension (Ready)

theorem executeAfter {t : Surroundings} {e : Extension} {name : String} {args : List Argument} {p : Progress} {ran : Ran Answer}
    (ended : Extension.execute t p.workspace { e with notices := [] } name args = ran) :
    after (execute t e name args) p = (match ran.extension.notices.findSome? noticeUnsaid?, ran.result with
      | some f, _ => .error (.failure (.unencodable f))
      | none, .ok answer => .ok (answer, { ran.extension with notices := e.notices })
      | none, .error f => .error (.failure (.ofCommand f)),
      told { p with workspace := ran.workspace, trace := p.trace.append ran.trace } ran.extension.notices) := by
  unfold execute
  rw [bindOn (getAfter p), bindOn (setAfter p _), ended]
  have telling := noticesAfter ran.extension.notices
    { p with workspace := ran.workspace, trace := p.trace.append ran.trace }
  cases unsaid : ran.extension.notices.findSome? noticeUnsaid? with
  | some f =>
    rw [unsaid] at telling
    exact bindOff telling
  | none =>
    rw [unsaid] at telling
    refine (bindOn telling).trans ?_
    cases ran.result with
    | ok answer => rfl
    | error f => rfl

theorem quietOpen (t : Surroundings) (g : Globals) (root : String) : Quiet (openExtension t g root) := by
  refine quietBind quietGet fun _ => quietBind (quietOrFail _ _) fun config => ?_
  refine quietBind (quietResolved _) fun folder => ?_
  refine quietBind (quietNote _ _) fun _ => quietBind (quietNote _ _) fun _ => ?_
  split
  · exact quietPure _
  · exact quietFail _

theorem openReady {t : Surroundings} {g : Globals} {root : String} {p q : Progress} {e : Extension}
    (opened : after (openExtension t g root) p = (.ok e, q)) : Ready e := by
  obtain ⟨_, _, _, opened⟩ := bindAfterOk.mp opened
  obtain ⟨config, _, _, opened⟩ := bindAfterOk.mp opened
  obtain ⟨folder, _, _, opened⟩ := bindAfterOk.mp opened
  obtain ⟨_, _, _, opened⟩ := bindAfterOk.mp opened
  obtain ⟨_, _, _, opened⟩ := bindAfterOk.mp opened
  split at opened
  · rename_i e' ready
    cases opened
    exact Extension.initReady ready
  · cases opened

theorem quietBare (t : Surroundings) (e : Extension) (name : String) : Quiet (execute t e name []) := by
  intro p r q ran
  rw [executeAfter rfl] at ran
  cases ran
  refine ⟨(toldWorkspace _ _).1.trans (Extension.executeBare t _ _ name), ?_⟩
  split <;> simp

theorem quietCheck (t : Surroundings) (verbose : Bool) (e : Extension) : Quiet (runCheck t verbose e) := by
  refine quietBind (quietBare t e checkCommand) fun found => ?_
  obtain ⟨answer, e'⟩ := found
  simp only
  split
  · exact quietStop (by simp)
  · split
    · exact quietBind (quietComplain _) fun _ => quietPure _
    · exact quietPure _
  · exact quietPure _

theorem checkReady {t : Surroundings} {verbose : Bool} {e e' : Extension} {p q : Progress} {found : Option IssueMap}
    (ran : after (runCheck t verbose e) p = (.ok (found, e'), q)) (ready : Ready e) : Ready e' := by
  obtain ⟨⟨answer, next⟩, m, executed, ran⟩ := bindAfterOk.mp ran
  have kept : next.commands = e.commands ∧ next.providers = e.providers ∧ next.fixer = e.fixer := by
    rw [executeAfter rfl, Prod.mk.injEq] at executed
    obtain ⟨store, notices, bare⟩ := Extension.executeUnmoved t p.workspace { e with notices := [] } checkCommand []
    rw [bare] at executed
    split at executed
    · cases executed.1
    · cases executed.1
      exact ⟨rfl, rfl, rfl⟩
    · cases executed.1
  have same : e' = next := by
    simp only at ran
    split at ran
    · cases ran
    · split at ran
      · obtain ⟨_, _, _, ran⟩ := bindAfterOk.mp ran
        cases ran
        rfl
      · cases ran
        rfl
    · cases ran
      rfl
  subst same
  refine ⟨?_, ?_, ?_⟩
  · simp only [Extension.handler?, kept.1]
    exact ready.fixes
  · rw [kept.2.2]
    exact ready.writes
  · rw [kept.2.1]
    exact ready.offers

/-! The document that actions are looked for in. -/

theorem fixActionsDocument {id : BufferId} {issues : List Issue} {a : FixAction} (mem : a ∈ fixActions id issues) :
    a.document = id := by
  obtain ⟨i, _, rfl⟩ := List.mem_map.mp mem
  rfl

theorem actionsDocument {w : Workspace} {e : Extension} {id : BufferId} {range : Range} {offered : List FixAction}
    (ready : Ready e) (ok : e.actions w id range = .ok offered) : ∀ a ∈ offered, a.document = id := by
  obtain ⟨offers, made, ok⟩ := Fallible.bindOk.mp ok
  obtain rfl := Fallible.pureOk.mp ok
  intro a mem
  obtain ⟨offer, there, mem⟩ := List.mem_flatten.mp mem
  obtain ⟨r, listed, offered⟩ := Fallible.pairedLeft (Fallible.mapMOk.mp made) there
  obtain ⟨accepted, _, offered⟩ := Fallible.bindOk.mp offered
  obtain rfl := Fallible.pureOk.mp offered
  rw [ready.offers r listed] at mem
  split at mem
  · exact fixActionsDocument mem
  · cases mem

def documentPath (here : Route) (file : String) : String := Path.ofRoute (Path.resolve here file)

theorem ofFilePath {files : Files} {file : String} {d : Document} (opened : Document.ofFile files file = .ok d) :
    d.path = documentPath files.here file := by
  obtain ⟨text, _, opened⟩ := Fallible.bindOk.mp opened
  obtain rfl := Fallible.pureOk.mp opened
  rfl

structure Located (file : String) (before after : Workspace) (offered : List FixAction) : Prop where
  files : after.files = before.files
  opened : ∃ d, after.buffers = before.buffers ++ [d] ∧ d.path = documentPath before.files.here file
  documents : ∀ a ∈ offered, a.document = before.buffers.length

theorem stillActions (e : Extension) (file : String) (line column : Int) : Still (actionsAt e file line column) := by
  intro p r q ran
  rw [actionsAt, bindOn (getAfter p)] at ran
  cases opened : Document.ofFile p.workspace.files file with
  | error f =>
    rw [opened] at ran
    cases ran
    exact ⟨rfl, by simp⟩
  | ok d =>
    rw [opened, bindOn (orFailAfter d _ p)] at ran
    replace ran := (bindOn (setAfter p _)).symm.trans ran
    obtain ⟨same, failure⟩ := quietOrFail _ _ ran
    exact ⟨by rw [same], failure⟩

theorem actionsLocate {e : Extension} {file : String} {line column : Int} {p q : Progress} {offered : List FixAction}
    (ready : Ready e) (ran : after (actionsAt e file line column) p = (.ok offered, q)) :
    Located file p.workspace q.workspace offered := by
  rw [actionsAt, bindOn (getAfter p)] at ran
  obtain ⟨d, m, opened, ran⟩ := bindAfterOk.mp ran
  obtain ⟨opened, rfl⟩ := orFailOk opened
  replace ran := (bindOn (setAfter m _)).symm.trans ran
  obtain ⟨found, rfl⟩ := orFailOk ran
  exact ⟨rfl, ⟨d, rfl, ofFilePath opened⟩, actionsDocument ready found⟩

def located (t : Surroundings) (g : Globals) (file : String) (line column : Int) (root : String) :
    Command (Extension × List FixAction) := do
  let e ← openExtension t g root
  let (_, e) ← runCheck t g.verbose e
  let offered ← actionsAt e file line column
  return (e, offered)

theorem actionsLocated (t : Surroundings) (g : Globals) (file : String) (line column : Int) (root : String) :
    actions t g file line column root = guarded (located t g file line column root >>= fun found =>
      emit g (.array (found.2.map FixAction.toJson))) := by
  simp only [actions, located, bind_assoc, pure_bind]

theorem stillLocated (t : Surroundings) (g : Globals) (file : String) (line column : Int) (root : String) :
    Still (located t g file line column root) :=
  stillBind (quietStill (quietOpen t g root)) fun e => stillBind (quietStill (quietCheck t g.verbose e)) fun _ =>
    stillBind (stillActions _ file line column) fun _ => quietStill (quietPure _)

theorem locatedAfter {t : Surroundings} {g : Globals} {file root : String} {line column : Int} {p q : Progress}
    {e : Extension} {offered : List FixAction} (ran : after (located t g file line column root) p = (.ok (e, offered), q)) :
    Ready e ∧ Located file p.workspace q.workspace offered := by
  obtain ⟨e', m, opened, ran⟩ := bindAfterOk.mp ran
  obtain ⟨⟨_, e''⟩, m', checked, ran⟩ := bindAfterOk.mp ran
  obtain ⟨offered', m'', found, ran⟩ := bindAfterOk.mp ran
  cases ran
  have same : m'.workspace = p.workspace :=
    (quietCheck t g.verbose e' checked).1.trans (quietOpen t g root opened).1
  have ready := checkReady checked (openReady opened)
  have located := actionsLocate ready found
  rw [same] at located
  exact ⟨ready, located⟩

end AccessFix.CommandLine
