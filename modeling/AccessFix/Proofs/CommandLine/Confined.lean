import AccessFix.Proofs.CommandLine.Offers
import AccessFix.Proofs.FixRun

/-! Commands that may write one file. They write it as the last thing they do but to tell of it, and where it is not written
they do not end well. A text without an encoding leaves its file empty, and a notice without one leaves a fix in its file
that is not told. -/
namespace AccessFix
open Files

inductive Rewritten (target : Option Route) (before : Files) : Files → Prop where
  | same : Rewritten target before before
  | written {route : Route} {octets : List UInt8} (here : target = some route) (named : route ≠ []) :
      Rewritten target before (before.holding route octets)

theorem rewrittenNode {target : Option Route} {before after : Files} (rewritten : Rewritten target before after)
    {route : Route} (other : target ≠ some route) : after.node? route = before.node? route := by
  cases rewritten with
  | same => rfl
  | written here named =>
    rw [nodeHolding named, if_neg]
    rintro rfl
    exact other here

namespace CommandLine
open Extension (Ready)

def Globals.target (g : Globals) (here : Route) : Option Route := (g.output.filter (· ≠ "")).map (Path.resolve here)

structure Emptied (target : Option Route) (before : Files) (f : Text.Unencodable) (after : Files) : Prop where
  uncoded : ∃ text, Text.Codec.utf8.encode text = .error f
  emptied : ∃ route, target = some route ∧ route ≠ [] ∧ after = before.holding route []

/-- How a command ends that writes one file at most. Where it does not succeed that file is as it was, or empty, or holds a
fix that is `applied` and could not be told. -/
structure Confined (target : Option Route) (applied : Prop) (p : Progress) (r : Except Stop Unit) (q : Progress) : Prop where
  failed : r ≠ .ok () → q.workspace.files = p.workspace.files ∨ ∃ f, r = .error (.failure (.unencodable f)) ∧
    (Emptied target p.workspace.files f q.workspace.files ∨ applied)
  done : Rewritten target p.workspace.files q.workspace.files
  status : r ≠ .error (.exit 0)

variable {α : Type} {target : Option Route} {applied : Prop} {p q : Progress} {r : Except Stop Unit}

theorem unchangedConfined (same : q.workspace.files = p.workspace.files) (status : r ≠ .error (.exit 0)) :
    Confined target applied p r q :=
  ⟨fun _ => .inl same, by rw [same]; exact .same, status⟩

theorem emptiedConfined {f : Text.Unencodable} (emptied : Emptied target p.workspace.files f q.workspace.files) :
    Confined target applied p (.error (.failure (.unencodable f))) q := by
  refine ⟨fun _ => .inr ⟨f, rfl, .inl emptied⟩, ?_, by simp⟩
  obtain ⟨route, here, named, holds⟩ := emptied.emptied
  rw [holds]
  exact .written here named

theorem stillConfined {c : Command Unit} (still : Still c) (ran : after c p = (r, q)) : Confined target applied p r q :=
  unchangedConfined (still ran).1 (still ran).2

theorem bindConfined {c : Command α} {f : α → Command Unit} (still : Still c) (ran : after (c >>= f) p = (r, q))
    (next : ∀ a m, m.workspace.files = p.workspace.files → after (f a) m = (r, q) → Confined target applied m r q) :
    Confined target applied p r q := by
  rcases bindAfter.mp ran with ⟨s, stopped, rfl⟩ | ⟨a, m, went, ran⟩
  · obtain ⟨same, failure⟩ := still stopped
    exact unchangedConfined same (by simpa using failure)
  · have same := (still went).1
    obtain ⟨failed, done, status⟩ := next a m same ran
    rw [same] at failed done
    exact ⟨failed, done, status⟩

theorem guardedConfined {c : Command Unit} (ran : after (guarded c) p = (r, q))
    (inner : ∀ r q, after c p = (r, q) → Confined target applied p r q) : Confined target applied p r q := by
  obtain ⟨r', q', went, same, kept, status, passed⟩ := guardedAfter ran
  obtain ⟨failed, done, success⟩ := inner r' q' went
  rw [← same] at failed done
  refine ⟨fun stopped => ?_, done, fun exit => success (status exit)⟩
  exact (failed fun ok => stopped ((kept ()).mpr ok)).imp_right fun ⟨f, broken, left⟩ => ⟨f, passed _ rfl broken, left⟩

theorem putConfined {g : Globals} {text : Letters} (ran : after (putOut g text) p = (r, q)) :
    Confined (g.target p.workspace.files.here) applied p r q := by
  simp only [putOut] at ran
  split at ran
  · exact stillConfined (quietStill (quietPrint _)) ran
  · rename_i path given
    replace ran := (bindOn (getAfter p)).symm.trans ran
    have target {route : Route} (leads : Target p.workspace.files path route) :
        g.target p.workspace.files.here = some route := by
      rw [Globals.target, given, leads.follows]
      rfl
    rcases wrote : p.workspace.files.writeText path text with ⟨f | _, files⟩
    · rw [wrote] at ran
      replace ran := (bindOn (setAfter p _)).symm.trans ran
      replace ran := (bindOff rfl).symm.trans ran
      cases ran
      cases f with
      | file f =>
        obtain rfl := (writeTextRefused.mp wrote).2
        exact unchangedConfined rfl (by simp)
      | encoding f =>
        obtain ⟨uncoded, emptied⟩ := writeTextUnencodable.mp wrote
        obtain ⟨route, leads, rfl⟩ := writeOk.mp emptied
        exact emptiedConfined ⟨⟨text, uncoded⟩, route, target leads, leads.routeNamed, rfl⟩
    · rw [wrote] at ran
      replace ran := (bindOn (setAfter p _)).symm.trans ran
      rw [bindOn (orFailAfter () _ _)] at ran
      cases ran
      obtain ⟨octets, _, wrote⟩ := writeTextOk.mp wrote
      obtain ⟨route, leads, rfl⟩ := writeOk.mp wrote
      exact ⟨fun stopped => absurd rfl stopped, .written (target leads) leads.routeNamed, by simp⟩

theorem emitConfined {g : Globals} {data : Json} (ran : after (emit g data) p = (r, q)) :
    Confined (g.target p.workspace.files.here) applied p r q := by
  unfold emit at ran
  split at ran
  · exact putConfined ran
  · cases ran
    exact unchangedConfined rfl (by simp)

theorem templateWritten {files next : Files} {path : String} (ok : Config.writeTemplate files path = .ok next) :
    ∃ octets, files.node? (Path.resolve files.here path) = none ∧ Path.resolve files.here path ≠ [] ∧
      next = files.holding (Path.resolve files.here path) octets := by
  simp only [Config.writeTemplate] at ok
  split at ok
  · cases ok
  · cases ok
  · rename_i absent
    cases wrote : files.write (Path.normal path) (Text.Utf8.encode Config.template.toList) with
    | error f =>
      rw [wrote] at ok
      cases ok
    | ok written =>
      rw [wrote] at ok
      cases ok
      obtain ⟨route, leads, rfl⟩ := writeOk.mp wrote
      obtain rfl := leads.resolved
      exact ⟨_, targetMissing leads absent, leads.routeNamed, rfl⟩

theorem initialiseOk {path : String} {files : Files} (wrote : Config.writeTemplate p.workspace.files path = .ok files) :
    ∃ q, after (initialise path) p = (.ok (), q) ∧ q.workspace = { p.workspace with files := files } := by
  have written : Text.Encodable (letters "Template written to '" ++ path ++ "'.") := by
    simp only [Text.encodableAppend, Text.encodableText, and_self]
  have next : Text.Encodable (letters "Set OPENAI_API_KEY in your environment before running "
      ++ String.singleton (Char.ofNat 96) ++ "fix" ++ String.singleton (Char.ofNat 96) ++ ".") := by
    simp only [Text.encodableAppend, Text.encodableText, and_self]
  rw [initialise, bindOn (getAfter p), wrote]
  exact ⟨_, (bindOn (setAfter p _)).trans ((bindOn (printedAfter written _)).trans (printedAfter next _)), rfl⟩

theorem initialiseAfter {path : String} (ran : after (initialise path) p = (r, q)) :
    Confined (some (Path.resolve p.workspace.files.here path)) applied p r q ∧
      (r = .ok () → p.workspace.files.node? (Path.resolve p.workspace.files.here path) = none) := by
  cases wrote : Config.writeTemplate p.workspace.files path with
  | error f =>
    rw [initialise, bindOn (getAfter p), wrote] at ran
    cases f with
    | taken path =>
      cases ran
      exact ⟨unchangedConfined rfl (by simp), by simp⟩
    | file f =>
      cases ran
      exact ⟨unchangedConfined rfl (by simp), by simp⟩
  | ok files =>
    obtain ⟨q', ended, same⟩ := initialiseOk wrote
    obtain ⟨octets, absent, named, rfl⟩ := templateWritten wrote
    rw [ended] at ran
    cases ran
    exact ⟨⟨fun stopped => absurd rfl stopped, same ▸ .written rfl named, by simp⟩, fun _ => absent⟩

theorem checkConfined {t : Surroundings} {g : Globals} {root : String} (ran : after (check t g root) p = (r, q)) :
    Confined (g.target p.workspace.files.here) applied p r q := by
  refine guardedConfined ran fun r q ran => ?_
  refine bindConfined (quietStill (quietOpen t g root)) ran fun e m same ran => ?_
  rw [← same]
  refine bindConfined (quietStill (quietCheck t g.verbose e)) ran fun found m same ran => ?_
  rw [← same]
  refine bindConfined (quietStill (quietResolved root)) ran fun folder m same ran => ?_
  rw [← same]
  refine bindConfined (quietStill (quietOrFail _ _)) ran fun report m same ran => ?_
  rw [← same]
  exact emitConfined ran

theorem actionsConfined {t : Surroundings} {g : Globals} {file root : String} {line column : Int}
    (ran : after (actions t g file line column root) p = (r, q)) :
    Confined (g.target p.workspace.files.here) applied p r q := by
  rw [actionsLocated] at ran
  refine guardedConfined ran fun r q ran => ?_
  refine bindConfined (stillLocated t g file line column root) ran fun found m same ran => ?_
  rw [← same]
  exact emitConfined ran

def repair (t : Surroundings) (g : Globals) (file : String) (line column : Int) (e : Extension) :
    List FixAction → Command Unit
  | [] => do
    complain ("No accessibility issue at " ++ file ++ ":" ++ toString line ++ ":" ++ toString column)
    stop 1
  | action :: _ => do
    note g action.title
    match ← execute t e fixCommand [.document action.document, .issue action.issue] with
    | (.state .fixApplied, _) => return
    | _ => stop 1

theorem fixLocated (t : Surroundings) (g : Globals) (file : String) (line column : Int) (root : String) :
    fix t g file line column root = guarded (located t g file line column root >>= fun found =>
      repair t g file line column found.1 found.2) := by
  simp only [fix, located, bind_assoc, pure_bind]
  congr

def repairEnd (run : FixRun) : Except Stop Unit :=
  match run.notices.findSome? noticeUnsaid?, run.result with
  | some f, _ => .error (.failure (.unencodable f))
  | none, .ok .fixApplied => .ok ()
  | none, .ok _ => .error (.exit 1)
  | none, .error f => .error (.failure (.ofCommand (.fix f)))

theorem repairRuns {t : Surroundings} (g : Globals) (file : String) (line column : Int) {e : Extension} (ready : Ready e)
    (action : FixAction) (rest : List FixAction) (p : Progress) :
    let run := FixRun.run t.send e.fixer action.document action.issue p.workspace
    ∃ m, Looked p m ∧ after (repair t g file line column e (action :: rest)) p = (repairEnd run,
      told { m with workspace := run.workspace, trace := m.trace.append ⟨[], run.sent, run.closed⟩ } run.notices) := by
  intro run
  obtain ⟨m, noted, looked⟩ := noteAfter g action.title p
  refine ⟨m, looked, ?_⟩
  have ready' : Ready { e with notices := [] } := ⟨ready.fixes, ready.writes, ready.offers⟩
  have ended : Extension.execute t m.workspace { e with notices := [] } fixCommand
      [.document action.document, .issue action.issue] =
    ⟨(run.result.mapError .fix).map .state, { e with notices := run.notices }, run.workspace, ⟨[], run.sent, run.closed⟩⟩ := by
    rw [Extension.executeFixing ready', looked.workspace]
    rfl
  unfold repair
  rw [bindOn noted]
  have executed := executeAfter ended
  unfold repairEnd
  generalize run.notices.findSome? noticeUnsaid? = unsaid at executed ⊢
  generalize run.result = result at executed ⊢
  cases unsaid with
  | some f => exact bindOff executed
  | none =>
    cases result with
    | error f => exact bindOff executed
    | ok state =>
      rw [bindOn executed]
      cases state <;> rfl

theorem unsaidNotices (send : Request → Delivery) {f : Fixer} (writes : f.applier = .write true) {w : Workspace}
    (b : Fin w.buffers.length) (issue : Issue) :
    let run := FixRun.run send f b issue w
    run.notices.findSome? noticeUnsaid? = none ↔
      (run.result = .ok .fixApplied → ∀ reply, run.reply = some reply → Text.Encodable reply.explanation) := by
  intro run
  by_cases applied : run.result = .ok .fixApplied
  · obtain ⟨reply, replied, head, notice⟩ := FixRun.runTold applied
    have notices : run.notices = [⟨.info, head ++ reply.explanation⟩] := notice
    have only : run.reply = some reply := replied
    rw [notices, infoSaid]
    simp [applied, only]
  · refine iff_of_true (heardSaid ?_) fun ok => absurd ok applied
    rcases FixRun.runEnds send writes b issue with settled | ⟨_, _, silent, _, _⟩
    · exact FixRun.settledHeard settled applied
    · simp [run, silent]

theorem repairAfter {t : Surroundings} {g : Globals} {file : String} {line column : Int} {e : Extension} (ready : Ready e)
    {action : FixAction} {rest : List FixAction} (ran : after (repair t g file line column e (action :: rest)) p = (r, q)) :
    let run := FixRun.run t.send e.fixer action.document action.issue p.workspace
    q.workspace = run.workspace ∧ r = repairEnd run := by
  intro run
  obtain ⟨m, _, went⟩ := repairRuns (t := t) g file line column ready action rest p
  rw [went] at ran
  cases ran
  exact ⟨(toldWorkspace _ _).1, rfl⟩

def FixWent (t : Surroundings) (g : Globals) (file : String) (line column : Int) (root : String) (p : Progress)
    (went : FixRun → Prop) : Prop :=
  ∃ e action rest m, after (located t g file line column root) p = (.ok (e, action :: rest), m) ∧
    went (FixRun.run t.send e.fixer action.document action.issue m.workspace)

structure Fulfilled (run : FixRun) : Prop where
  applied : run.result = .ok .fixApplied
  explained : ∀ reply, run.reply = some reply → Text.Encodable reply.explanation

def documentRoute (here : Route) (file : String) : Route := Path.resolve here (documentPath here file)

theorem documentResolved {here : Route} (plain : Path.Plain here) (file : String) :
    documentRoute here file = Path.resolve here file :=
  Path.resolveOfRoute (Path.resolvePlain plain file) here

theorem repairStatus (run : FixRun) : repairEnd run ≠ .error (.exit 0) := by
  unfold repairEnd
  split <;> simp

theorem repairTold (send : Request → Delivery) {f : Fixer} (writes : f.applier = .write true) {w : Workspace}
    (b : Fin w.buffers.length) (issue : Issue) :
    repairEnd (FixRun.run send f b issue w) = .ok () ↔ Fulfilled (FixRun.run send f b issue w) := by
  have unsaid := unsaidNotices send writes b issue
  generalize FixRun.run send f b issue w = run at unsaid ⊢
  dsimp only at unsaid
  unfold repairEnd
  constructor
  · intro ended
    split at ended <;> cases ended
    rename_i none applied
    exact ⟨applied, unsaid.mp none applied⟩
  · rintro ⟨applied, explained⟩
    rw [unsaid.mpr fun _ => explained, applied]

theorem runConfined {w : Workspace} {b : Fin w.buffers.length} {run : FixRun} {target : Route} (effect : FixRun.Effect b run)
    (place : ∀ route, Files.Target w.files (Path.normal (w.buffers.get b).path) route → route = target)
    (said : run.result ≠ .ok .fixApplied → run.notices.findSome? noticeUnsaid? = none)
    (files : w.files = p.workspace.files) (ran : q.workspace = run.workspace) :
    Confined (some target) (run.result = .ok .fixApplied) p (repairEnd run) q := by
  have status := repairStatus run
  cases effect with
  | none unapplied same => exact unchangedConfined (by rw [ran, same, files]) status
  | truncated truncated =>
    obtain ⟨⟨text, fault, uncoded, returned⟩, route, leads, emptied⟩ := truncated
    have stopped : repairEnd run = .error (.failure (.unencodable fault)) := by
      rw [repairEnd, said (by simp [returned]), returned]
      rfl
    rw [stopped]
    exact emptiedConfined ⟨⟨text, uncoded⟩, route, by rw [place route leads], leads.routeNamed, by rw [ran, emptied, ← files]⟩
  | written fix document applied went =>
    refine ⟨fun stopped => .inr ?_, ?_, status⟩
    · cases unsaid : run.notices.findSome? noticeUnsaid? with
      | none => exact absurd (by rw [repairEnd, unsaid, applied]) stopped
      | some fault => exact ⟨fault, by rw [repairEnd, unsaid], .inr applied⟩
    · generalize run.workspace = after at ran went
      cases went with
      | applied covers leads spliced coded =>
        have there : fix.path = (w.buffers.get b).path := congrArg (fun c => (w.buffers.get c).path) document
        rw [ran, ← files]
        refine .written ?_ leads.routeNamed
        rw [there] at leads
        rw [place _ leads]

theorem effectConfined {m : Progress} {file : String} {offered : List FixAction} {send : Request → Delivery} {f : Fixer}
    {action : FixAction} (found : Located file p.workspace m.workspace offered)
    (writes : f.applier = .write true) (mem : action ∈ offered)
    (ran : q.workspace = (FixRun.run send f action.document action.issue m.workspace).workspace) :
    let run := FixRun.run send f action.document action.issue m.workspace
    Confined (some (documentRoute p.workspace.files.here file)) (run.result = .ok .fixApplied) p (repairEnd run) q ∧
      (repairEnd run = .ok () ↔ Fulfilled run) := by
  -- the run is on the document opened last, which is that of the file
  obtain ⟨d, buffers, path⟩ := found.opened
  have short : p.workspace.buffers.length < m.workspace.buffers.length := by simp [buffers]
  rw [found.documents action mem] at ran ⊢
  let b : Fin m.workspace.buffers.length := ⟨p.workspace.buffers.length, short⟩
  refine ⟨runConfined (FixRun.runEffect send writes b action.issue) (fun route leads => ?_)
    (fun unapplied => (unsaidNotices send writes b action.issue).mpr fun applied => absurd applied unapplied)
    found.files ran, repairTold send writes b action.issue⟩
  have here : documentPath m.workspace.files.here file = (m.workspace.buffers.get b).path := by
    rw [found.files, ← path]
    simp [b, buffers]
  rw [leads.resolved, documentRoute, ← here, found.files]

theorem soughtConfined {t : Surroundings} {g : Globals} {file root : String} {line column : Int}
    (ran : after (located t g file line column root >>= fun found => repair t g file line column found.1 found.2) p = (r, q)) :
    Confined (some (documentRoute p.workspace.files.here file))
        (FixWent t g file line column root p (FixRun.result · = .ok .fixApplied)) p r q ∧
      (r = .ok () ↔ FixWent t g file line column root p Fulfilled) := by
  rcases bindAfter.mp ran with ⟨s, stopped, rfl⟩ | ⟨⟨e, offered⟩, m, went, ran⟩
  · obtain ⟨same, failure⟩ := stillLocated t g file line column root stopped
    refine ⟨unchangedConfined same (by simpa using failure), iff_of_false (by simp) ?_⟩
    rintro ⟨_, _, _, _, went, _⟩
    rw [stopped] at went
    cases went
  obtain ⟨ready, found⟩ := locatedAfter went
  cases offered with
  | nil =>
    cases ran
    refine ⟨unchangedConfined found.files (by simp), iff_of_false (by simp) ?_⟩
    rintro ⟨_, _, _, _, other, _⟩
    rw [went] at other
    cases other
  | cons action rest =>
    obtain ⟨ended, rfl⟩ := repairAfter ready ran
    have repairing {how : FixRun → Prop} : FixWent t g file line column root p how ↔
        how (FixRun.run t.send e.fixer action.document action.issue m.workspace) := by
      refine ⟨?_, fun gone => ⟨e, action, rest, m, went, gone⟩⟩
      rintro ⟨_, _, _, _, other, gone⟩
      rw [went] at other
      cases other
      exact gone
    rw [repairing, repairing]
    exact effectConfined found ready.writes List.mem_cons_self ended

theorem fixConfined {t : Surroundings} {g : Globals} {file root : String} {line column : Int}
    (ran : after (fix t g file line column root) p = (r, q)) :
    Confined (some (documentRoute p.workspace.files.here file))
        (FixWent t g file line column root p (FixRun.result · = .ok .fixApplied)) p r q ∧
      (r = .ok () ↔ FixWent t g file line column root p Fulfilled) := by
  rw [fixLocated] at ran
  refine ⟨guardedConfined ran fun r q inner => (soughtConfined inner).1, ?_⟩
  obtain ⟨r', q', inner, _, kept, _⟩ := guardedAfter ran
  exact (kept ()).trans (soughtConfined inner).2

end CommandLine

end AccessFix
