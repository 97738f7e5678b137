import AccessFix.Proofs.CommandLine.Confined

/-! The steps of a command before it writes anything, as computations on what it finds: the settings, what the linter reports,
and the document of a file. A step comes to what its computation comes to; on the way a command tells only what goes to
the error channel and starts only the linter. -/
namespace AccessFix.CommandLine
open Fallible

variable {t : Surroundings} {g : Globals} {files : Files} {config : Config} {found : IssueMap} {d : Document}
  {file folder root : String} {line column : Int} {p q : Progress}

/-! Settings, and the extension that is opened with them. -/

def Globals.configPath (g : Globals) : String := (g.config.filter (· ≠ "")).getD defaultConfigPath

def settings (t : Surroundings) (g : Globals) (files : Files) : Except Failure Config :=
  (Config.load files t.outerKey g.configPath g.config.isSome).mapError .load

def folderOf (files : Files) (root : String) : String := Path.ofRoute (Path.resolve files.here root)

def opened (config : Config) (folder : String) : Extension := ((Extension.new config).init (some folder)).2

theorem openAfter (t : Surroundings) (g : Globals) (root : String) (p : Progress) :
    ∃ q, Looked p q ∧ after (openExtension t g root) p = (match settings t g p.workspace.files with
      | .ok config => .ok (opened config (folderOf p.workspace.files root))
      | .error f => .error (.failure f), q) := by
  unfold openExtension settings
  rw [bindOn (getAfter p)]
  change ∃ q, Looked p q ∧
    after (orFail (Config.load p.workspace.files t.outerKey g.configPath g.config.isSome) .load >>= _) p = _
  cases Config.load p.workspace.files t.outerKey g.configPath g.config.isSome with
  | error f => exact ⟨p, ⟨rfl, rfl, rfl, rfl⟩, rfl⟩
  | ok config =>
    obtain ⟨m, rooted, looked⟩ := noteAfter g ("Workspace root: " ++ folderOf p.workspace.files root) p
    obtain ⟨q, commanded, looked'⟩ := noteAfter g ("ESLint command: " ++ Text.joined config.eslintCommand) m
    refine ⟨q, looked.trans looked', ?_⟩
    rw [bindOn (orFailAfter config _ p)]
    rw [bindOn (show after (resolved root) p = (.ok (folderOf p.workspace.files root), p) from rfl)]
    exact (bindOn rooted).trans (bindOn commanded)

/-! What the linter reports. -/

theorem folderNamed (files : Files) (root : String) : folderOf files root ≠ "" := by simp [folderOf, Path.ofRoute]

def survey (t : Surroundings) (files : Files) (config : Config) (folder : String) : Except CommandFault IssueMap := do
  let listed ← (Lint.run files t.lint config.lintSettings folder).2.mapError .lint
  (Findings.ofResults (.array listed)).mapError .shape

def surveyed (config : Config) (folder : String) (found : IssueMap) : Extension :=
  { opened config folder with store := { (opened config folder).store with entries := found } }

theorem runCheckOpened (t : Surroundings) (w : Workspace) (config : Config) (named : folder ≠ "") :
    let trace : Trace := { calls := (Lint.run w.files t.lint config.lintSettings folder).1 }
    Extension.runCheck t w (opened config folder) = match survey t w.files config folder with
      | .ok found => ⟨.ok (some found), surveyed config folder found, w, trace⟩
      | .error f => ⟨.error f, opened config folder, w, trace⟩ := by
  have rooted : (opened config folder).root? = some folder := by
    change Option.filter (· ≠ "") (some folder) = _
    simp [named]
  have given : (opened config folder).config = config := rfl
  cases answered : (Lint.run w.files t.lint config.lintSettings folder).2 with
  | error f =>
    have outcome : survey t w.files config folder = .error (.lint f) := by
      rw [survey, answered]
      rfl
    simp only [Extension.runCheck, rooted, given, answered, outcome]
  | ok listed =>
    have next : survey t w.files config folder = (Findings.ofResults (.array listed)).mapError .shape := by
      rw [survey, answered]
      rfl
    cases understood : Findings.ofResults (.array listed) with
    | error f =>
      have outcome : survey t w.files config folder = .error (.shape f) := by
        rw [next, understood]
        rfl
      simp only [Extension.runCheck, rooted, given, answered, understood, outcome]
    | ok found =>
      have outcome : survey t w.files config folder = .ok found := by
        rw [next, understood]
        rfl
      simp only [Extension.runCheck, rooted, given, answered, understood, outcome,
        IssueStore.publishListed _ (Findings.resultsListed understood)]
      rfl

theorem checkAfter (t : Surroundings) (verbose : Bool) (config : Config) (named : folder ≠ "") (p : Progress) :
    ∃ q, Looked p q ∧ after (runCheck t verbose (opened config folder)) p =
      (match survey t p.workspace.files config folder with
      | .ok found => .ok (some found, surveyed config folder found)
      | .error f => .error (.failure (.ofCommand f)), q) := by
  let trace : Trace := { calls := (Lint.run p.workspace.files t.lint config.lintSettings folder).1 }
  have looked : Looked p { p with trace := p.trace.append trace } :=
    ⟨rfl, rfl, List.append_nil _, Nat.add_zero _⟩
  have checked : Extension.execute t p.workspace { opened config folder with notices := [] } checkCommand [] =
    Ran.map .found (Extension.runCheck t p.workspace (opened config folder)) := rfl
  rw [runCheckOpened t p.workspace config named] at checked
  cases outcome : survey t p.workspace.files config folder with
  | error f =>
    rw [outcome] at checked
    exact ⟨_, looked, bindOff (executeAfter checked)⟩
  | ok found =>
    rw [outcome] at checked
    unfold runCheck
    rw [bindOn (executeAfter checked)]
    cases verbose with
    | false => exact ⟨_, looked, rfl⟩
    | true =>
      refine ⟨_, ?_, rfl⟩
      exact looked.trans ⟨rfl, rfl, rfl, rfl⟩

/-! The document of a file, and the actions in it. -/

def isComponent (d : Document) : Bool := d.languageId = "javascriptreact" || d.languageId = "typescriptreact"

theorem componentAccepts (fromFile : d.scheme = "file") : componentFiles.accepts d = .ok (isComponent d) := by
  have first : (Json.string d.languageId).same (.string "javascriptreact") = decide (d.languageId = "javascriptreact") := by
    simp [Json.same, Json.sameKey]
  have second : (Json.string d.languageId).same (.string "typescriptreact") = decide (d.languageId = "typescriptreact") := by
    simp [Json.same, Json.sameKey]
  have scheme : (Json.string d.scheme).same (.string "file") = true := by simp [fromFile, Json.same, Json.sameKey]
  simp only [componentFiles, Selector.accepts, Filter.accepts, first, second, scheme, isComponent]
  by_cases script : d.languageId = "javascriptreact"
  · simp [script, bind, Except.bind, pure, Except.pure]
  · by_cases typed : d.languageId = "typescriptreact" <;> simp [script, typed, bind, Except.bind, pure, Except.pure]

theorem fileScheme (opened : Document.ofFile files file = .ok d) : d.scheme = "file" := by
  obtain ⟨_, _, opened⟩ := Fallible.bindOk.mp opened
  rw [← Fallible.pureOk.mp opened]

def placeRange (line column : Int) : Range := .single (.int (max line 1 - 1)) (.int (max column 1 - 1))

def offered (found : IssueMap) (d : Document) (id : BufferId) (line column : Int) : List FixAction :=
  if isComponent d then
    fixActions id (((found.get? (.string d.path)).getD []).filter fun i => i.range.intersects (placeRange line column))
  else []

theorem actionsOffered (config : Config) (folder : String) (found : IssueMap) {w : Workspace} {id : BufferId}
    (here : w.buffers[id]? = some d) (fromFile : d.scheme = "file") (line column : Int) :
    (surveyed config folder found).actions w id (placeRange line column) = .ok (offered found d id line column) := by
  have providers : (surveyed config folder found).providers = [⟨componentFiles, .fixes⟩] := rfl
  simp only [Extension.actions, here, Option.getD_some, providers, List.mapM_cons, List.mapM_nil, componentAccepts fromFile]
  unfold offered
  cases isComponent d with
  | true => exact congrArg Except.ok (List.append_nil _)
  | false => rfl

def withDocument (p : Progress) (d : Document) : Progress :=
  { p with workspace := { p.workspace with buffers := p.workspace.buffers ++ [d] } }

theorem actionsAfter (config : Config) (folder : String) (found : IssueMap) (file : String) (line column : Int) (p : Progress) :
    after (actionsAt (surveyed config folder found) file line column) p = match Document.ofFile p.workspace.files file with
      | .ok d => (.ok (offered found d p.workspace.buffers.length line column), withDocument p d)
      | .error f => (.error (.failure (.ofOpen f)), p) := by
  rw [actionsAt, bindOn (getAfter p)]
  cases read : Document.ofFile p.workspace.files file with
  | error f => rfl
  | ok d =>
    have last : (withDocument p d).workspace.buffers[p.workspace.buffers.length]? = some d := by simp [withDocument]
    have made := actionsOffered config folder found last (fileScheme read) line column
    rw [bindOn (orFailAfter d _ p)]
    refine (bindOn (setAfter p _)).trans ?_
    change after (orFail ((surveyed config folder found).actions (withDocument p d).workspace _ (placeRange line column))
      .shape) (withDocument p d) = _
    rw [made]
    rfl

/-! All steps up to the issues, and up to the actions. -/

def inspected (t : Surroundings) (g : Globals) (files : Files) (root : String) : Except Failure (Config × IssueMap) := do
  let config ← settings t g files
  let found ← (survey t files config (folderOf files root)).mapError .ofCommand
  return (config, found)

def inspecting (t : Surroundings) (g : Globals) (root : String) : Command (Option IssueMap × Extension) := do
  let e ← openExtension t g root
  runCheck t g.verbose e

theorem inspectingAfter (t : Surroundings) (g : Globals) (root : String) (p : Progress) :
    ∃ q, Looked p q ∧ after (inspecting t g root) p = (match inspected t g p.workspace.files root with
      | .ok seen => .ok (some seen.2, surveyed seen.1 (folderOf p.workspace.files root) seen.2)
      | .error f => .error (.failure f), q) := by
  obtain ⟨m, looked, opening⟩ := openAfter t g root p
  unfold inspecting
  cases set : settings t g p.workspace.files with
  | error f =>
    have failed : inspected t g p.workspace.files root = .error f := bindError.mpr (.inl set)
    rw [set] at opening
    rw [failed]
    exact ⟨m, looked, bindOff opening⟩
  | ok config =>
    rw [set] at opening
    obtain ⟨q, looked', checking⟩ := checkAfter t g.verbose config (folderNamed p.workspace.files root) m
    rw [looked.workspace] at checking
    refine ⟨q, looked.trans looked', (bindOn opening).trans ?_⟩
    cases reported : survey t p.workspace.files config (folderOf p.workspace.files root) with
    | error f =>
      have failed : inspected t g p.workspace.files root = .error (.ofCommand f) :=
        bindError.mpr (.inr ⟨config, set, bindError.mpr (.inl (mapErrorError.mpr ⟨f, reported, rfl⟩))⟩)
      rw [failed, checking, reported]
    | ok found =>
      have seen : inspected t g p.workspace.files root = .ok (config, found) :=
        bindOk.mpr ⟨config, set, bindOk.mpr ⟨found, mapErrorOk.mpr reported, rfl⟩⟩
      rw [seen, checking, reported]

def sought (t : Surroundings) (g : Globals) (files : Files) (file root : String) :
    Except Failure (Config × IssueMap × Document) := do
  let seen ← inspected t g files root
  let d ← (Document.ofFile files file).mapError .ofOpen
  return (seen.1, seen.2, d)

inductive SoughtEnd (t : Surroundings) (g : Globals) (file root : String) (line column : Int) (p : Progress) :
    Except Stop (Extension × List FixAction) → Progress → Prop where
  | stopped {f : Failure} {q : Progress} (failed : sought t g p.workspace.files file root = .error f) (looked : Looked p q) :
      SoughtEnd t g file root line column p (.error (.failure f)) q
  | seen {config : Config} {found : IssueMap} {d : Document} {q : Progress}
      (ok : sought t g p.workspace.files file root = .ok (config, found, d)) (looked : Looked p q) :
      SoughtEnd t g file root line column p (.ok (surveyed config (folderOf p.workspace.files root) found,
        offered found d p.workspace.buffers.length line column)) (withDocument q d)

theorem soughtEnds (t : Surroundings) (g : Globals) (file root : String) (line column : Int) (p : Progress) :
    ∃ r q, after (located t g file line column root) p = (r, q) ∧ SoughtEnd t g file root line column p r q := by
  obtain ⟨m, looked, inspection⟩ := inspectingAfter t g root p
  have parts : located t g file line column root = inspecting t g root >>= fun seen =>
      actionsAt seen.2 file line column >>= fun offered => pure (seen.2, offered) := by
    simp only [located, inspecting, bind_assoc]
  rw [parts]
  cases seen : inspected t g p.workspace.files root with
  | error f =>
    rw [seen] at inspection
    exact ⟨_, m, bindOff inspection, .stopped (bindError.mpr (.inl seen)) looked⟩
  | ok found =>
    obtain ⟨config, found⟩ := found
    rw [seen] at inspection
    rw [bindOn inspection]
    have acting := actionsAfter config (folderOf p.workspace.files root) found file line column m
    rw [looked.workspace] at acting
    cases read : Document.ofFile p.workspace.files file with
    | error f =>
      rw [read] at acting
      have failed : sought t g p.workspace.files file root = .error (.ofOpen f) :=
        bindError.mpr (.inr ⟨_, seen, bindError.mpr (.inl (mapErrorError.mpr ⟨f, read, rfl⟩))⟩)
      exact ⟨_, m, bindOff acting, .stopped failed looked⟩
    | ok d =>
      rw [read] at acting
      have whole : sought t g p.workspace.files file root = .ok (config, found, d) :=
        bindOk.mpr ⟨_, seen, bindOk.mpr ⟨d, mapErrorOk.mpr read, rfl⟩⟩
      exact ⟨_, withDocument m d, bindOn acting, .seen whole looked⟩

/-! What is put out, and how a guard ends. -/

def dataText (g : Globals) (data : Json) : Letters := Json.print ⟨false, g.pretty⟩ data

theorem putPrinted (printed : g.output.filter (· ≠ "") = none) (text : Letters) (p : Progress) :
    after (putOut g text) p = after (print text) p := by
  unfold putOut
  rw [printed]

theorem putFiled {path : String} (given : g.output.filter (· ≠ "") = some path) (text : Letters) (p : Progress) :
    after (putOut g text) p = match p.workspace.files.writeText path text with
      | (.ok (), files) => (.ok (), { p with
          workspace := { p.workspace with files := files }
          err := p.err ++ complained ("Report written to '" ++ path ++ "'") })
      | (.error f, files) => (.error (.failure (.ofWrite f)), { p with workspace := { p.workspace with files := files } }) := by
  unfold putOut
  rw [given]
  refine (bindOn (getAfter p)).trans ?_
  rcases p.workspace.files.writeText path text with ⟨_ | _, files⟩
  · rfl
  · rfl

theorem emitWritable {data : Json} (writable : data.isWritable = true) (g : Globals) :
    emit g data = putOut g (dataText g data) := if_pos writable

theorem emitUnwritable {data : Json} (unwritable : data.isWritable = false) (g : Globals) : emit g data = fail .digits := by
  rw [emit, unwritable]
  rfl

theorem guardedOn {α : Type} {c : Command α} {f : α → Command Unit} {a : α} {m : Progress} (went : after c p = (.ok a, m)) :
    after (guarded (c >>= f)) p = after (guarded (f a)) m := by
  rw [guarded, catchAfter, bindOn went, guarded, catchAfter]

theorem guardedOk {c : Command Unit} (went : after c p = (.ok (), q)) : after (guarded c) p = (.ok (), q) := by
  rw [guarded, catchAfter, went]

theorem guardedExit {c : Command Unit} {status : Nat} (stopped : after c p = (.error (.exit status), q)) :
    after (guarded c) p = (.error (.exit status), q) := by
  rw [guarded, catchAfter, stopped]
  rfl

theorem guardedFailure {c : Command Unit} {f : Failure} (failed : after c p = (.error (.failure f), q)) :
    after (guarded c) p = match f.kind.heading? with
      | some heading => (.error (.exit 1), { q with err := q.err ++ complained (heading ++ f.message) })
      | none => (.error (.failure f), q) := by
  rw [guarded, catchAfter, failed]
  change after (announce f.kind f.message (fail f)) q = _
  unfold announce
  cases f.kind.heading? <;> rfl

/-! Command lines that put out a value, with nothing printed or changed before. The value is said; or it is withheld, for an integer
without a text; or it stays unsaid, for a text without an encoding, and a file that was opened for it is left empty. -/

section
variable {whole : Command Unit} {data : Json} {w : Workspace} {m : Progress}

def PutsOut (whole : Command Unit) (w : Workspace) (g : Globals) (data : Json) : Prop :=
  ∃ m : Progress, m.out = "" ∧ m.workspace.files = w.files ∧
    after whole ⟨"", "", w, {}⟩ = after (guarded (emit g data)) m

structure Said (g : Globals) (before : Files) (data : Json) (ended : Ended) : Prop where
  printed : g.output.filter (· ≠ "") = none → Text.Encodable (dataText g data) →
    ended.stop = none ∧ ended.progress.out = said (dataText g data) ∧ ended.progress.workspace.files = before
  filed : ∀ output after, g.output.filter (· ≠ "") = some output →
    before.writeText output (dataText g data) = (.ok (), after) →
    ended.stop = none ∧ ended.progress.out = "" ∧ ended.progress.workspace.files = after

structure Withheld (before : Files) (ended : Ended) : Prop where
  stopped : ended.stop = some (.failure .digits)
  silent : ended.progress.out = ""
  files : ended.progress.workspace.files = before

structure Unsaid (g : Globals) (before : Files) (ended : Ended) : Prop where
  printed : g.output.filter (· ≠ "") = none → ∃ f, ended.stop = some (.failure (.unencodable f)) ∧
    ended.progress.out = "" ∧ ended.progress.workspace.files = before
  filed : ∀ output after, g.output.filter (· ≠ "") = some output → before.write output [] = .ok after →
    ∃ f, ended.stop = some (.failure (.unencodable f)) ∧ ended.progress.out = "" ∧ ended.progress.workspace.files = after

theorem startPut (puts : PutsOut whole w g data) (writable : data.isWritable = true) :
    Said g w.files data (start w whole) := by
  obtain ⟨m, out, same, ran⟩ := puts
  rw [emitWritable writable] at ran
  refine ⟨fun printed plain => ?_, fun output files given wrote => ?_⟩
  · have put := (putPrinted printed _ m).trans (printedAfter plain m)
    rw [startAfter w _ (ran.trans (guardedOk put))]
    exact ⟨rfl, by simp [out], same⟩
  · have filed := putFiled given (dataText g data) m
    rw [same, wrote] at filed
    rw [startAfter w _ (ran.trans (guardedOk filed))]
    exact ⟨rfl, out, rfl⟩

theorem startUnput (puts : PutsOut whole w g data) (unwritable : data.isWritable = false) :
    Withheld w.files (start w whole) := by
  obtain ⟨m, out, same, ran⟩ := puts
  have failed : after (fail .digits : Command Unit) m = (.error (.failure .digits), m) := rfl
  rw [emitUnwritable unwritable] at ran
  rw [startAfter w _ (ran.trans (guardedFailure failed))]
  exact ⟨rfl, out, same⟩

theorem startUnsaid (puts : PutsOut whole w g data) (writable : data.isWritable = true)
    (uncoded : ¬Text.Encodable (dataText g data)) : Unsaid g w.files (start w whole) := by
  obtain ⟨m, out, same, ran⟩ := puts
  rw [emitWritable writable] at ran
  refine ⟨fun printed => ?_, fun output files given emptied => ?_⟩
  · obtain ⟨f, unsaid⟩ : ∃ f, unsaid? (dataText g data) = some f :=
      Option.ne_none_iff_exists'.mp fun none => uncoded (unsaidNone.mp none)
    have put := (putPrinted printed (dataText g data) m).trans (printAfter _ m)
    rw [unsaid] at put
    rw [startAfter w _ (ran.trans (guardedFailure put))]
    exact ⟨f, rfl, out, same⟩
  · obtain ⟨f, refused⟩ : ∃ f, Text.Codec.utf8.encode (dataText g data) = .error f := by
      cases coded : Text.Codec.utf8.encode (dataText g data) with
      | ok octets => exact absurd (Text.encodeOk.mp coded).1 uncoded
      | error f => exact ⟨f, rfl⟩
    have filed := putFiled given (dataText g data) m
    rw [same, Files.writeTextUnencodable.mpr ⟨refused, emptied⟩] at filed
    rw [startAfter w _ (ran.trans (guardedFailure filed))]
    exact ⟨f, rfl, out, rfl⟩

end

/-! The fix of the first action. -/

theorem surveyedReady (config : Config) (folder : String) (found : IssueMap) : Extension.Ready (surveyed config folder found) :=
  ⟨rfl, rfl, fun r mem => by rw [List.mem_singleton.mp mem]⟩

theorem guardedRepair {c : Command Unit} {run : FixRun}
    (unasked : ∀ f, run.result = .error (.write (.file f)) → f.fault.isRefusal = false)
    (went : after c p = (repairEnd run, q)) : after (guarded c) p = (repairEnd run, q) := by
  unfold repairEnd at went ⊢
  split at went
  · exact guardedFailure went
  · exact guardedOk went
  · exact guardedExit went
  · rename_i f _ broken
    have untold : (Failure.ofCommand (.fix f)).kind.heading? = none := by
      rcases f with _ | (f | _) | _ | _ <;> try rfl
      simp [Failure.ofCommand, Failure.ofWrite, Failure.kind, unasked f broken, FailureKind.heading?]
    rw [guardedFailure went, untold]

theorem runUnasked {send : Request → Delivery} {f : Fixer} (writes : f.applier = .write true) {w : Workspace}
    (b : Fin w.buffers.length) (issue : Issue) {fault : FileFault}
    (broken : (FixRun.run send f b issue w).result = .error (.write (.file fault))) : fault.fault.isRefusal = false := by
  rcases FixRun.runEnds send writes b issue with settled | ⟨_, returned, _, _, unasked⟩
  · cases settled.returned.symm.trans broken
  · exact unasked fault (Except.error.inj (returned.symm.trans broken))

theorem fixSought {m : Progress} {action : FixAction} {rest : List FixAction} (looked : Looked p m)
    (went : after (located t g file line column root) p =
      (.ok (surveyed config (folderOf p.workspace.files root) found, action :: rest), withDocument m d))
    (here : action.document = p.workspace.buffers.length) :
    let run := FixRun.run t.send ⟨config.client, .write true⟩ p.workspace.buffers.length action.issue
      { p.workspace with buffers := p.workspace.buffers ++ [d] }
    ∃ m' : Progress, m'.trace.sent = p.trace.sent ∧ after (fix t g file line column root) p = (repairEnd run,
      told { m' with workspace := run.workspace, trace := m'.trace.append ⟨[], run.sent, run.closed⟩ } run.notices) := by
  intro run
  have workspace : (withDocument m d).workspace = { p.workspace with buffers := p.workspace.buffers ++ [d] } := by
    change { m.workspace with buffers := m.workspace.buffers ++ [d] } = _
    rw [looked.workspace]
  obtain ⟨m', looked', repaired⟩ := repairRuns (t := t) g file line column
    (surveyedReady config (folderOf p.workspace.files root) found) action rest (withDocument m d)
  rw [workspace, here] at repaired
  refine ⟨m', looked'.sent.trans looked.sent, ?_⟩
  have short : p.workspace.buffers.length < (p.workspace.buffers ++ [d]).length := by simp
  have unasked (fault : FileFault) (broken : run.result = .error (.write (.file fault))) :
      fault.fault.isRefusal = false :=
    runUnasked (w := { p.workspace with buffers := p.workspace.buffers ++ [d] }) rfl ⟨_, short⟩ action.issue broken
  rw [fixLocated]
  exact guardedRepair unasked ((bindOn went).trans repaired)

end AccessFix.CommandLine
