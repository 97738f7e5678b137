import AccessFix.Proofs.CommandLine.Changes
import AccessFix.Proofs.CommandLine.Stages
import AccessFix.Proofs.Config.Load
import AccessFix.Proofs.Lint

/-! How command lines end. A line that ends with a status has told why, unless it is the status of success. The others end with
a failure that nothing tells: a guard tells most failures of the commands that check, but writing the template is not guarded,
and neither is the reading of words. -/
namespace AccessFix
open Fallible

/-! Failures that a guard does not tell. -/

inductive Failure.Untold : Failure → Prop where
  | settingsText (f : Text.Utf8.Fault) : Untold (.load (.unreadable (.encoding f)))
  | settingsValue (f : Yaml.Fault) : Untold (.load (.scalar f))
  | settingsNumber (f : ValueFault) : Untold (.load (.overflow f))
  | unstartable (reason : Letters) : Untold (.lint (.unstartable reason))
  | undecodable (f : Text.Utf8.Fault) : Untold (.lint (.undecodable f))
  | nested (innermost : Json.Innermost) : Untold (.lint (.tooDeep innermost))
  | shape (f : ShapeFault) : Untold (.shape f)
  | text (f : Text.Utf8.Fault) : Untold (.encoding f)
  | path (path : String) : Untold (.file ⟨.zeroCharacter, path⟩)
  | unencodable (f : Text.Unencodable) : Untold (.unencodable f)
  | digits : Untold .digits

def Failure.Sorted (f : Failure) : Prop := f.kind.heading? = none ↔ f.Untold

namespace CommandLine

variable {t : Surroundings} {g : Globals} {files : Files} {config : Config} {file folder root : String} {line column : Int}
  {p q m : Progress} {r : Except Stop Unit} {i : Invocation} {words : List String}

theorem fileSorted (f : FileFault) : (Failure.file f).Sorted := by
  obtain ⟨fault, path⟩ := f
  cases fault with
  | zeroCharacter => exact iff_of_true rfl (.path path)
  | _ => exact iff_of_false (by simp [Failure.kind, PathFault.isRefusal, FailureKind.heading?]) (by rintro ⟨⟩)

theorem writeSorted (f : WriteFault) : (Failure.ofWrite f).Sorted := by
  cases f with
  | file f => exact fileSorted f
  | encoding f => exact iff_of_true rfl (.unencodable f)

theorem shapeSorted (f : ShapeFault) : (Failure.shape f).Sorted := iff_of_true rfl (.shape f)

theorem openSorted (f : OpenFault) : (Failure.ofOpen f).Sorted := by
  cases f with
  | file f => exact fileSorted f
  | encoding f => exact iff_of_true rfl (.text f)

theorem settingsSorted {f : Failure} (failed : settings t g files = .error f) : f.Sorted := by
  obtain ⟨fault, unloaded, rfl⟩ := mapErrorError.mp failed
  have untellable (f : LoadFault) (none : (Failure.load f).kind.heading? = none) (untold : (Failure.load f).Untold) :
      (Failure.load f).Sorted := iff_of_true none untold
  cases fault with
  | config f => exact iff_of_false (by simp [Failure.kind, FailureKind.heading?]) (by rintro ⟨⟩)
  | scalar f => exact untellable _ rfl (.settingsValue f)
  | overflow f => exact untellable _ rfl (.settingsNumber f)
  | unreadable f =>
    cases f with
    | encoding f => exact untellable _ rfl (.settingsText f)
    | file f =>
      have asked : f.fault.isRefusal = true := Config.loadRefusal unloaded
      exact iff_of_false (by simp [Failure.kind, asked, FailureKind.heading?]) (by rintro ⟨⟩)

theorem surveySorted {f : CommandFault} (failed : survey t files config folder = .error f) : (Failure.ofCommand f).Sorted := by
  rcases bindError.mp failed with unlisted | ⟨listed, _, failed⟩
  · obtain ⟨fault, refused, rfl⟩ := mapErrorError.mp unlisted
    cases fault with
    | tooDeep innermost => exact iff_of_true rfl (.nested innermost)
    | unstartable reason => exact iff_of_true rfl (.unstartable reason)
    | undecodable f => exact iff_of_true rfl (.undecodable f)
    | unusable f =>
      have asked : f.fault.isRefusal = true := Lint.unusableRefusal refused
      exact iff_of_false (by simp [Failure.kind, Failure.ofCommand, asked, FailureKind.heading?]) (by rintro ⟨⟩)
    | _ =>
      exact iff_of_false (by simp [Failure.kind, Failure.ofCommand, LintFault.isSetting, FailureKind.heading?])
        (by rintro ⟨⟩)
  · obtain ⟨fault, _, rfl⟩ := mapErrorError.mp failed
    exact shapeSorted fault

theorem inspectedSorted {f : Failure} (failed : inspected t g files root = .error f) : f.Sorted := by
  rcases bindError.mp failed with unset | ⟨config, _, failed⟩
  · exact settingsSorted unset
  · rcases bindError.mp failed with unseen | ⟨found, _, never⟩
    · obtain ⟨fault, unsurveyed, rfl⟩ := mapErrorError.mp unseen
      exact surveySorted unsurveyed
    · exact absurd never pureError

theorem soughtSorted {f : Failure} (failed : sought t g files file root = .error f) : f.Sorted := by
  rcases bindError.mp failed with uninspected | ⟨seen, _, failed⟩
  · exact inspectedSorted uninspected
  · rcases bindError.mp failed with unread | ⟨d, _, never⟩
    · obtain ⟨fault, _, rfl⟩ := mapErrorError.mp unread
      exact openSorted fault
    · exact absurd never pureError

def headings : List String :=
  ["Configuration error: ", "ESLint error: ", "Extension error: ", "File error: ", "Error: ", "Warning: ",
    "No accessibility issue at "]

def Told (p : Progress) : Prop :=
  ∃ before, ∃ heading ∈ headings, ∃ message, p.err = before ++ (heading ++ message) ++ "\n"

theorem headingBare {heading : String} (known : heading ∈ headings) : ∀ c ∈ letters heading, c.code ≠ 27 := by
  simp only [headings, List.mem_cons, List.not_mem_nil, or_false] at known
  rcases known with rfl | rfl | rfl | rfl | rfl | rfl | rfl <;> decide

theorem complainedHeading {heading : String} (known : heading ∈ headings) (message : Letters) :
    complained (heading ++ message) = heading ++ Text.shown (Text.plain message) ++ "\n" := by
  rw [complained, Text.plainBare (headingBare known), Text.shownAppend, Text.shownAppend, Text.shownLetters, Text.shownLetters]

theorem complainTold {heading : String} (known : heading ∈ headings) (message : Letters)
    (told : q.err = p.err ++ complained (heading ++ message)) : Told q := by
  refine ⟨p.err, heading, known, Text.shown (Text.plain message), ?_⟩
  rw [told, complainedHeading known]
  simp only [String.append_assoc]

structure Ends (expected : Failure → Prop) (r : Except Stop Unit) (q : Progress) : Prop where
  failed : ∀ f, r = .error (.failure f) ↔ expected f
  told : ∀ status, r = .error (.exit status) → status ≠ 0 → Told q

variable {expected : Failure → Prop}

theorem endsOk (none : ∀ f, ¬expected f) : Ends expected (.ok ()) q :=
  ⟨fun f => iff_of_false nofun (none f), fun _ same => nomatch same⟩

theorem endsExit {status : Nat} (none : ∀ f, ¬expected f) (told : Told q) : Ends expected (.error (.exit status)) q :=
  ⟨fun f => iff_of_false nofun (none f), fun _ _ _ => told⟩

theorem endsFailure {f : Failure} (only : ∀ g, expected g ↔ g = f) : Ends expected (.error (.failure f)) q :=
  ⟨fun g => (by simp [eq_comm] : _ ↔ g = f).trans (only g).symm, fun _ same => nomatch same⟩

theorem endsCongr {other : Failure → Prop} (ends : Ends expected r q) (same : ∀ f, other f ↔ expected f) : Ends other r q :=
  ⟨fun f => (ends.failed f).trans (same f).symm, ends.told⟩

theorem endsGuarded {c : Command Unit} {f : Failure} (failed : after c p = (.error (.failure f), m)) (sorted : f.Sorted)
    (only : ∀ g, expected g ↔ g = f ∧ g.Untold) (ran : after (guarded c) p = (r, q)) : Ends expected r q := by
  rw [guardedFailure failed] at ran
  cases kind : f.kind.heading? with
  | none =>
    have untold : f.Untold := sorted.mp kind
    rw [kind] at ran
    cases ran
    refine endsFailure fun g => (only g).trans ⟨And.left, ?_⟩
    rintro rfl
    exact ⟨rfl, untold⟩
  | some heading =>
    rw [kind] at ran
    cases ran
    have known : heading ∈ headings := by
      unfold FailureKind.heading? at kind
      split at kind <;> cases kind <;> decide
    refine endsExit (fun g expects => ?_) (complainTold known f.message rfl)
    obtain ⟨rfl, untold⟩ := (only g).mp expects
    rw [sorted.mpr untold] at kind
    cases kind

/-- What escapes from a command that makes something and goes on with it. -/
inductive Staged {α : Type} (made : Except Failure α) (later : α → Failure → Prop) : Failure → Prop where
  | unmade {f : Failure} (failed : made = .error f) (untold : f.Untold) : Staged made later f
  | later {a : α} {f : Failure} (ok : made = .ok a) (escapes : later a f) : Staged made later f

theorem stagedError {α : Type} {made : Except Failure α} {later : α → Failure → Prop} {f : Failure}
    (failed : made = .error f) (other : Failure) : Staged made later other ↔ other = f ∧ other.Untold := by
  constructor
  · intro escapes
    cases escapes with
    | unmade failed' untold =>
      rw [failed] at failed'
      cases failed'
      exact ⟨rfl, untold⟩
    | later ok =>
      rw [failed] at ok
      cases ok
  · rintro ⟨rfl, untold⟩
    exact .unmade failed untold

theorem stagedOk {α : Type} {made : Except Failure α} {later : α → Failure → Prop} {a : α} (ok : made = .ok a)
    (f : Failure) : Staged made later f ↔ later a f := by
  constructor
  · intro escapes
    cases escapes with
    | unmade failed =>
      rw [ok] at failed
      cases failed
    | later ok' escapes =>
      rw [ok] at ok'
      cases ok'
      exact escapes
  · exact .later ok

/-! Commands that put something out. -/

/-- What escapes where something is put out: it has no text, the path that it is to go to is none, or its text has no
encoding and a channel or a file is open for it. -/
inductive Unwritten (g : Globals) (files : Files) (data : Json) : Failure → Prop where
  | digits (unwritable : data.isWritable = false) : Unwritten g files data .digits
  | zero {output : String} (writable : data.isWritable = true) (given : g.output = some output)
      (zero : Path.HasZero output) : Unwritten g files data (.file ⟨.zeroCharacter, output⟩)
  | unsaid {f : Text.Unencodable} (writable : data.isWritable = true) (printed : g.output.filter (· ≠ "") = none)
      (unsaid : unsaid? (dataText g data) = some f) : Unwritten g files data (.unencodable f)
  | uncoded {output : String} {route : Route} {f : Text.Unencodable} (writable : data.isWritable = true)
      (given : g.output.filter (· ≠ "") = some output) (leads : Files.Target files output route)
      (uncoded : Text.Codec.utf8.encode (dataText g data) = .error f) : Unwritten g files data (.unencodable f)

theorem unwrittenPrinted {data : Json} (printed : g.output.filter (· ≠ "") = none) (writable : data.isWritable = true)
    (files : Files) (f : Failure) :
    Unwritten g files data f ↔ ∃ fault, unsaid? (dataText g data) = some fault ∧ f = .unencodable fault := by
  constructor
  · intro unwritten
    cases unwritten with
    | digits unwritable => simp [writable] at unwritable
    | @zero output _ given zero =>
      obtain ⟨c, mem, _⟩ := zero
      rw [given] at printed
      have empty : output = "" := by simpa using printed
      simp [empty] at mem
    | unsaid _ _ unsaid => exact ⟨_, unsaid, rfl⟩
    | uncoded _ given =>
      rw [printed] at given
      cases given
  · rintro ⟨fault, unsaid, rfl⟩
    exact .unsaid writable printed unsaid

theorem unwrittenFiled {data : Json} {output : String} (given : g.output.filter (· ≠ "") = some output)
    (writable : data.isWritable = true) (files : Files) (f : Failure) : Unwritten g files data f ↔
      ∃ fault, (files.writeText output (dataText g data)).1 = .error fault ∧ f = .ofWrite fault ∧ f.Untold := by
  have named : g.output = some output := (Option.filter_eq_some_iff.mp given).1
  constructor
  · intro unwritten
    cases unwritten with
    | digits unwritable => simp [writable] at unwritable
    | zero _ given' zero =>
      cases named.symm.trans given'
      have refused : files.writeText output (dataText g data) = (.error (.file ⟨.zeroCharacter, output⟩), files) :=
        Files.writeTextRefused.mpr ⟨⟨_, Files.targetZero.mpr zero, rfl⟩, rfl⟩
      exact ⟨.file ⟨.zeroCharacter, output⟩, by rw [refused], rfl, .path _⟩
    | unsaid _ printed =>
      rw [printed] at given
      cases given
    | uncoded _ given' leads uncoded =>
      cases given.symm.trans given'
      have emptied := Files.writeTextUnencodable.mpr ⟨uncoded, Files.writeOk.mpr ⟨_, leads, rfl⟩⟩
      exact ⟨.encoding _, by rw [emptied], rfl, .unencodable _⟩
  · rintro ⟨fault, failed, rfl, untold⟩
    obtain ⟨next, wrote⟩ : ∃ next, files.writeText output (dataText g data) = (.error fault, next) :=
      ⟨_, Prod.ext failed rfl⟩
    cases fault with
    | encoding f =>
      obtain ⟨uncoded, emptied⟩ := Files.writeTextUnencodable.mp wrote
      obtain ⟨route, leads, rfl⟩ := Files.writeOk.mp emptied
      exact .uncoded writable given leads uncoded
    | file f =>
      obtain ⟨⟨fault, refused, rfl⟩, rfl⟩ := Files.writeTextRefused.mp wrote
      cases untold with
      | path path => exact .zero writable named (Files.targetZero.mp refused)

theorem emitEnds {data : Json} (ran : after (guarded (emit g data)) p = (r, q)) :
    Ends (Unwritten g p.workspace.files data) r q := by
  cases writable : data.isWritable with
  | false =>
    rw [emitUnwritable writable] at ran
    refine endsGuarded (show after (fail .digits) p = _ from rfl) (iff_of_true rfl .digits) (fun f => ⟨fun unwritten => ?_, ?_⟩) ran
    · cases unwritten with
      | digits => exact ⟨rfl, .digits⟩
      | zero writable' | unsaid writable' | uncoded writable' => simp [writable] at writable'
    · rintro ⟨rfl, -⟩
      exact .digits writable
  | true =>
    rw [emitWritable writable] at ran
    cases printed : g.output.filter (· ≠ "") with
    | none =>
      have unwritten := unwrittenPrinted printed writable p.workspace.files
      have put := (putPrinted printed (dataText g data) p).trans (printAfter _ p)
      cases unsaid : unsaid? (dataText g data) with
      | none =>
        rw [unsaid] at put
        rw [guardedOk put] at ran
        cases ran
        exact endsOk fun f escapes => by simpa [unsaid] using (unwritten f).mp escapes
      | some fault =>
        rw [unsaid] at put
        refine endsGuarded put (iff_of_true rfl (.unencodable fault)) (fun f => (unwritten f).trans ?_) ran
        rw [unsaid]
        constructor
        · rintro ⟨_, same, rfl⟩
          cases same
          exact ⟨rfl, .unencodable _⟩
        · rintro ⟨rfl, -⟩
          exact ⟨fault, rfl, rfl⟩
    | some output =>
      have unwritten := unwrittenFiled printed writable p.workspace.files
      have filed := putFiled printed (dataText g data) p
      rcases wrote : p.workspace.files.writeText output (dataText g data) with ⟨fault | _, files⟩
      · rw [wrote] at filed unwritten
        refine endsGuarded filed (writeSorted fault) (fun f => (unwritten f).trans ⟨?_, ?_⟩) ran
        · rintro ⟨_, same, rfl, untold⟩
          cases same
          exact ⟨rfl, untold⟩
        · rintro ⟨rfl, untold⟩
          exact ⟨fault, rfl, rfl, untold⟩
      · rw [wrote] at filed unwritten
        rw [guardedOk filed] at ran
        cases ran
        exact endsOk fun f escapes => by simpa using (unwritten f).mp escapes

/-! Each command that a guard is around. -/

def reportFor (t : Surroundings) (g : Globals) (files : Files) (root : String) : Except Failure Report := do
  let seen ← inspected t g files root
  (Report.build (folderOf files root) t.now seen.2).mapError .shape

theorem reportSorted {f : Failure} (failed : reportFor t g files root = .error f) : f.Sorted := by
  rcases bindError.mp failed with uninspected | ⟨seen, _, failed⟩
  · exact inspectedSorted uninspected
  · obtain ⟨fault, _, rfl⟩ := mapErrorError.mp failed
    exact shapeSorted fault

def reporting (t : Surroundings) (g : Globals) (root : String) : Command Report := do
  let seen ← inspecting t g root
  orFail (Report.build (← resolved root) t.now (seen.1.getD [])) .shape

theorem checkReporting (t : Surroundings) (g : Globals) (root : String) :
    check t g root = guarded (reporting t g root >>= fun report => emit g report.toJson) := by
  simp only [check, reporting, inspecting, bind_assoc]

theorem reportingAfter (t : Surroundings) (g : Globals) (root : String) (p : Progress) :
    ∃ q, Looked p q ∧ after (reporting t g root) p = (match reportFor t g p.workspace.files root with
      | .ok report => .ok report
      | .error f => .error (.failure f), q) := by
  obtain ⟨m, looked, inspection⟩ := inspectingAfter t g root p
  refine ⟨m, looked, ?_⟩
  cases seen : inspected t g p.workspace.files root with
  | error f =>
    have failed : reportFor t g p.workspace.files root = .error f := bindError.mpr (.inl seen)
    rw [seen] at inspection
    rw [failed]
    exact bindOff inspection
  | ok found =>
    have built : reportFor t g p.workspace.files root =
        (Report.build (folderOf p.workspace.files root) t.now found.2).mapError .shape := by
      rw [reportFor, seen]
      rfl
    have folder : after (resolved root) m = (.ok (folderOf p.workspace.files root), m) := by
      rw [← looked.workspace]
      rfl
    rw [seen] at inspection
    rw [reporting, bindOn inspection, bindOn folder, built]
    change after (orFail (Report.build (folderOf p.workspace.files root) t.now found.2) .shape) m = _
    cases Report.build (folderOf p.workspace.files root) t.now found.2 <;> rfl

theorem checkEnds {t : Surroundings} (ran : after (check t g root) p = (r, q)) :
    Ends (Staged (reportFor t g p.workspace.files root) fun report => Unwritten g p.workspace.files report.toJson) r q := by
  rw [checkReporting] at ran
  obtain ⟨m, looked, went⟩ := reportingAfter t g root p
  cases made : reportFor t g p.workspace.files root with
  | error f =>
    rw [made] at went
    exact endsGuarded (bindOff went) (reportSorted made) (stagedError rfl) ran
  | ok report =>
    simp only [made] at went
    rw [guardedOn went] at ran
    have ended := emitEnds ran
    rw [looked.workspace] at ended
    exact endsCongr ended (stagedOk rfl)

def listing (w : Workspace) (line column : Int) (seen : Config × IssueMap × Document) : Json :=
  .array ((offered seen.2.1 seen.2.2 w.buffers.length line column).map FixAction.toJson)

theorem actionsEnds (ran : after (actions t g file line column root) p = (r, q)) :
    Ends (Staged (sought t g p.workspace.files file root) fun seen =>
      Unwritten g p.workspace.files (listing p.workspace line column seen)) r q := by
  rw [actionsLocated] at ran
  obtain ⟨found, m, went, ended⟩ := soughtEnds t g file root line column p
  cases ended with
  | stopped failed => exact endsGuarded (bindOff went) (soughtSorted failed) (stagedError failed) ran
  | @seen config found d m ok looked =>
    rw [guardedOn went] at ran
    have same : m.workspace.files = p.workspace.files := congrArg Workspace.files looked.workspace
    have ended := emitEnds ran
    change Ends (Unwritten g m.workspace.files _) r q at ended
    rw [same] at ended
    exact endsCongr ended (stagedOk ok)

def attempt (t : Surroundings) (w : Workspace) (seen : Config × IssueMap × Document) (issue : Issue) : FixRun :=
  FixRun.run t.send ⟨seen.1.client, .write true⟩ w.buffers.length issue { w with buffers := w.buffers ++ [seen.2.2] }

inductive Unfixed (t : Surroundings) (w : Workspace) (line column : Int) (seen : Config × IssueMap × Document) :
    Failure → Prop where
  | broken {action : FixAction} {rest : List FixAction} {fault : FixFault}
      (first : offered seen.2.1 seen.2.2 w.buffers.length line column = action :: rest)
      (broke : (attempt t w seen action.issue).result = .error fault) : Unfixed t w line column seen (.ofCommand (.fix fault))
  | unsaid {action : FixAction} {rest : List FixAction} {f : Text.Unencodable}
      (first : offered seen.2.1 seen.2.2 w.buffers.length line column = action :: rest)
      (applied : (attempt t w seen action.issue).result = .ok .fixApplied)
      (unsaid : (attempt t w seen action.issue).notices.findSome? noticeUnsaid? = some f) :
      Unfixed t w line column seen (.unencodable f)

theorem offeredDocument {found : IssueMap} {d : Document} {id : BufferId} {a : FixAction}
    (mem : a ∈ offered found d id line column) : a.document = id := by
  unfold offered at mem
  split at mem
  · exact fixActionsDocument mem
  · cases mem

theorem tellTold {n : Notice} (heard : n.level ≠ .info) (p : Progress) : Told (tell p n) := by
  obtain ⟨level, text⟩ := n
  cases level with
  | info => exact absurd rfl heard
  | warning => exact complainTold (p := p) (show "Warning: " ∈ headings by decide) text rfl
  | error => exact complainTold (p := p) (show "Error: " ∈ headings by decide) text rfl

theorem settledTold {run : FixRun} {state : FixState} (settled : FixRun.Settled run) (returned : run.result = .ok state)
    (unfixed : state ≠ .fixApplied) (p : Progress) :
    run.notices.findSome? noticeUnsaid? = none ∧ Told (told p run.notices) := by
  have heard := FixRun.settledHeard settled (by simpa [returned] using unfixed)
  have said := heardSaid heard
  obtain ⟨n, one, _⟩ := List.map_eq_singleton_iff.mp settled.told
  rw [one] at heard said ⊢
  have whole : told p [n] = tell p n := by
    simp [told, List.findSome?_eq_none_iff.mp said n]
  exact ⟨said, whole ▸ tellTold (heard n (List.mem_singleton_self n)) p⟩

theorem repairEnds {run : FixRun} {d : Document} {range : Range} (ends : FixRun.RunEnd d range run) (p : Progress) :
    Ends (fun f => (∃ fault, f = .ofCommand (.fix fault) ∧ run.result = .error fault) ∨
      ∃ fault, f = .unencodable fault ∧ run.result = .ok .fixApplied ∧ run.notices.findSome? noticeUnsaid? = some fault)
      (repairEnd run) (told p run.notices) := by
  unfold repairEnd
  cases ends with
  | settled settled =>
    have quiet := settledTold settled settled.returned
    rw [settled.returned]
    cases state : run.state with
    | fixApplied =>
      cases unsaid : run.notices.findSome? noticeUnsaid? with
      | none => exact endsOk (by simp)
      | some fault => exact endsFailure (by simp)
    | _ =>
      obtain ⟨said, shown⟩ := quiet (by simp [state]) p
      rw [said]
      exact endsExit (by simp) shown
  | broken fault broke silent =>
    rw [broke, silent]
    exact endsFailure (by simp)

theorem fixEnds (ran : after (fix t g file line column root) p = (r, q)) :
    Ends (Staged (sought t g p.workspace.files file root) (Unfixed t p.workspace line column)) r q := by
  obtain ⟨found, m, went, ended⟩ := soughtEnds t g file root line column p
  cases ended with
  | stopped failed =>
    rw [fixLocated] at ran
    exact endsGuarded (bindOff went) (soughtSorted failed) (stagedError failed) ran
  | @seen config found d m ok looked =>
    refine endsCongr ?_ (stagedOk ok)
    cases first : offered found d p.workspace.buffers.length line column with
    | nil =>
      rw [fixLocated] at ran
      rw [first] at went
      have inner := bindOn (f := fun found => repair t g file line column found.1 found.2) went
      rw [guardedExit inner] at ran
      cases ran
      have known : "No accessibility issue at " ∈ headings := by decide
      refine endsExit (fun f unfixed => ?_) ?_
      · cases unfixed with
        | broken listed | unsaid listed => cases first.symm.trans listed
      · refine complainTold (p := withDocument m d) known (letters file ++ ":" ++ toString line ++ ":" ++ toString column) ?_
        change m.err ++ complained _ = m.err ++ complained _
        simp only [List.append_assoc]
    | cons action rest =>
      have mem : action ∈ offered found d p.workspace.buffers.length line column := by simp [first]
      have here := offeredDocument mem
      rw [first] at went
      obtain ⟨m', _, fixed⟩ := fixSought looked went here
      have short : p.workspace.buffers.length < (p.workspace.buffers ++ [d]).length := by simp
      have ends := FixRun.runEnds t.send (f := ⟨config.client, .write true⟩)
        (w := { p.workspace with buffers := p.workspace.buffers ++ [d] }) rfl ⟨p.workspace.buffers.length, short⟩ action.issue
      rw [fixed] at ran
      cases ran
      refine endsCongr (repairEnds ends _) fun f => ⟨fun unfixed => ?_, ?_⟩
      · cases unfixed with
        | @broken _ _ fault listed broke =>
          cases first.symm.trans listed
          exact .inl ⟨fault, rfl, broke⟩
        | @unsaid _ _ fault listed applied unsaid =>
          cases first.symm.trans listed
          exact .inr ⟨fault, rfl, applied, unsaid⟩
      · rintro (⟨fault, rfl, broke⟩ | ⟨fault, rfl, applied, unsaid⟩)
        · exact .broken first broke
        · exact .unsaid first applied unsaid

/-! What escapes from a command that is asked for, and what from a command line. -/

inductive Escapes (t : Surroundings) (w : Workspace) (i : Invocation) : Failure → Prop where
  | template {f : FileFault} (name : i.spec.name = "init")
      (unwritten : Config.writeTemplate w.files ((i.words.value? "--output").getD defaultConfigPath) = .error (.file f)) :
      Escapes t w i (.file f)
  | check {folder : String} {f : Failure} (values : i.values = [.path folder])
      (staged : Staged (reportFor t i.globals w.files folder) (fun report => Unwritten i.globals w.files report.toJson) f) :
      Escapes t w i f
  | actions {file : String} {line column : Int} {f : Failure} (name : i.spec.name ≠ "fix")
      (values : i.values = [.path file, .number line, .number column])
      (staged : Staged (sought t i.globals w.files file i.root)
        (fun seen => Unwritten i.globals w.files (listing w line column seen)) f) : Escapes t w i f
  | fix {file : String} {line column : Int} {f : Failure} (name : i.spec.name = "fix")
      (values : i.values = [.path file, .number line, .number column])
      (staged : Staged (sought t i.globals w.files file i.root) (Unfixed t w line column) f) : Escapes t w i f

theorem initialiseEnds {path : String} (ran : after (initialise path) p = (r, q)) :
    Ends (fun f => ∃ fault, f = .file fault ∧ Config.writeTemplate p.workspace.files path = .error (.file fault)) r q := by
  cases wrote : Config.writeTemplate p.workspace.files path with
  | ok files =>
    obtain ⟨_, ended, _⟩ := initialiseOk wrote
    rw [ended] at ran
    cases ran
    exact endsOk (by simp)
  | error f =>
    rw [initialise, bindOn (getAfter p), wrote] at ran
    cases f with
    | taken path =>
      cases ran
      have known : "Error: " ∈ headings := by decide
      exact endsExit (by simp) (complainTold (p := p) known _ rfl)
    | file f =>
      cases ran
      exact endsFailure (by simp)

theorem performEnds (form : Form i.spec.name i.values) (ran : after (i.perform t) p = (r, q)) :
    Ends (Escapes t p.workspace i) r q := by
  generalize name : i.spec.name = n at form
  generalize given : i.values = values at form
  rw [Invocation.perform, given] at ran
  cases form with
  | init =>
    simp only [perform] at ran
    refine endsCongr (initialiseEnds ran) fun f => ⟨fun escapes => ?_, ?_⟩
    · cases escapes with
      | template _ unwritten => exact ⟨_, rfl, unwritten⟩
      | _ => simp_all
    · rintro ⟨fault, rfl, unwritten⟩
      exact .template name unwritten
  | check folder =>
    simp only [perform] at ran
    refine endsCongr (checkEnds ran) fun f => ⟨fun escapes => ?_, .check given⟩
    cases escapes with
    | check values staged =>
      cases given.symm.trans values
      exact staged
    | _ => simp_all
  | actions file line column =>
    simp only [perform, name, String.reduceEq, if_false] at ran
    refine endsCongr (actionsEnds ran) fun f => ⟨fun escapes => ?_, .actions (by simp [name]) given⟩
    cases escapes with
    | actions _ values staged =>
      cases given.symm.trans values
      exact staged
    | _ => simp_all
  | fix file line column =>
    simp only [perform, name, if_true] at ran
    refine endsCongr (fixEnds ran) fun f => ⟨fun escapes => ?_, .fix name given⟩
    cases escapes with
    | fix _ values staged =>
      cases given.symm.trans values
      exact staged
    | _ => simp_all

def Zero (f : FileFault) : Prop := ∃ path, f = ⟨.zeroCharacter, path⟩ ∧ Path.HasZero path

theorem checkPathZero {parameter path : String} {kind : ArgumentKind} {f : FileFault}
    (failed : checkPath files parameter kind path = .error (.path f)) : Zero f := by
  unfold checkPath at failed
  split at failed
  · rename_i found
    cases failed
    exact ⟨path, rfl, Files.findZero found⟩
  all_goals cases failed

theorem convertZero {a : ArgumentSpec} {word : String} {f : FileFault} (failed : convert files a word = .error (.path f)) :
    Zero f := by
  unfold convert at failed
  split at failed
  · split at failed <;> cases failed
  · rcases bindError.mp failed with unchecked | ⟨_, _, never⟩
    · exact checkPathZero unchecked
    · exact absurd never pureError

theorem convertAllZero {arguments : List ArgumentSpec} {words : List String} {f : FileFault}
    (failed : convertAll files arguments words = .error (.path f)) : Zero f := by
  induction arguments generalizing words with
  | nil => cases failed
  | cons a rest ih =>
    have step {word : String} {words : List String} (failed : (convert files a word >>= fun v =>
        convertAll files rest words >>= fun converted => pure (v :: converted.1, converted.2)) = .error (.path f)) : Zero f := by
      rcases bindError.mp failed with here | ⟨_, _, failed⟩
      · exact convertZero here
      · rcases bindError.mp failed with later | ⟨_, _, never⟩
        · exact ih later
        · exact absurd never pureError
    cases words with
    | nil =>
      simp only [convertAll] at failed
      split at failed
      · cases failed
      · exact step failed
    | cons word words => exact step failed

theorem unreadZero {f : FileFault} (unread : Unread files words i f) : Zero f := by
  have failed := unread.unread
  simp only [parseCommand] at failed
  split at failed
  all_goals
    rcases bindError.mp failed with unchecked | ⟨_, _, failed⟩
    · first
      | exact checkPathZero unchecked
      | cases unchecked
    · rcases bindError.mp failed with unconverted | ⟨⟨values, extra⟩, _, failed⟩
      · exact convertAllZero unconverted
      · split at failed <;> cases failed

inductive Uncaught (t : Surroundings) (w : Workspace) (words : List String) : Failure → Prop where
  | word {i : Invocation} {path : String} (unread : Unread w.files words i ⟨.zeroCharacter, path⟩) (zero : Path.HasZero path) :
      Uncaught t w words (.file ⟨.zeroCharacter, path⟩)
  | command {i : Invocation} {f : Failure} (asks : Asks w.files words i) (escapes : Escapes t w i f) : Uncaught t w words f

theorem runEndings (ran : after (run t words) p = (r, q)) : Ends (Uncaught t p.workspace words) r q := by
  have asksEnds {i : Invocation} (asks : Asks p.workspace.files words i) : Ends (Escapes t p.workspace i) r q :=
    performEnds (asksForm asks) ((asksRun asks).symm.trans ran)
  have escaped {f : Failure} (uncaught : Uncaught t p.workspace words f) : r = .error (.failure f) := by
    cases uncaught with
    | word unread =>
      rw [unreadRun unread] at ran
      cases ran
      rfl
    | command asks escapes => exact ((asksEnds asks).failed f).mpr escapes
  -- what escapes determines how the line ends, so that only the ways to end are left to look at
  suffices taken : (∀ f, r = .error (.failure f) → Uncaught t p.workspace words f) ∧
      ∀ status, r = .error (.exit status) → status ≠ 0 → Told q from
    ⟨fun f => ⟨taken.1 f, escaped⟩, taken.2⟩
  cases runTaken t words p with
  | answered text ended =>
    rw [ended] at ran
    cases ran
    refine ⟨fun _ same => (nomatch same), fun status exit unsuccessful => ?_⟩
    cases exit
    exact absurd rfl unsuccessful
  | misused usage path f ended =>
    obtain ⟨before, told⟩ := misuseAfter usage path f p
    rw [ended, told] at ran
    cases ran
    have known : "Error: " ∈ headings := by decide
    refine ⟨fun _ same => (nomatch same), fun _ _ _ => ?_⟩
    refine ⟨before, "Error: ", known, Text.shown (Text.plain f.message), ?_⟩
    simp only [complainedHeading known, String.append_assoc]
  | unread i fault unread =>
    obtain ⟨path, rfl, zero⟩ := unreadZero unread
    rw [unreadRun unread] at ran
    cases ran
    refine ⟨fun f same => ?_, fun _ same => nomatch same⟩
    cases same
    exact .word unread zero
  | asked i asks => exact ⟨fun f failed => .command asks (((asksEnds asks).failed f).mp failed), (asksEnds asks).told⟩

def bare : Workspace := ⟨⟨[(["p"], .folder)], ["p"], []⟩, []⟩

def silence : Surroundings where
  lint := fun _ => .ended 0 [] []
  send := fun _ => .failed "ConnectionError" []
  now := default
  outerKey := []

end CommandLine

end AccessFix
