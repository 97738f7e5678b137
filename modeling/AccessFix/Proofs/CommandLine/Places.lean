import AccessFix.Proofs.CommandLine.Changes
import AccessFix.Proofs.CommandLine.Stages
import AccessFix.Proofs.Findings.Places
import AccessFix.Proofs.Json.Written
import AccessFix.Proofs.Lint

/-! The fixes that are offered for a place of a file: one for each message of the linter about that file and place, in the order
of the messages. -/
namespace AccessFix.CommandLine
open Fallible Findings

structure Placed (t : Surroundings) (w : Workspace) (words : List String) (i : Invocation) (file : String) (line column : Int)
    (config : Config) (listed : List Json) (d : Document) : Prop where
  asks : Asks w.files words i
  values : i.values = [.path file, .number line, .number column]
  configured : Config.load w.files t.outerKey i.globals.configPath i.globals.config.isSome = .ok config
  linted : (Lint.run w.files t.lint config.lintSettings (folderOf w.files i.root)).2 = .ok listed
  results : ∀ result ∈ listed, IsResult result
  distinct : (listed.map pathOf).Nodup
  suffix : Path.suffixOf ((Path.resolve w.files.here file).getLast?.getD "") ∈ [".jsx", ".tsx"]
  read : Document.ofFile w.files file = .ok d

def nearby (path : String) (listed : List Json) (line column : Int) : List Json :=
  (messagesFor path listed).filter fun message => IsNear line column message

def entry (path : String) (message : Json) : Json :=
  .object [("title", .string ("Fix with AI: " ++ (textOf message).text)), ("kind", .string "quickfix"),
    ("preferred", .bool true), ("issues", .array [(reported path message).toJson])]

variable {t : Surroundings} {w : Workspace} {words : List String} {i : Invocation} {file : String} {line column : Int}
  {config : Config} {listed : List Json} {d : Document} {found : IssueMap}

theorem componentOpened (suffix : Path.suffixOf ((Path.resolve w.files.here file).getLast?.getD "") ∈ [".jsx", ".tsx"])
    (read : Document.ofFile w.files file = .ok d) : isComponent d = true := by
  obtain ⟨text, _, read⟩ := bindOk.mp read
  rw [← pureOk.mp read]
  unfold isComponent languageOf
  simp only [List.mem_cons, List.not_mem_nil, or_false] at suffix
  rcases suffix with script | typed
  · simp [script]
  · simp [typed]

theorem offeredNearby (component : isComponent d = true)
    (reports : (found.get? (.string d.path)).getD [] = (messagesFor d.path listed).map (reported d.path)) (id : BufferId) :
    offered found d id line column = (nearby d.path listed line column).map fun message => ⟨reported d.path message, id⟩ := by
  have near : (fun i : Issue => i.range.intersects (placeRange line column)) ∘ reported d.path =
      fun message => decide (IsNear line column message) := funext fun message => reportedNear d.path message line column
  unfold offered fixActions
  rw [if_pos component, reports, List.filter_map, near]
  have own : ∀ issue ∈ (nearby d.path listed line column).map (reported d.path), decide (issue.source = toolName) = true := by
    simp [reported]
  exact (congrArg _ (List.filter_eq_self.mpr own)).trans List.map_map

theorem soughtFound {g : Globals} {root : String}
    (configured : Config.load w.files t.outerKey g.configPath g.config.isSome = .ok config)
    (linted : (Lint.run w.files t.lint config.lintSettings (folderOf w.files root)).2 = .ok listed)
    (mapped : ofResults (.array listed) = .ok found) (read : Document.ofFile w.files file = .ok d) :
    sought t g w.files file root = .ok (config, found, d) := by
  have surveys : survey t w.files config (folderOf w.files root) = .ok found :=
    bindOk.mpr ⟨listed, mapErrorOk.mpr linted, mapErrorOk.mpr mapped⟩
  have inspection : inspected t g w.files root = .ok (config, found) :=
    bindOk.mpr ⟨config, mapErrorOk.mpr configured, bindOk.mpr ⟨found, mapErrorOk.mpr surveys, rfl⟩⟩
  exact bindOk.mpr ⟨_, inspection, bindOk.mpr ⟨d, mapErrorOk.mpr read, rfl⟩⟩

theorem locatedSought {g : Globals} {root : String} (seen : sought t g w.files file root = .ok (config, found, d))
    (line column : Int) : ∃ m, Looked ⟨"", "", w, {}⟩ m ∧ after (located t g file line column root) ⟨"", "", w, {}⟩ =
      (.ok (surveyed config (folderOf w.files root) found, offered found d w.buffers.length line column), withDocument m d) := by
  obtain ⟨r, q, went, ended⟩ := soughtEnds t g file root line column ⟨"", "", w, {}⟩
  cases ended with
  | stopped failed looked =>
    rw [seen] at failed
    cases failed
  | seen ok looked =>
    rw [seen] at ok
    cases ok
    exact ⟨_, looked, went⟩

theorem placedSought (placed : Placed t w words i file line column config listed d) :
    ∃ found, sought t i.globals w.files file i.root = .ok (config, found, d) ∧ ∀ id, offered found d id line column =
      (nearby d.path listed line column).map fun message => ⟨reported d.path message, id⟩ := by
  obtain ⟨found, understood, all⟩ := resultsReported placed.results placed.distinct
  exact ⟨found, soughtFound placed.configured placed.linted understood placed.read,
    offeredNearby (componentOpened placed.suffix placed.read) (all d.path)⟩

theorem fixOffered (asks : Asks w.files words i) (name : i.spec.name = "fix")
    (values : i.values = [.path file, .number line, .number column])
    (seen : sought t i.globals w.files file i.root = .ok (config, found, d)) :
    let ended := start w (run t words)
    (offered found d w.buffers.length line column = [] → ended.stop = some (.exit 1) ∧ ended.progress.trace.sent = []) ∧
    ∀ action rest, offered found d w.buffers.length line column = action :: rest →
      let ran := FixRun.run t.send ⟨config.client, .write true⟩ w.buffers.length action.issue
        { w with buffers := w.buffers ++ [d] }
      ended.progress.workspace = ran.workspace ∧ ended.progress.trace.sent = ran.sent ∧
        (ended.stop = none ↔ Fulfilled ran) := by
  obtain ⟨m, looked, went⟩ := locatedSought seen line column
  have whole : after (run t words) ⟨"", "", w, {}⟩ = after (fix t i.globals file line column i.root) ⟨"", "", w, {}⟩ := by
    rw [asksRun asks, Invocation.perform, values]
    simp only [perform, name, if_true]
    rfl
  constructor
  · intro nothing
    have inner := bindOn (f := fun found => repair t i.globals file line column found.1 found.2) went
    simp only [nothing] at inner
    rw [fixLocated] at whole
    rw [startAfter w _ (whole.trans (guardedExit inner))]
    exact ⟨rfl, looked.sent⟩
  · intro action rest first ran
    have here : action.document = w.buffers.length := by
      unfold offered at first
      split at first
      · exact fixActionsDocument (first ▸ List.mem_cons_self)
      · cases first
    rw [first] at went
    obtain ⟨m', unsent, repaired⟩ := fixSought looked went here
    rw [startAfter w _ (whole.trans repaired)]
    obtain ⟨workspace, trace⟩ := toldWorkspace ran.notices
      { m' with workspace := ran.workspace, trace := m'.trace.append ⟨[], ran.sent, ran.closed⟩ }
    refine ⟨workspace, ?_, ?_⟩
    · refine (congrArg Trace.sent trace).trans ?_
      simp [Trace.append, unsent]
    · have short : w.buffers.length < (w.buffers ++ [d]).length := by simp
      have writes : (⟨config.client, .write true⟩ : Fixer).applier = .write true := rfl
      have ended := repairTold t.send writes (w := { w with buffers := w.buffers ++ [d] }) ⟨w.buffers.length, short⟩
        action.issue
      refine Iff.trans ?_ ended
      change stopOf (repairEnd ran) = none ↔ repairEnd ran = .ok ()
      cases repairEnd ran <;> simp [stopOf]

/-! The two commands for a place. -/

theorem entryWritable {path : String} {message : Json} :
    (entry path message).isWritable = (reported path message).toJson.isWritable := by
  simp [entry, Json.isWritable, Json.numbersAre, Json.membersAre, Json.itemsAre]

theorem entriesWritable (path : String) (line column : Int) (writable : ∀ result ∈ listed, result.isWritable = true) :
    (Json.array ((nearby path listed line column).map (entry path))).isWritable = true := by
  refine Json.arrayWritable.mpr fun v mem => ?_
  obtain ⟨message, there, rfl⟩ := List.mem_map.mp mem
  obtain ⟨sent, close⟩ := List.mem_filter.mp there
  obtain ⟨first, second⟩ := nearCounts (of_decide_eq_true close)
  exact entryWritable.trans (reportedWritable path (messagesWritable writable message sent) first second)

theorem actionsAsked (asks : Asks w.files words i) (name : i.spec.name = "actions")
    (values : i.values = [.path file, .number line, .number column]) :
    after (run t words) ⟨"", "", w, {}⟩ = after (actions t i.globals file line column i.root) ⟨"", "", w, {}⟩ := by
  have whole : after (run t words) ⟨"", "", w, {}⟩ = after (i.perform t) ⟨"", "", w, {}⟩ := asksRun asks
  rw [whole, Invocation.perform, values]
  simp only [perform, name, String.reduceEq, if_false]
  rfl

theorem actionsPut (asks : Asks w.files words i) (name : i.spec.name = "actions")
    (values : i.values = [.path file, .number line, .number column])
    (seen : sought t i.globals w.files file i.root = .ok (config, found, d)) :
    PutsOut (run t words) w i.globals (.array ((offered found d w.buffers.length line column).map FixAction.toJson)) := by
  obtain ⟨m, looked, went⟩ := locatedSought seen line column
  have same : m.workspace.files = w.files := congrArg Workspace.files looked.workspace
  refine ⟨withDocument m d, looked.out, same, ?_⟩
  rw [actionsAsked asks name values, actionsLocated, guardedOn went]

def Lists (t : Surroundings) (w : Workspace) (i : Invocation) (file : String) (line column : Int)
    (offers : List FixAction) : Prop :=
  ∃ e m, after (located t i.globals file line column i.root) ⟨"", "", w, {}⟩ = (.ok (e, offers), m)

theorem placedLists (placed : Placed t w words i file line column config listed d) : ∃ offers,
    Lists t w i file line column offers ∧
      offers.map FixAction.toJson = (nearby d.path listed line column).map (entry d.path) := by
  obtain ⟨found, seen, offers⟩ := placedSought placed
  obtain ⟨m, looked, went⟩ := locatedSought seen line column
  refine ⟨_, ⟨_, _, went⟩, ?_⟩
  rw [offers, List.map_map]
  rfl

theorem placedPuts (placed : Placed t w words i file line column config listed d) (name : i.spec.name = "actions") :
    PutsOut (run t words) w i.globals (.array ((nearby d.path listed line column).map (entry d.path))) := by
  obtain ⟨found, seen, offers⟩ := placedSought placed
  have puts := actionsPut placed.asks name placed.values seen
  rwa [offers, List.map_map] at puts

theorem nearUnbroken (t : Surroundings) (w : Workspace) (d : Document) (client : Client) {message : Json}
    (near : IsNear line column message) (p : PositionFault) :
    (FixRun.run t.send ⟨client, .write true⟩ w.buffers.length (reported d.path message)
      { w with buffers := w.buffers ++ [d] }).result ≠ .error (.position p) := by
  have short : w.buffers.length < (w.buffers ++ [d]).length := by simp
  have last : (w.buffers ++ [d])[w.buffers.length] = d := by simp
  have ends := FixRun.runEnds t.send (f := ⟨client, .write true⟩) (w := { w with buffers := w.buffers ++ [d] }) rfl
    ⟨w.buffers.length, short⟩ (reported d.path message)
  intro returned
  cases ends with
  | settled settled =>
    rw [settled.returned] at returned
    cases returned
  | broken fault broke silent elsewhere =>
    rw [broke] at returned
    cases returned
    refine elsewhere ⟨_, _, _, _, rfl⟩ ?_ p rfl
    simpa [last] using nearRead d near

theorem fixPlaced (placed : Placed t w words i file line column config listed d) (name : i.spec.name = "fix") :
    let ended := start w (run t words)
    (nearby d.path listed line column = [] → ended.stop = some (.exit 1) ∧ ended.progress.trace.sent = []) ∧
    ∀ message rest, nearby d.path listed line column = message :: rest →
      let ran := FixRun.run t.send ⟨config.client, .write true⟩ w.buffers.length (reported d.path message)
        { w with buffers := w.buffers ++ [d] }
      ended.progress.workspace = ran.workspace ∧ ended.progress.trace.sent = ran.sent ∧ (ended.stop = none ↔ Fulfilled ran) := by
  obtain ⟨found, seen, offers⟩ := placedSought placed
  obtain ⟨nothing, first⟩ := fixOffered placed.asks name placed.values seen
  rw [offers] at nothing first
  refine ⟨fun none => nothing (by rw [none]; rfl), fun message rest here => ?_⟩
  exact first ⟨reported d.path message, w.buffers.length⟩ _ (by rw [here, List.map_cons])

/-- A command for a place knows one fix for each message near it, in the order of the messages: all of them are listed, or the
first is made. No such message has a negative coordinate, so that none of these fixes breaks off at its place. -/
theorem placesOffered (placed : Placed t w words i file line column config listed d) :
    let path := documentPath w.files.here file
    let near := nearby path listed line column
    let ended := start w (run t words)
    let attempt (message : Json) := FixRun.run t.send ⟨config.client, .write true⟩ w.buffers.length (reported path message)
      { w with buffers := w.buffers ++ [d] }
    (i.spec.name = "actions" →
      let data : Json := .array (near.map (entry path))
      (∃ offers, Lists t w i file line column offers ∧ offers.map FixAction.toJson = near.map (entry path)) ∧
        PutsOut (run t words) w i.globals data ∧ Said i.globals w.files data ended) ∧
    (i.spec.name = "fix" →
      (near = [] → ended.stop = some (.exit 1) ∧ ended.progress.trace.sent = []) ∧
      ∀ message rest, near = message :: rest →
        ended.progress.workspace = (attempt message).workspace ∧ ended.progress.trace.sent = (attempt message).sent ∧
          (ended.stop = none ↔ Fulfilled (attempt message))) ∧
    ∀ message ∈ near, (0 ≤ lineOf message - 1 ∧ 0 ≤ columnOf message - 1) ∧
      ∀ fault, (attempt message).result ≠ .error (.position fault) := by
  simp only [← ofFilePath placed.read]
  refine ⟨fun name => ⟨placedLists placed, placedPuts placed name, ?_⟩, fixPlaced placed, fun message mem => ?_⟩
  · exact startPut (placedPuts placed name)
      (entriesWritable d.path line column (Lint.runWritable placed.linted))
  · have near : IsNear line column message := of_decide_eq_true (List.mem_filter.mp mem).2
    obtain ⟨first, second⟩ := nearCounts near
    exact ⟨⟨by omega, by omega⟩, nearUnbroken t w d config.client near⟩

def pageInvocation : Invocation :=
  ⟨⟨[], ["actions", "A.jsx", "1", "2"]⟩, commands[0], ["A.jsx", "1", "2"], ⟨[], ["A.jsx", "1", "2"]⟩,
    [.path "A.jsx", .number 1, .number 2]⟩

theorem outputRead {path : String} {messages : List Json} (legible : ∀ message ∈ messages, Json.Legible 977 message) :
    let listed : List Json := [.object [("filePath", .string path), ("messages", .array messages)]]
    Json.read (listOutput listed) = .ok (.array listed) := by
  have result : Json.Legible (978 + 1) (.object [("filePath", .string path), ("messages", .array messages)]) := by
    refine .object (show ([("filePath" : Letters), "messages"]).Nodup by decide) (by simp [Text.encodableText]) ?_
    simp only [List.forall_mem_cons, List.not_mem_nil, false_implies, implies_true, and_true]
    exact ⟨.string (Text.encodableText _), .array legible⟩
  exact Json.printRead (.array (List.forall_mem_singleton.mpr result)) _

theorem pageRead : Json.read (listOutput pageListed) = .ok (.array pageListed) := by
  have message : Json.Legible (976 + 1) pageMessage := .object (List.nodup_singleton _)
    (List.forall_mem_singleton.mpr (Text.encodableText _))
    (List.forall_mem_singleton.mpr (.string (Text.encodableText _)))
  exact outputRead (List.forall_mem_singleton.mpr message)

theorem pageProper : ∀ result ∈ pageListed, IsResult result := by
  have message : IsMessage pageMessage := ⟨rfl, .inl rfl, .inl rfl⟩
  intro result mem
  obtain rfl := List.mem_singleton.mp mem
  exact ⟨rfl, ⟨"/p/A.jsx", rfl⟩, .inr rfl, fun sent mem => by rwa [List.mem_singleton.mp mem]⟩

theorem pagePlaced : Placed pageSurroundings page ["actions", "A.jsx", "1", "2"] pageInvocation "A.jsx" 1 2 {} pageListed
    ⟨"/p/A.jsx", "x", "javascriptreact", "file"⟩ where
  asks :=
    { group := by decide +kernel
      unanswered := by decide
      command := ⟨"actions", by decide, by decide⟩
      words := by decide +kernel
      noHelp := by decide
      values := by decide +kernel }
  values := rfl
  configured := by decide +kernel
  linted := by
    have folder : page.files.find? (Path.normal "/p") = .ok (some .folder) := by decide +kernel
    have calm : Lint.Lists (.ended 1 (listOutput pageListed) []) pageListed := .array (.inr rfl) pageRead
    exact (Lint.runResults folder _ _).trans ((Lint.resultsOk (by simp [Lint.Signalled, pageSurroundings])).mpr calm)
  results := pageProper
  distinct := by decide +kernel
  suffix := by decide +kernel
  read := by decide +kernel

theorem pageOffered : nearby "/p/A.jsx" pageListed 1 2 = [pageMessage] ∧
    (start page (run pageSurroundings ["actions", "A.jsx", "1", "2"])).progress.out =
      said (dataText pageInvocation.globals (.array [entry "/p/A.jsx" pageMessage])) := by
  obtain ⟨-, -, emitted⟩ := (placesOffered pagePlaced).1 rfl
  have near : nearby "/p/A.jsx" pageListed 1 2 = [pageMessage] := rfl
  exact ⟨near, (emitted.printed rfl (by decide +kernel)).2.1⟩

end AccessFix.CommandLine
