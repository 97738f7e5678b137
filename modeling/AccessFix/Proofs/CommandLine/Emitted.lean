import AccessFix.Proofs.CommandLine.Endings
import AccessFix.Proofs.CommandLine.Places
import AccessFix.Proofs.Json.Written
import AccessFix.Proofs.Report

/-! What the commands put out about issues at places of integers, with texts for all else. It is read back as the value that it
is the text of, compact or indented, and it is the same text that is printed, with a line feed behind it, or stored. An integer of
too many digits has no text, and a text with a surrogate no encoding; then nothing is put out. -/
namespace AccessFix
open Fallible Findings

namespace Json

def Bare (s : Letters) : Prop := ∀ c ∈ s, c ≠ '"' ∧ c ≠ '\\' ∧ 32 ≤ c.code

/-- The text is read as the value, and the texts in the value stand in it as they are, but for what their quotes would end. -/
structure TextOf (v : Json) (text : Letters) : Prop where
  read : Json.read text = .ok v
  bare : ∀ s, Within (.string s) v → Bare s → Letter.char '"' :: s ++ [.char '"'] <:+: text

variable {v : Json} {l : Layout} {room : Nat}

theorem printTextOf (legible : Legible nestingLimit v) (script : l.ascii = false) : TextOf v (print l v) where
  read := printRead legible l
  bare := by
    intro s within bare
    obtain ⟨inner, found⟩ := withinWritten within l 0
    rw [write, script, quoteBare bare] at found
    exact found

theorem printPlain (legible : Legible nestingLimit v) (l : Layout) : Text.plain (print l v) = print l v := by
  have noEscape : ∀ c ∈ print l v, c.code ≠ 27 := by
    intro c mem
    rcases writtenAdmits legible l 0 c mem with ⟨rfl, -⟩ | shown
    · decide
    · have visible := shown.visible
      omega
  have plain := Text.plainBare noEscape []
  rwa [List.append_nil, show Text.plain [] = [] from rfl, List.append_nil] at plain

theorem intLegible {n : Int} (writable : (ofInt n).isWritable = true) : Legible room (.ofInt n) :=
  .number (intRead.mpr (by simpa only [ofInt, isWritable, numbersAre, hasText] using writable))

end Json

structure Issue.Textual (i : Issue) : Prop where
  file : ∃ path, Text.Encodable path ∧ i.file = .string path
  range : FixRun.Whole i.range
  message : ∃ text, Text.Encodable text ∧ i.message = .string text
  code : ∃ name, Text.Encodable name ∧ i.code = .string name

namespace Report

variable {i : Issue} {issues : List Issue} {found : IssueMap} {names : List Letters} {r : Report} {room : Nat}

theorem issueLegible (textual : i.Textual) (writable : i.toJson.isWritable = true) (room : Nat) :
    Json.Legible (room + 1) i.toJson := by
  obtain ⟨⟨path, pathPlain, file⟩, ⟨line, column, line', column', range⟩, ⟨text, textPlain, message⟩,
    ⟨name, namePlain, code⟩⟩ := textual
  obtain ⟨-, first, second, third, -, -⟩ := issueWritable.mp writable
  simp only [Issue.line, Issue.column, Issue.endColumn, range, Position.ofInts, Json.hasText] at first second third
  rw [Issue.toJson, file, message, code, Issue.line, Issue.column, Issue.endColumn, range]
  refine .object (show ([("file" : Letters), "line", "column", "end_column", "severity", "source", "code", "message"]).Nodup by
    decide +kernel) (by simp [Text.encodableText]) ?_
  simp only [List.forall_mem_cons, List.not_mem_nil, false_implies, implies_true, and_true]
  exact ⟨.string pathPlain, .number (Json.intRead.mpr first), .number (Json.intRead.mpr second),
    .number (Json.intRead.mpr third), .string (Text.encodableText _), .string (Text.encodableText _), .string namePlain,
    .string textPlain⟩

theorem textualNamed (textual : ∀ i ∈ issues, i.Textual) : Named issues := by
  intro i mem
  obtain ⟨name, _, code⟩ := (textual i mem).code
  rw [code]
  rfl

theorem namesPlain (textual : ∀ i ∈ issues, i.Textual) : ∀ name ∈ namesOf issues, Text.Encodable name := by
  intro name mem
  obtain ⟨i, there, rfl⟩ := List.mem_map.mp mem
  obtain ⟨name, plain, code⟩ := (textual i there).code
  rw [code]
  exact plain

theorem rulesLegible (plain : ∀ name ∈ names, Text.Encodable name) (room : Nat)
    (writable : ∀ rule ∈ rulesOf names, (ofCount rule.2).isWritable = true) :
    Json.Legible (room + 1) (.object ((rulesOf names).map fun rule => (codeName rule.1, ofCount rule.2))) := by
  refine .object ?_ ?_ fun m mem => ?_
  · have same : ((rulesOf names).map fun rule => (codeName rule.1, ofCount rule.2)).map Prod.fst = ruleNames names := by
      simp [rulesOf, List.map_map, Function.comp_def, codeName]
    rw [same]
    exact ruleNodup
  · simp only [rulesOf, List.map_map, List.forall_mem_map]
    exact fun name there => plain name (ruleMem.mp there)
  · obtain ⟨rule, there, rfl⟩ := List.mem_map.mp mem
    exact Json.intLegible (writable rule there)

theorem reportLegible (workspace : Text.Encodable r.workspace) (rules : r.rules = rulesOf (namesOf r.issues))
    (textual : ∀ i ∈ r.issues, i.Textual) (writable : r.toJson.isWritable = true) (room : Nat) :
    Json.Legible (room + 3) r.toJson := by
  simp only [toJson, toJsonWith, Json.objectWritable, Json.arrayWritable, List.forall_mem_cons, List.forall_mem_map] at writable
  obtain ⟨-, -, -, ⟨total, files, ⟨errors, warnings, -⟩, byRule, -⟩, each, -⟩ := writable
  have severities : Json.Legible (room + 1) (.object [("error", ofCount r.errors), ("warning", ofCount r.warnings)]) := by
    refine .object (show ([("error" : Letters), "warning"]).Nodup by decide) (by simp [Text.encodableText]) ?_
    simp only [List.forall_mem_cons, List.not_mem_nil, false_implies, implies_true, and_true]
    exact ⟨Json.intLegible errors, Json.intLegible warnings⟩
  have summary : Json.Legible (room + 2) (.object [("total", ofCount r.total), ("files", ofCount r.files),
      ("by_severity", .object [("error", ofCount r.errors), ("warning", ofCount r.warnings)]),
      ("by_rule", .object (r.rules.map fun rule => (codeName rule.1, ofCount rule.2)))]) := by
    refine .object (show ([("total" : Letters), "files", "by_severity", "by_rule"]).Nodup by decide)
      (by simp [Text.encodableText]) ?_
    simp only [List.forall_mem_cons, List.not_mem_nil, false_implies, implies_true, and_true]
    refine ⟨Json.intLegible total, Json.intLegible files, severities, ?_⟩
    rw [rules] at byRule ⊢
    exact rulesLegible (namesPlain textual) room byRule
  refine .object (show ([("report_type" : Letters), "workspace", "generated_at", "summary", "issues"]).Nodup by decide +kernel)
    (by simp [Text.encodableText]) ?_
  simp only [List.forall_mem_cons, List.not_mem_nil, false_implies, implies_true, and_true]
  refine ⟨.string (Text.encodableText _), .string workspace, .string (Text.encodableText _), summary, .array ?_⟩
  simp only [List.forall_mem_map]
  exact fun i mem => issueLegible (textual i mem) (each i mem) room

theorem buildLegible (textual : ∀ i ∈ found.issues, i.Textual) (workspace : String) (now : DateTime) :
    ∃ report, build workspace now found = .ok report ∧
      (report.toJson.isWritable = true → Json.Legible Json.nestingLimit report.toJson) :=
  ⟨_, buildNamed (textualNamed textual), fun writable => reportLegible (Text.encodableText _) rfl textual writable 977⟩

structure Sayable (result : Json) : Prop where
  file : Text.Encodable (fileOf result)
  messages : ∀ message ∈ sentBy result, (∃ text, Text.Encodable text ∧ textOf message = .string text) ∧
    ∃ name, Text.Encodable name ∧ codeOf message = .string name

theorem entriesTextual {listed : List Json} (given : ∀ result ∈ listed, Sayable result) :
    ∀ i ∈ (entriesOf listed).issues, i.Textual := by
  intro i mem
  obtain ⟨result, there, message, sent, rfl⟩ := entriesReported mem
  obtain ⟨file, messages⟩ := given result there
  obtain ⟨text, name⟩ := messages message sent
  exact ⟨⟨_, file, rfl⟩, ⟨_, _, _, _, rfl⟩, text, name⟩

end Report

namespace CommandLine

variable {t : Surroundings} {w : Workspace} {words : List String} {i : Invocation} {g : Globals} {data : Json}
  {found : IssueMap} {d : Document}

inductive Shows (t : Surroundings) (w : Workspace) (i : Invocation) : IssueMap → Json → Prop where
  | report {folder : String} {config : Config} {found : IssueMap} {report : Report} (values : i.values = [.path folder])
      (seen : inspected t i.globals w.files folder = .ok (config, found))
      (built : Report.build (folderOf w.files folder) t.now found = .ok report) : Shows t w i found report.toJson
  | fixes {file : String} {line column : Int} {config : Config} {found : IssueMap} {d : Document}
      (name : i.spec.name = "actions") (values : i.values = [.path file, .number line, .number column])
      (seen : sought t i.globals w.files file i.root = .ok (config, found, d)) :
      Shows t w i found (listing w line column (config, found, d))

theorem offeredFound {id : BufferId} {line column : Int} {a : FixAction} (mem : a ∈ offered found d id line column) :
    a.issue ∈ found.issues := by
  unfold offered at mem
  split at mem
  · obtain ⟨issue, own, rfl⟩ := List.mem_map.mp mem
    have stored := List.mem_of_mem_filter (List.mem_of_mem_filter own)
    cases there : List.find? (fun entry => entry.1.sameKey (.string d.path)) found with
    | none => simp [IssueMap.get?, there] at stored
    | some entry =>
      simp only [IssueMap.get?, there, Option.map_some, Option.getD_some] at stored
      exact List.mem_flatMap.mpr ⟨entry, List.mem_of_find?_eq_some there, stored⟩
  · cases mem

theorem actionLegible {a : FixAction} (textual : a.issue.Textual) (writable : (FixAction.toJson a).isWritable = true)
    (room : Nat) : Json.Legible (room + 3) (FixAction.toJson a) := by
  simp only [FixAction.toJson, Json.objectWritable, Json.arrayWritable, List.forall_mem_cons] at writable
  obtain ⟨-, -, -, ⟨issue, -⟩, -⟩ := writable
  have issues : Json.Legible (room + 2) (.array [a.issue.toJson]) :=
    .array (List.forall_mem_singleton.mpr (Report.issueLegible textual issue room))
  have title : Text.Encodable a.title := by
    obtain ⟨text, plain, message⟩ := textual.message
    rw [FixAction.title, message]
    exact Text.encodableAppend.mpr ⟨Text.encodableAppend.mpr ⟨Text.encodableText _, Text.encodableText _⟩, plain⟩
  refine .object (show ([("title" : Letters), "kind", "preferred", "issues"]).Nodup by decide)
    (by simp [Text.encodableText]) ?_
  simp only [List.forall_mem_cons, List.not_mem_nil, false_implies, implies_true, and_true]
  exact ⟨.string title, .string (Text.encodableText _), .bool _, issues⟩

theorem listingLegible {config : Config} {line column : Int} (textual : ∀ issue ∈ found.issues, issue.Textual)
    (writable : (listing w line column (config, found, d)).isWritable = true) :
    Json.Legible Json.nestingLimit (listing w line column (config, found, d)) := by
  refine show Json.Legible (979 + 1) _ from .array fun v mem => ?_
  have each := Json.arrayWritable.mp writable v mem
  obtain ⟨a, there, rfl⟩ := List.mem_map.mp mem
  exact actionLegible (textual a.issue (offeredFound there)) each 976

theorem showsLegible (shows : Shows t w i found data) (textual : ∀ issue ∈ found.issues, issue.Textual)
    (writable : data.isWritable = true) : Json.Legible Json.nestingLimit data := by
  cases shows with
  | report _ _ built =>
    obtain ⟨report, same, legible⟩ := Report.buildLegible textual _ _
    cases built.symm.trans same
    exact legible writable
  | fixes => exact listingLegible textual writable

theorem checkPut {folder : String} {config : Config} {report : Report}
    (seen : inspected t g w.files folder = .ok (config, found))
    (built : Report.build (folderOf w.files folder) t.now found = .ok report) :
    PutsOut (check t g folder) w g report.toJson := by
  have made : reportFor t g w.files folder = .ok report := bindOk.mpr ⟨_, seen, mapErrorOk.mpr built⟩
  obtain ⟨m, looked, went⟩ := reportingAfter t g folder ⟨"", "", w, {}⟩
  simp only [made] at went
  refine ⟨m, looked.out, congrArg Workspace.files looked.workspace, ?_⟩
  rw [checkReporting, guardedOn went]

theorem showsPut (asks : Asks w.files words i) (shows : Shows t w i found data) : PutsOut (run t words) w i.globals data := by
  cases shows with
  | report values seen built =>
    obtain ⟨m, out, same, put⟩ := checkPut seen built
    have whole : after (run t words) ⟨"", "", w, {}⟩ = after (i.perform t) ⟨"", "", w, {}⟩ := asksRun asks
    rw [PutsOut, whole, Invocation.perform, values]
    exact ⟨m, out, same, put⟩
  | fixes name values seen => exact actionsPut asks name values seen

/-- A command line has put out a value with success: its text and a line feed are printed, or its text alone is what a file holds. -/
structure Emitted (g : Globals) (before : Files) (data : Json) (ended : Ended) : Prop where
  printed : g.output.filter (· ≠ "") = none →
    ended.stop = none ∧ letters ended.progress.out = dataText g data ++ "\n" ∧ ended.progress.workspace.files = before
  filed : ∀ output after, g.output.filter (· ≠ "") = some output → before.writeText output (dataText g data) = (.ok (), after) →
    ended.stop = none ∧ ended.progress.out = "" ∧ ended.progress.workspace.files = after ∧
      ∃ octets, Text.Codec.utf8.encode (dataText g data) = .ok octets ∧ after.read output = .ok octets

theorem showsEmitted (asks : Asks w.files words i) (shows : Shows t w i found data)
    (textual : ∀ issue ∈ found.issues, issue.Textual) (writable : data.isWritable = true) :
    Emitted i.globals w.files data (start w (run t words)) := by
  have legible := showsLegible shows textual writable
  obtain ⟨printed, filed⟩ := startPut (showsPut asks shows) writable
  have plain : Text.Encodable (dataText i.globals data) := Json.printEncodable legible _
  refine ⟨fun none => ?_, fun output files given wrote => ?_⟩
  · obtain ⟨stopped, out, same⟩ := printed none plain
    have shown : letters (said (dataText i.globals data)) = dataText i.globals data ++ "\n" := by
      rw [said, lettersOf, dataText, Json.printPlain legible]
      exact Text.encodableChars (Text.encodableAppend.mpr ⟨plain, Text.encodableText _⟩)
    exact ⟨stopped, by rw [out, shown], same⟩
  · obtain ⟨stopped, silent, stored⟩ := filed output files given wrote
    obtain ⟨octets, coded, wrote⟩ := Files.writeTextOk.mp wrote
    exact ⟨stopped, silent, stored, octets, coded, Files.readWritten wrote⟩

/-- The report on textual issues, and the list of fixes for them, are read back from the text of either layout, in which texts stand
in their own script; and the commands put out this text, the same whether it is printed or stored. An integer that has no
text keeps a command from putting out anything, and so does a text that has no encoding. -/
theorem valuesEmitted :
    (∀ (found : IssueMap) (workspace : String) (now : DateTime), (∀ issue ∈ found.issues, issue.Textual) →
      ∃ report, Report.build workspace now found = .ok report ∧ (report.toJson.isWritable = true →
        ∀ pretty, Json.TextOf report.toJson (Json.print ⟨false, pretty⟩ report.toJson))) ∧
    ∀ (t : Surroundings) (w : Workspace) (words : List String) (i : Invocation) (found : IssueMap) (data : Json),
      Asks w.files words i → Shows t w i found data →
      ((∀ issue ∈ found.issues, issue.Textual) → data.isWritable = true →
        Emitted i.globals w.files data (start w (run t words)) ∧
          ∀ pretty, Json.TextOf data (Json.print ⟨false, pretty⟩ data)) ∧
      (data.isWritable = false → Withheld w.files (start w (run t words))) ∧
      (data.isWritable = true → ∀ s, Json.Within (.string s) data → ¬Text.Encodable s →
        Unsaid i.globals w.files (start w (run t words))) := by
  constructor
  · intro found workspace now textual
    obtain ⟨report, built, legible⟩ := Report.buildLegible textual workspace now
    exact ⟨report, built, fun writable pretty => Json.printTextOf (legible writable) rfl⟩
  · intro t w words i found data asks shows
    have puts := showsPut asks shows
    refine ⟨fun textual writable => ⟨showsEmitted asks shows textual writable, fun pretty => ?_⟩, startUnput puts, ?_⟩
    · exact Json.printTextOf (showsLegible shows textual writable) rfl
    · exact fun writable s within uncoded => startUnsaid puts writable (Json.unknownWritten within uncoded _ rfl)

theorem pageShows : Shows pageSurroundings page pageInvocation (entriesOf pageListed) (.array [entry "/p/A.jsx" pageMessage]) := by
  have mapped := resultsEntries fun result mem => resultEntry (pageProper result mem)
  exact .fixes rfl rfl (soughtFound pagePlaced.configured pagePlaced.linted mapped pagePlaced.read)

theorem pageTextual : ∀ issue ∈ (entriesOf pageListed).issues, issue.Textual := by
  refine Report.entriesTextual fun result mem => ?_
  obtain rfl := List.mem_singleton.mp mem
  refine ⟨Text.encodableText "/p/A.jsx", fun message sent => ?_⟩
  obtain rfl := List.mem_singleton.mp sent
  exact ⟨⟨"m", Text.encodableText _, rfl⟩, fallbackCode, Text.encodableText _, rfl⟩

theorem pageWritable : (Json.array [entry "/p/A.jsx" pageMessage]).isWritable = true := by
  have near : nearby "/p/A.jsx" pageListed 1 2 = [pageMessage] := rfl
  have writable := entriesWritable "/p/A.jsx" 1 2 (Lint.runWritable pagePlaced.linted)
  rwa [near] at writable

theorem pageEmitted : let data : Json := .array [entry "/p/A.jsx" pageMessage]
    Asks page.files ["actions", "A.jsx", "1", "2"] pageInvocation ∧
      Shows pageSurroundings page pageInvocation (entriesOf pageListed) data ∧
      data.isWritable = true ∧ Json.read (Json.print ⟨false, true⟩ data) = .ok data ∧
      letters (start page (run pageSurroundings ["actions", "A.jsx", "1", "2"])).progress.out =
        Json.print ⟨false, false⟩ data ++ "\n" := by
  obtain ⟨emitted, texts⟩ := (valuesEmitted.2 _ _ _ _ _ _ pagePlaced.asks pageShows).1 pageTextual pageWritable
  exact ⟨pagePlaced.asks, pageShows, pageWritable, (texts true).read, (emitted.printed rfl).2.1⟩

/-! A line that can be read and not be written: it has as many digits as an integer may have, and is one less as it is counted
from zero. -/

def far : Int := 1 - 10 ^ Text.digitLimit

def farMessage : Json := .object [("message", .string "m"), ("line", .ofInt far)]

def farListed : List Json := [.object [("filePath", .string "/p/A.jsx"), ("messages", .array [farMessage])]]

def farOutcome : LintOutcome := .ended 1 (listOutput farListed) []

def farSurroundings : Surroundings where
  lint := fun _ => farOutcome
  send := fun _ => .failed "ConnectionError" []
  now := default
  outerKey := []

def farInvocation : Invocation := ⟨⟨[], ["check"]⟩, commands[1], [], ⟨[], []⟩, [.path "."]⟩

theorem farWritable : (Json.ofInt far).isWritable = true := by
  have bound : far.natAbs < 10 ^ Text.digitLimit := by
    unfold far
    generalize Text.digitLimit = limit
    have some : 0 < 10 ^ limit := Nat.pow_pos (by decide)
    have same : ((10 : Int) ^ limit) = ((10 ^ limit : Nat) : Int) := by norm_cast
    omega
  simpa only [Json.ofInt, Json.isWritable, Json.numbersAre, Json.hasText] using Text.writableBelow.mpr bound

theorem farLine : lineOf farMessage - 1 = -10 ^ Text.digitLimit := by
  have given : Json.member (membersOf farMessage) "line" = .ofInt far := rfl
  have nonzero : far ≠ 0 := by
    have some : Text.digitLimit ≠ 0 := by decide
    unfold far
    generalize Text.digitLimit = limit at some
    have more : (10 : Int) ≤ 10 ^ limit := le_self_pow₀ (by decide) some
    omega
  rw [lineOf, given, Json.ofInt, counted, if_neg nonzero, far]
  ring

theorem farRead : Json.read (listOutput farListed) = .ok (.array farListed) := by
  refine outputRead (List.forall_mem_singleton.mpr (show Json.Legible (976 + 1) farMessage from .object (by decide) ?_ ?_))
  · simp [Text.encodableText]
  · simp only [List.forall_mem_cons, List.not_mem_nil, false_implies, implies_true, and_true]
    exact ⟨.string (Text.encodableText _), Json.intLegible farWritable⟩

theorem farProper : ∀ result ∈ farListed, IsEntry result := by
  have message : IsMessage farMessage := ⟨rfl, .inr ⟨far, rfl⟩, .inl rfl⟩
  intro result mem
  obtain rfl := List.mem_singleton.mp mem
  exact resultEntry ⟨rfl, ⟨"/p/A.jsx", rfl⟩, .inr rfl, fun sent mem => by rwa [List.mem_singleton.mp mem]⟩

theorem farInspected :
    inspected farSurroundings farInvocation.globals page.files "." = .ok ({}, entriesOf farListed) := by
  have configured : Config.load page.files [] "a11y-config.yaml" false = .ok {} := by decide +kernel
  have folder : page.files.find? (Path.normal (folderOf page.files ".")) = .ok (some .folder) := by decide +kernel
  have ended : ¬Lint.Signalled farOutcome := by simp [Lint.Signalled, farOutcome]
  have calm : Lint.results ({} : Config).lintSettings farOutcome = .ok farListed :=
    (Lint.resultsOk ended).mpr (.array (.inr rfl) farRead)
  have linted := (Lint.runResults folder farSurroundings.lint ({} : Config).lintSettings).trans calm
  have surveys : survey farSurroundings page.files {} (folderOf page.files ".") = .ok (entriesOf farListed) :=
    bindOk.mpr ⟨farListed, mapErrorOk.mpr linted, mapErrorOk.mpr (resultsEntries farProper)⟩
  exact bindOk.mpr ⟨{}, mapErrorOk.mpr configured, bindOk.mpr ⟨_, mapErrorOk.mpr surveys, rfl⟩⟩

theorem farTextual : ∀ issue ∈ (entriesOf farListed).issues, issue.Textual := by
  refine Report.entriesTextual fun result mem => ?_
  obtain rfl := List.mem_singleton.mp mem
  refine ⟨Text.encodableText "/p/A.jsx", fun message sent => ?_⟩
  obtain rfl := List.mem_singleton.mp sent
  exact ⟨⟨"m", Text.encodableText _, rfl⟩, fallbackCode, Text.encodableText _, rfl⟩

theorem farUnwritable : (reported "/p/A.jsx" farMessage).toJson.isWritable = false := by
  refine Bool.eq_false_iff.mpr fun writable => ?_
  have line : Json.hasText (.int (lineOf farMessage - 1)) = true := (issueWritable.mp writable).2.1
  rw [farLine, Json.hasText, Text.writableBelow] at line
  generalize Text.digitLimit = limit at line
  simp [Int.natAbs_pow] at line

theorem farAsked : Asks page.files ["check"] farInvocation where
  group := by decide +kernel
  unanswered := by decide
  command := ⟨"check", by decide, by decide⟩
  words := by decide +kernel
  noHelp := by decide
  values := by decide +kernel

theorem farWithheld : let ended := start page (run farSurroundings ["check"])
    Asks page.files ["check"] farInvocation ∧
      inspected farSurroundings farInvocation.globals page.files "." = .ok ({}, entriesOf farListed) ∧
      (∀ issue ∈ (entriesOf farListed).issues, issue.Textual) ∧ Withheld page.files ended ∧
      ∀ v, Json.read (letters ended.progress.out) ≠ .ok v := by
  obtain ⟨report, built, -⟩ := Report.buildLegible farTextual (folderOf page.files ".") farSurroundings.now
  have issues : report.issues = [reported "/p/A.jsx" farMessage] := by
    have same := built.symm.trans (Report.buildNamed (Report.textualNamed farTextual))
    rw [Except.ok.inj same]
    rfl
  have unwritable : report.toJson.isWritable = false := by
    refine Bool.eq_false_iff.mpr fun writable => ?_
    simp only [Report.toJson, Report.toJsonWith, Json.objectWritable, Json.arrayWritable, List.forall_mem_cons,
      List.forall_mem_map, issues] at writable
    obtain ⟨-, -, -, -, ⟨here, -⟩, -⟩ := writable
    rw [farUnwritable] at here
    cases here
  have withheld := startUnput (showsPut farAsked (.report rfl farInspected built)) unwritable
  refine ⟨farAsked, farInspected, farTextual, withheld, fun v read => ?_⟩
  rw [withheld.silent] at read
  cases read

end CommandLine

end AccessFix
