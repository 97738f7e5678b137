import AccessFix.Proofs.CommandLine.Places
import AccessFix.Proofs.Findings.Ranges

/-! The issue that a place is repaired for. Ranges that only touch count as intersecting, so that an issue one column beside a place
is looked up with those at it, and the first that is listed is repaired. -/
namespace AccessFix.CommandLine
open Fallible Findings

structure Repairing (t : Surroundings) (w : Workspace) (words : List String) (i : Invocation) (file : String) (line column : Int)
    (config : Config) (listed : List Json) (found : IssueMap) (d : Document) : Prop where
  asks : Asks w.files words i
  name : i.spec.name = "fix"
  values : i.values = [.path file, .number line, .number column]
  configured : Config.load w.files t.outerKey i.globals.configPath i.globals.config.isSome = .ok config
  linted : (Lint.run w.files t.lint config.lintSettings (folderOf w.files i.root)).2 = .ok listed
  mapped : ofResults (.array listed) = .ok found
  given : ∀ result ∈ listed, ∀ message ∈ sentBy result, IsCoordinate (Json.member (membersOf message) "line") ∧
    IsCoordinate (Json.member (membersOf message) "column")
  read : Document.ofFile w.files file = .ok d

def ownIssues (found : IssueMap) (d : Document) : List Issue :=
  ((found.get? (.string d.path)).getD []).filter fun i => i.source = toolName

def handed? (found : IssueMap) (d : Document) (line column : Int) : Option Issue :=
  (offered found d 0 line column).head?.map FixAction.issue

def StartsAt (line column : Int) (i : Issue) : Prop := i.range.start = .ofInts (max line 1 - 1) (max column 1 - 1)

def StartsBeside (line column : Int) (i : Issue) : Prop :=
  ∃ step, (step = -1 ∨ step = 1) ∧ i.range.start = .ofInts (max line 1 - 1) (max column 1 - 1 + step)

def Preceded (line column : Int) (issues : List Issue) : Prop :=
  ∃ before i after, issues = before ++ i :: after ∧ StartsBeside line column i ∧ ∀ j ∈ before, ¬StartsAt line column j

variable {t : Surroundings} {w : Workspace} {words : List String} {i : Invocation} {file : String} {line column : Int}
  {config : Config} {listed : List Json} {found : IssueMap} {d : Document} {issue : Issue} {issues : List Issue}

/-! Which issue is taken. -/

theorem offeredFirst (id : BufferId) : (offered found d id line column).head?.map FixAction.issue =
    if isComponent d then (ownIssues found d).find? fun i => i.range.intersects (placeRange line column) else none := by
  unfold offered fixActions ownIssues
  split
  · rw [List.head?_map, Option.map_map, List.head?_filter, List.find?_filter, List.find?_filter]
    refine (congrFun Option.map_id _).trans (congrArg (List.find? · _) (funext fun i => ?_))
    exact decide_eq_decide.mpr and_comm
  · rfl

theorem offeredHanded (id : BufferId) : (offered found d id line column).head?.map FixAction.issue = handed? found d line column :=
  (offeredFirst id).trans (offeredFirst 0).symm

theorem besideApart (beside : StartsBeside line column issue) : ¬StartsAt line column issue := by
  obtain ⟨step, turned, start⟩ := beside
  intro here
  have same := start.symm.trans here
  simp only [Position.ofInts, Position.mk.injEq, Number.int.injEq] at same
  omega

theorem touches (whole : ∃ l c : Int, issue.range = .single (.int l) (.int c)) :
    issue.range.intersects (placeRange line column) = true ↔ StartsAt line column issue ∨ StartsBeside line column issue := by
  obtain ⟨l, c, range⟩ := whole
  have starts {l' c' : Int} : issue.range.start = .ofInts l' c' ↔ l = l' ∧ c = c' := by
    rw [range]
    simp [Range.single, Position.ofInts]
  simp only [StartsAt, StartsBeside, starts]
  rw [range, placeRange, singleIntersects, decide_eq_true_iff]
  constructor
  · rintro ⟨same, close⟩
    by_cases here : c = max column 1 - 1
    · exact .inl ⟨same, here⟩
    · exact .inr ⟨c - (max column 1 - 1), by omega, same, by omega⟩
  · rintro (⟨same, here⟩ | ⟨step, turned, same, near⟩)
    · exact ⟨same, by omega⟩
    · exact ⟨same, by omega⟩

theorem precededCons : Preceded line column (issue :: issues) ↔
    StartsBeside line column issue ∨ ¬StartsAt line column issue ∧ Preceded line column issues := by
  constructor
  · rintro ⟨before, i, after, parts, beside, clear⟩
    cases before with
    | nil =>
      cases parts
      exact .inl beside
    | cons j before =>
      cases parts
      obtain ⟨away, clear⟩ := List.forall_mem_cons.mp clear
      exact .inr ⟨away, before, i, after, rfl, beside, clear⟩
  · rintro (beside | ⟨away, before, i, after, rfl, beside, clear⟩)
    · exact ⟨[], issue, issues, rfl, beside, by simp⟩
    · exact ⟨issue :: before, i, after, rfl, beside, List.forall_mem_cons.mpr ⟨away, clear⟩⟩

theorem firstExact (whole : ∀ i ∈ issues, ∃ l c : Int, i.range = .single (.int l) (.int c))
    (here : ∃ i ∈ issues, StartsAt line column i) :
    ∃ i, issues.find? (fun i => i.range.intersects (placeRange line column)) = some i ∧
      (StartsAt line column i ↔ ¬Preceded line column issues) := by
  induction issues with
  | nil => simp at here
  | cons head rest ih =>
    obtain ⟨wholeHead, wholeRest⟩ := List.forall_mem_cons.mp whole
    rw [List.find?_cons, precededCons]
    cases touched : head.range.intersects (placeRange line column) with
    | true =>
      refine ⟨head, rfl, ?_⟩
      rcases (touches wholeHead).mp touched with exact' | beside
      · exact iff_of_true exact' fun | .inl beside => besideApart beside exact' | .inr away => away.1 exact'
      · exact iff_of_false (besideApart beside) (not_not.mpr (.inl beside))
    | false =>
      have away : ¬(StartsAt line column head ∨ StartsBeside line column head) := by
        rw [← touches wholeHead, touched]
        exact Bool.false_ne_true
      obtain ⟨awayFrom, notBeside⟩ := not_or.mp away
      have later : ∃ i ∈ rest, StartsAt line column i := by simpa [awayFrom] using here
      simpa [awayFrom, notBeside] using ih wholeRest later

theorem ownWhole (mapped : ofResults (.array listed) = .ok found)
    (given : ∀ result ∈ listed, ∀ message ∈ sentBy result, IsCoordinate (Json.member (membersOf message) "line") ∧
      IsCoordinate (Json.member (membersOf message) "column")) :
    ∀ i ∈ ownIssues found d, ∃ l c : Int, i.range = .single (.int l) (.int c) := by
  intro i own
  obtain ⟨issues, there, mem⟩ : ∃ issues, found.get? (.string d.path) = some issues ∧ i ∈ issues := by
    cases there : found.get? (.string d.path) with
    | none => simp [ownIssues, there] at own
    | some issues => exact ⟨issues, rfl, by simpa [ownIssues, there] using (List.mem_filter.mp own).1⟩
  obtain ⟨entry, found', rfl⟩ := Option.map_eq_some_iff.mp there
  obtain ⟨result, sent, paired⟩ := resultsMade mapped entry (List.mem_of_find?_eq_some found')
  obtain ⟨message, said, file, made⟩ := pairedLeft paired mem
  obtain ⟨line, column⟩ := given result sent message said
  exact ⟨_, _, issueRange made line column⟩

/-! What becomes of it. -/

theorem fixHands (repairing : Repairing t w words i file line column config listed found d) :
    let ended := start w (run t words)
    (handed? found d line column = none → ended.stop = some (.exit 1) ∧ ended.progress.trace.sent = []) ∧
    ∀ issue, handed? found d line column = some issue →
      let ran := FixRun.run t.send ⟨config.client, .write true⟩ w.buffers.length issue { w with buffers := w.buffers ++ [d] }
      ended.progress.workspace = ran.workspace ∧ ended.progress.trace.sent = ran.sent ∧
        (ended.stop = none ↔ Fulfilled ran) := by
  have seen := soughtFound repairing.configured repairing.linted repairing.mapped repairing.read
  obtain ⟨nothing, first⟩ := fixOffered repairing.asks repairing.name repairing.values seen
  rw [← offeredHanded w.buffers.length]
  refine ⟨fun none => nothing (by simpa using none), fun issue handed => ?_⟩
  obtain ⟨action, head, rfl⟩ := Option.map_eq_some_iff.mp handed
  obtain ⟨rest, offers⟩ := List.head?_eq_some_iff.mp head
  exact first action rest offers

/-- Where an issue starts at the place that is asked for, and files of this kind are repaired, some issue is handed over. It starts at
the place exactly where no issue one column beside the place is listed before those at it. -/
theorem fixExact (repairing : Repairing t w words i file line column config listed found d)
    (here : ∃ issue ∈ ownIssues found d, StartsAt line column issue) :
    (∀ issue, handed? found d line column = some issue →
      let ended := start w (run t words)
      let ran := FixRun.run t.send ⟨config.client, .write true⟩ w.buffers.length issue { w with buffers := w.buffers ++ [d] }
      ended.progress.workspace = ran.workspace ∧ ended.progress.trace.sent = ran.sent ∧
        (ended.stop = none ↔ Fulfilled ran)) ∧
    ((∃ issue, handed? found d line column = some issue) ↔ isComponent d = true) ∧
    ((∀ issue, handed? found d line column = some issue → StartsAt line column issue) ↔
      ¬(isComponent d = true ∧ Preceded line column (ownIssues found d))) := by
  refine ⟨(fixHands repairing).2, ?_⟩
  obtain ⟨issue, first, starts⟩ := firstExact (ownWhole repairing.mapped repairing.given) here
  rw [handed?, offeredFirst, first]
  cases isComponent d <;> simp [starts]

/-! Two issues, of which each is beside the other. -/

def twinMessages : List Json := [.object [], .object [("column", .ofInt 2)]]

def twinListed : List Json := [.object [("filePath", .string "/p/A.jsx"), ("messages", .array twinMessages)]]

def twinFound : IssueMap := [(.string "/p/A.jsx", twinMessages.map (reported "/p/A.jsx"))]

def twinSurroundings : Surroundings := { pageSurroundings with lint := fun _ => .ended 1 (listOutput twinListed) [] }

def twinInvocation (word : String) (column : Int) : Invocation :=
  ⟨⟨[], ["fix", "A.jsx", "1", word]⟩, commands[2], ["A.jsx", "1", word], ⟨[], ["A.jsx", "1", word]⟩,
    [.path "A.jsx", .number 1, .number column]⟩

def twinDocument : Document := ⟨"/p/A.jsx", "x", "javascriptreact", "file"⟩

theorem twinRead : Json.read (listOutput twinListed) = .ok (.array twinListed) := by
  have first : Json.Legible (976 + 1) (.object []) := .object List.nodup_nil nofun nofun
  have second : Json.Legible (976 + 1) (.object [("column", .ofInt 2)]) :=
    .object (List.nodup_singleton _) (List.forall_mem_singleton.mpr (Text.encodableText _))
      (List.forall_mem_singleton.mpr (.number (Json.intRead.mpr (by decide +kernel))))
  exact outputRead (List.forall_mem_cons.mpr ⟨first, List.forall_mem_singleton.mpr second⟩)

theorem twinRepairing {word : String} {column : Int}
    (asks : Asks page.files ["fix", "A.jsx", "1", word] (twinInvocation word column)) :
    Repairing twinSurroundings page ["fix", "A.jsx", "1", word] (twinInvocation word column) "A.jsx" 1 column {} twinListed
      twinFound twinDocument where
  asks := asks
  name := rfl
  values := rfl
  configured := by
    change Config.load page.files [] defaultConfigPath false = .ok {}
    decide +kernel
  linted := by
    have here : folderOf page.files (twinInvocation word column).root = "/p" := by
      change folderOf page.files "." = "/p"
      decide +kernel
    have folder : page.files.find? (Path.normal "/p") = .ok (some .folder) := by decide +kernel
    have calm : Lint.Lists (.ended 1 (listOutput twinListed) []) twinListed := .array (.inr rfl) twinRead
    rw [here]
    exact ((Lint.runLists folder _ _).1 (by simp [Lint.Signalled, twinSurroundings]) _).mpr calm
  mapped := rfl
  given := by
    intro result mem message said
    obtain rfl := List.mem_singleton.mp mem
    rcases List.mem_pair.mp said with rfl | rfl
    · exact ⟨.inl rfl, .inl rfl⟩
    · exact ⟨.inl rfl, .inr ⟨2, rfl⟩⟩
  read := by decide +kernel

theorem firstAsks : Asks page.files ["fix", "A.jsx", "1", "1"] (twinInvocation "1" 1) where
  group := by decide +kernel
  unanswered := by decide
  command := ⟨"fix", by decide, by decide⟩
  words := by decide +kernel
  noHelp := by decide
  values := by decide +kernel

theorem secondAsks : Asks page.files ["fix", "A.jsx", "1", "2"] (twinInvocation "2" 2) where
  group := by decide +kernel
  unanswered := by decide
  command := ⟨"fix", by decide, by decide⟩
  words := by decide +kernel
  noHelp := by decide
  values := by decide +kernel

theorem firstHanded : (∃ issue, handed? twinFound twinDocument 1 1 = some issue) ∧
    ∀ issue, handed? twinFound twinDocument 1 1 = some issue → StartsAt 1 1 issue := by
  have here : ∃ issue ∈ ownIssues twinFound twinDocument, StartsAt 1 1 issue := ⟨_, List.mem_cons_self, rfl⟩
  obtain ⟨_, some, starts⟩ := fixExact (twinRepairing firstAsks) here
  refine ⟨some.mpr (by decide), starts.mpr ?_⟩
  rintro ⟨_, preceded⟩
  have own : ownIssues twinFound twinDocument = twinMessages.map (reported "/p/A.jsx") := rfl
  rw [own] at preceded
  rcases precededCons.mp preceded with beside | away
  · exact besideApart beside rfl
  · exact away.1 rfl

theorem secondMissed : Repairing twinSurroundings page ["fix", "A.jsx", "1", "2"] (twinInvocation "2" 2) "A.jsx" 1 2 {} twinListed
      twinFound twinDocument ∧
    (∃ issue ∈ ownIssues twinFound twinDocument, StartsAt 1 2 issue) ∧
    handed? twinFound twinDocument 1 2 = some (reported "/p/A.jsx" (.object [])) ∧
    ¬StartsAt 1 2 (reported "/p/A.jsx" (.object [])) :=
  ⟨twinRepairing secondAsks, ⟨_, List.mem_cons_of_mem _ List.mem_cons_self, rfl⟩, rfl, by
    unfold StartsAt
    decide⟩

end AccessFix.CommandLine
