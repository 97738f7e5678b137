import AccessFix.Proofs.CommandLine.Confined

/-! What a command line changes. Words that ask for no command, and those that are refused, change nothing. A command changes
one file at most, the one that its words name, and where it does not succeed none at all, unless it breaks off over a text that
has no encoding. -/
namespace AccessFix.CommandLine
open Fallible

/-! What a command line asks for. -/

structure Invocation where
  group : Words
  spec : CommandSpec
  rest : List String
  words : Words
  values : List ArgumentValue

def Invocation.globals (i : Invocation) : Globals :=
  ⟨i.group.value? "--config", i.group.value? "--output", i.group.has "--pretty", i.group.has "--verbose"⟩

structure Asks (files : Files) (line : List String) (i : Invocation) : Prop where
  group : Words.ofList groupOptions false line = .ok i.group
  unanswered : i.group.given.find? (fun g => g.1 = "--help" ∨ g.1 = "--version") = none
  command : ∃ name, i.group.positional = name :: i.rest ∧ commands.find? (fun c => c.name = name) = some i.spec
  words : Words.ofList i.spec.options true i.rest = .ok i.words
  noHelp : i.words.has helpOption.name = false
  values : parseCommand files i.spec i.words = .ok i.values

example : Asks { nodes := [(["p"], .folder), (["p", "A.jsx"], .file [])], here := ["p"] } ["--pretty", "fix", "A.jsx", "3", "8"]
    ⟨⟨[("--pretty", none)], ["fix", "A.jsx", "3", "8"]⟩, commands[2], ["A.jsx", "3", "8"], ⟨[], ["A.jsx", "3", "8"]⟩,
      [.path "A.jsx", .number 3, .number 8]⟩ where
  group := by decide +kernel
  unanswered := by decide
  command := ⟨"fix", by decide, by decide⟩
  words := by decide +kernel
  noHelp := by decide
  values := by decide +kernel

def Invocation.perform (t : Surroundings) (i : Invocation) : Command Unit :=
  CommandLine.perform t i.globals i.spec i.words i.values

variable {t : Surroundings} {line : List String} {i : Invocation} {p q : Progress} {r : Except Stop Unit}

structure Called (line : List String) (i : Invocation) : Prop where
  group : Words.ofList groupOptions false line = .ok i.group
  unanswered : i.group.given.find? (fun g => g.1 = "--help" ∨ g.1 = "--version") = none
  command : ∃ name, i.group.positional = name :: i.rest ∧ commands.find? (fun c => c.name = name) = some i.spec
  words : Words.ofList i.spec.options true i.rest = .ok i.words
  noHelp : i.words.has helpOption.name = false

theorem Asks.called {files : Files} (asks : Asks files line i) : Called line i :=
  ⟨asks.group, asks.unanswered, asks.command, asks.words, asks.noHelp⟩

theorem calledRun (called : Called line i) : after (run t line) p = after
    (match parseCommand p.workspace.files i.spec i.words with
      | .error (.usage f) => misuse (usageOf i.spec) (programName ++ " " ++ i.spec.name) f
      | .error (.path f) => fail (.file f)
      | .ok values => CommandLine.perform t i.globals i.spec i.words values) p := by
  obtain ⟨_, positional, command⟩ := called.command
  have some : line.isEmpty = false := by
    cases line with
    | nil =>
      have none : i.group = ⟨[], []⟩ := (Except.ok.inj called.group).symm
      rw [none] at positional
      cases positional
    | cons word rest => rfl
  have unanswered : answerFirst i.group = pure () := by simp only [answerFirst, called.unanswered]
  have whole : run t line = runCommand t i.globals i.spec i.rest := by
    simp only [run, some, Bool.false_eq_true, if_false, called.group, unanswered, positional, command, pure_bind]
    rfl
  rw [whole]
  simp only [runCommand, called.words, called.noHelp, Bool.false_eq_true, if_false]
  exact bindOn (getAfter p)

theorem asksRun (asks : Asks p.workspace.files line i) : after (run t line) p = after (i.perform t) p := by
  rw [calledRun asks.called, asks.values]
  rfl

structure Unread (files : Files) (line : List String) (i : Invocation) (f : FileFault) : Prop where
  called : Called line i
  unread : parseCommand files i.spec i.words = .error (.path f)

theorem unreadRun {f : FileFault} (unread : Unread p.workspace.files line i f) :
    after (run t line) p = (.error (.failure (.file f)), p) := by
  rw [calledRun unread.called, unread.unread]
  rfl

theorem answerAfter {α : Type} (text : String) (f : Unit → Command α) (p : Progress) :
    after (answer text >>= f) p = (.error (.exit 0), { p with out := p.out ++ text }) := rfl

theorem misuseAfter (usage path : String) (f : UsageFault) (p : Progress) : ∃ before, after (misuse usage path f) p =
    ((.error (.exit 2) : Except Stop Unit), { p with err := before ++ complained ("Error: " ++ f.message) }) := by
  unfold misuse
  split <;> exact ⟨_, rfl⟩

inductive Taken (t : Surroundings) (line : List String) (p : Progress) : Prop where
  | answered (text : String) (ran : after (run t line) p = (.error (.exit 0), { p with out := p.out ++ text }))
  | misused (usage path : String) (f : UsageFault) (ran : after (run t line) p = after (misuse usage path f) p)
  | unread (i : Invocation) (f : FileFault) (unread : Unread p.workspace.files line i f)
  | asked (i : Invocation) (asks : Asks p.workspace.files line i)

theorem takenCommand {w : Words} {name : String} {rest : List String} {c : CommandSpec}
    (group : Words.ofList groupOptions false line = .ok w)
    (unanswered : w.given.find? (fun g => g.1 = "--help" ∨ g.1 = "--version") = none)
    (positional : w.positional = name :: rest) (command : commands.find? (fun c => c.name = name) = some c)
    (ran : ∃ g, after (run t line) p = after (runCommand t g c rest) p) : Taken t line p := by
  obtain ⟨g, ran⟩ := ran
  cases read : Words.ofList c.options true rest with
  | error f =>
    simp only [runCommand, read] at ran
    exact .misused _ _ f ran
  | ok words =>
    cases asksHelp : words.has helpOption.name with
    | true =>
      simp only [runCommand, read, asksHelp, if_true] at ran
      exact .answered _ (ran.trans (answerAfter _ _ _))
    | false =>
      have called (values : List ArgumentValue) : Called line ⟨w, c, rest, words, values⟩ :=
        ⟨group, unanswered, ⟨name, positional, command⟩, read, asksHelp⟩
      cases parsed : parseCommand p.workspace.files c words with
      | ok values =>
        exact .asked ⟨w, c, rest, words, values⟩ ⟨group, unanswered, ⟨name, positional, command⟩, read, asksHelp, parsed⟩
      | error fault =>
        cases fault with
        | usage f =>
          have ran := calledRun (t := t) (p := p) (called [])
          simp only [parsed] at ran
          exact .misused _ _ f ran
        | path f => exact .unread _ f ⟨called [], parsed⟩

theorem runTaken (t : Surroundings) (line : List String) (p : Progress) : Taken t line p := by
  generalize whole : after (run t line) p = out
  have ran := whole
  simp only [run] at ran
  split at ran
  · exact .answered groupPage (whole.trans ran.symm)
  split at ran
  · exact .misused _ _ _ (whole.trans ran.symm)
  rename_i w group
  cases first : w.given.find? fun g => g.1 = "--help" ∨ g.1 = "--version" with
  | some given =>
    obtain ⟨text, answered⟩ : ∃ text, answerFirst w = answer text := by
      simp only [answerFirst, first]
      split
      · exact ⟨_, rfl⟩
      · exact ⟨_, rfl⟩
      · contradiction
    rw [answered] at ran
    exact .answered text (whole.trans ran.symm)
  | none =>
    have unanswered : answerFirst w = pure () := by simp only [answerFirst, first]
    rw [unanswered, pure_bind] at ran
    split at ran
    · exact .misused _ _ _ (whole.trans ran.symm)
    · rename_i name rest positional
      split at ran
      · rename_i c command
        exact takenCommand group first positional command ⟨_, whole.trans ran.symm⟩
      · split at ran
        · exact .misused _ _ _ (whole.trans ran.symm)
        · exact .answered _ (whole.trans ran.symm)

theorem idleRun (unasked : ∀ i, ¬Asks p.workspace.files line i) (ran : after (run t line) p = (r, q)) :
    q.workspace = p.workspace := by
  cases runTaken t line p with
  | answered text ended =>
    rw [ended] at ran
    cases ran
    rfl
  | misused usage path f ended =>
    obtain ⟨before, told⟩ := misuseAfter usage path f p
    rw [ended, told] at ran
    cases ran
    rfl
  | unread i f unread =>
    rw [unreadRun unread] at ran
    cases ran
    rfl
  | asked i asks => exact absurd asks (unasked i)

/-! The values of a command's words. -/

def Fits (a : ArgumentSpec) (v : ArgumentValue) : Prop :=
  match a.kind with
  | .number => ∃ n, v = .number n
  | _ => ∃ path, v = .path path

theorem convertFits {files : Files} {a : ArgumentSpec} {word : String} {v : ArgumentValue}
    (ok : convert files a word = .ok v) : Fits a v := by
  simp only [convert] at ok
  split at ok
  · rename_i number
    simp only [Fits, number]
    split at ok
    · rename_i n _
      cases ok
      exact ⟨n, rfl⟩
    · cases ok
  · rename_i other
    obtain ⟨_, _, ok⟩ := bindOk.mp ok
    obtain rfl := pureOk.mp ok
    simp only [Fits]
    exact ⟨word, rfl⟩

theorem convertAllFits {files : Files} {arguments : List ArgumentSpec} {words : List String} {values : List ArgumentValue}
    {extra : List String} (ok : convertAll files arguments words = .ok (values, extra)) :
    List.Forall₂ Fits arguments values := by
  induction arguments generalizing words values with
  | nil =>
    cases ok
    exact .nil
  | cons a rest ih =>
    have converted : ∃ word v words vs, convert files a word = .ok v ∧ convertAll files rest words = .ok (vs, extra) ∧
        values = v :: vs := by
      cases words with
      | nil =>
        simp only [convertAll] at ok
        split at ok
        · cases ok
        · rename_i word _
          obtain ⟨v, here, ok⟩ := bindOk.mp ok
          obtain ⟨⟨vs, more⟩, later, ok⟩ := bindOk.mp ok
          cases ok
          exact ⟨word, v, [], vs, here, later, rfl⟩
      | cons word words =>
        simp only [convertAll] at ok
        obtain ⟨v, here, ok⟩ := bindOk.mp ok
        obtain ⟨⟨vs, more⟩, later, ok⟩ := bindOk.mp ok
        cases ok
        exact ⟨word, v, words, vs, here, later, rfl⟩
    obtain ⟨word, v, words, vs, here, later, rfl⟩ := converted
    exact .cons (convertFits here) (ih later)

theorem parseFits {files : Files} {c : CommandSpec} {w : Words} {values : List ArgumentValue}
    (ok : parseCommand files c w = .ok values) : List.Forall₂ Fits c.arguments values := by
  simp only [parseCommand] at ok
  have converted : ∃ extra, convertAll files c.arguments w.positional = .ok (values, extra) := by
    split at ok
    all_goals
      obtain ⟨_, _, ok⟩ := bindOk.mp ok
      obtain ⟨⟨vs, extra⟩, made, ok⟩ := bindOk.mp ok
      split at ok
      · cases ok
      · cases ok
        exact ⟨extra, made⟩
  obtain ⟨extra, made⟩ := converted
  exact convertAllFits made

inductive Form : String → List ArgumentValue → Prop where
  | init : Form "init" []
  | check (folder : String) : Form "check" [.path folder]
  | actions (file : String) (line column : Int) : Form "actions" [.path file, .number line, .number column]
  | fix (file : String) (line column : Int) : Form "fix" [.path file, .number line, .number column]

theorem placeForm {values : List ArgumentValue} (fits : List.Forall₂ Fits placeArguments values) :
    ∃ file line column, values = [.path file, .number line, .number column] := by
  obtain ⟨_, _, ⟨file, rfl⟩, second, rfl⟩ := List.forall₂_cons_left_iff.mp fits
  obtain ⟨_, _, ⟨line, rfl⟩, third, rfl⟩ := List.forall₂_cons_left_iff.mp second
  obtain ⟨_, _, ⟨column, rfl⟩, none, rfl⟩ := List.forall₂_cons_left_iff.mp third
  obtain rfl := List.forall₂_nil_left_iff.mp none
  exact ⟨file, line, column, rfl⟩

theorem asksForm {files : Files} (asks : Asks files line i) : Form i.spec.name i.values := by
  obtain ⟨name, _, command⟩ := asks.command
  have known := List.mem_of_find?_eq_some command
  have fits := parseFits asks.values
  generalize i.spec = spec at known fits
  simp only [commands, List.mem_cons, List.not_mem_nil, or_false] at known
  rcases known with rfl | rfl | rfl | rfl
  · obtain ⟨file, line, column, values⟩ := placeForm fits
    rw [values]
    exact .actions file line column
  · obtain ⟨_, _, ⟨folder, rfl⟩, fits, values⟩ := List.forall₂_cons_left_iff.mp fits
    obtain rfl := List.forall₂_nil_left_iff.mp fits
    rw [values]
    exact .check folder
  · obtain ⟨file, line, column, values⟩ := placeForm fits
    rw [values]
    exact .fix file line column
  · rw [List.forall₂_nil_left_iff.mp fits]
    exact .init

/-! What the command does. -/

def Invocation.file? (i : Invocation) : Option String :=
  match i.values with
  | .path file :: _ => some file
  | _ => none

def Invocation.root (i : Invocation) : String := (i.words.value? rootOption.name).getD "."

def Invocation.route? (i : Invocation) (here : Route) : Option Route :=
  if i.spec.name = "init" then some (Path.resolve here ((i.words.value? "--output").getD defaultConfigPath))
  else if i.spec.name = "fix" then i.file?.map (documentRoute here)
  else i.globals.target here

def Invocation.Repairs (t : Surroundings) (i : Invocation) (p : Progress) (went : FixRun → Prop) : Prop :=
  i.spec.name = "fix" ∧ ∃ file line column, i.values = [.path file, .number line, .number column] ∧
    FixWent t i.globals file line column i.root p went

structure Performed (t : Surroundings) (i : Invocation) (p : Progress) (r : Except Stop Unit) (q : Progress) : Prop where
  confined : Confined (i.route? p.workspace.files.here) (i.Repairs t p (FixRun.result · = .ok .fixApplied)) p r q
  fresh : i.spec.name = "init" → r = .ok () → ∀ route, i.route? p.workspace.files.here = some route →
    p.workspace.files.node? route = none
  repaired : i.spec.name = "fix" → ∃ file line column, i.values = [.path file, .number line, .number column] ∧
    (r = .ok () ↔ FixWent t i.globals file line column i.root p Fulfilled)

theorem performForm (form : Form i.spec.name i.values) (ran : after (i.perform t) p = (r, q)) : Performed t i p r q := by
  generalize name : i.spec.name = n at form
  generalize given : i.values = values at form
  rw [Invocation.perform, given] at ran
  cases form with
  | init =>
    simp only [perform] at ran
    obtain ⟨confined, fresh⟩ := initialiseAfter ran
    have route : i.route? p.workspace.files.here = _ := if_pos name
    refine ⟨by rwa [route], fun _ ok other same => ?_, by simp [name]⟩
    rw [route, Option.some.injEq] at same
    rw [← same]
    exact fresh ok
  | check folder =>
    have route : i.route? p.workspace.files.here = i.globals.target p.workspace.files.here := by
      simp [Invocation.route?, name]
    simp only [perform] at ran
    exact ⟨by rw [route]; exact checkConfined ran, by simp [name], by simp [name]⟩
  | actions file line column =>
    have route : i.route? p.workspace.files.here = i.globals.target p.workspace.files.here := by
      simp [Invocation.route?, name]
    simp only [perform, name, String.reduceEq, if_false] at ran
    exact ⟨by rw [route]; exact actionsConfined ran, by simp [name], by simp [name]⟩
  | fix file line column =>
    have route : i.route? p.workspace.files.here = some (documentRoute p.workspace.files.here file) := by
      simp [Invocation.route?, Invocation.file?, name, given]
    simp only [perform, name, if_true] at ran
    obtain ⟨⟨failed, done, status⟩, repaired⟩ := fixConfined ran
    refine ⟨⟨fun stopped => ?_, by rwa [route], status⟩, by simp [name], fun _ => ⟨file, line, column, given, repaired⟩⟩
    rw [route]
    refine (failed stopped).imp_right fun ⟨f, broken, left⟩ => ⟨f, broken, left.imp_right fun applied => ?_⟩
    exact ⟨name, file, line, column, given, applied⟩

def Ended.Succeeded (e : Ended) : Prop := e.stop = none ∨ e.stop = some (.exit 0)

theorem succeededOk {w : Workspace} {c : Command Unit} (ran : after c ⟨"", "", w, {}⟩ = (r, q))
    (status : r ≠ .error (.exit 0)) : (start w c).Succeeded ↔ r = .ok () := by
  rw [startAfter w c ran]
  cases r with
  | ok done => simp [Ended.Succeeded, stopOf]
  | error s => simpa [Ended.Succeeded, stopOf] using status

/-- A command line that does not succeed changes no file, unless a text without an encoding was to be written or a fix that is
applied could not be told. One that does changes at most the file that its command names. -/
theorem commandChanges (t : Surroundings) (w : Workspace) (line : List String) :
    (¬(start w (run t line)).Succeeded → (start w (run t line)).progress.workspace.files = w.files ∨
      ∃ i f, Asks w.files line i ∧ (start w (run t line)).stop = some (.failure (.unencodable f)) ∧
        (Emptied (i.route? w.files.here) w.files f (start w (run t line)).progress.workspace.files ∨
          i.Repairs t ⟨"", "", w, {}⟩ (FixRun.result · = .ok .fixApplied))) ∧
    ((∀ i, ¬Asks w.files line i) → (start w (run t line)).progress.workspace.files = w.files) ∧
    ∀ i, Asks w.files line i →
      (∀ route, i.route? w.files.here ≠ some route →
        (start w (run t line)).progress.workspace.files.node? route = w.files.node? route) ∧
      (i.spec.name = "init" → (start w (run t line)).Succeeded →
        ∀ route, i.route? w.files.here = some route → w.files.node? route = none) ∧
      (i.spec.name = "fix" → ∃ file line' column, i.values = [.path file, .number line', .number column] ∧
        (Path.Plain w.files.here → i.route? w.files.here = some (Path.resolve w.files.here file)) ∧
        ((start w (run t line)).Succeeded ↔ FixWent t i.globals file line' column i.root ⟨"", "", w, {}⟩ Fulfilled)) := by
  generalize ran : after (run t line) ⟨"", "", w, {}⟩ = out
  obtain ⟨r, q⟩ := out
  have ended : (start w (run t line)).progress = q := by rw [startAfter w _ ran]
  have stopped : (start w (run t line)).stop = stopOf r := by rw [startAfter w _ ran]
  rw [ended, stopped]
  have idle : (∀ i, ¬Asks w.files line i) → q.workspace.files = w.files := fun unasked => by
    rw [idleRun unasked ran]
  have performed : ∀ i, Asks w.files line i → Performed t i ⟨"", "", w, {}⟩ r q := fun i asks =>
    performForm (asksForm asks) ((asksRun asks).symm.trans ran)
  refine ⟨fun failed => ?_, idle, fun i asks => ⟨?_, ?_, ?_⟩⟩
  · by_cases asked : ∃ i, Asks w.files line i
    · obtain ⟨i, asks⟩ := asked
      obtain ⟨confined, _, _⟩ := performed i asks
      refine (confined.failed fun ok => failed ((succeededOk ran confined.status).mpr ok)).imp_right ?_
      rintro ⟨f, rfl, left⟩
      exact ⟨i, f, asks, rfl, left⟩
    · exact .inl (idle (not_exists.mp asked))
  · exact fun route other => rewrittenNode (performed i asks).confined.done other
  · intro name success
    obtain ⟨confined, fresh, _⟩ := performed i asks
    exact fresh name ((succeededOk ran confined.status).mp success)
  · intro name
    obtain ⟨confined, _, repaired⟩ := performed i asks
    obtain ⟨file, line', column, values, repaired⟩ := repaired name
    refine ⟨file, line', column, values, fun plain => ?_, (succeededOk ran confined.status).trans repaired⟩
    have route : i.route? w.files.here = some (documentRoute w.files.here file) := by
      simp [Invocation.route?, Invocation.file?, name, values]
    rw [route, documentResolved plain]

def page : Workspace := ⟨⟨[(["p"], .folder), (["p", "A.jsx"], .file [120])], ["p"], []⟩, []⟩

def pageMessage : Json := .object [("message", .string "m")]

def pageListed : List Json := [.object [("filePath", .string "/p/A.jsx"), ("messages", .array [pageMessage])]]

def listOutput (listed : List Json) : Letters := Json.print Json.compactAscii (.array listed)

def pageSurroundings : Surroundings where
  lint := fun _ => .ended 1 (listOutput pageListed) []
  send := fun _ => .failed "ConnectionError" []
  now := default
  outerKey := []

def answering (reply : Letters) : Surroundings where
  lint := pageSurroundings.lint
  send := fun _ => .answered 200 (some "OK") (Text.Utf8.encode (Json.print Json.compactAscii (.object [("choices", .array
    [.object [("message", .object [("content", .string reply)])]])])).chars)
  now := default
  outerKey := "k"

def loudReply : Letters := "```\nab\n```Explanation: " ++ [Letter.surrogate 0]

def brokenReply : Letters := "```\nab" ++ [Letter.surrogate 0] ++ "\n```"

theorem loudChanged :
    let loud := start page (run (answering loudReply) ["fix", "A.jsx", "1", "1"])
    let broken := start page (run (answering brokenReply) ["fix", "A.jsx", "1", "1"])
    page.files.node? ["p", "A.jsx"] = some (.file [120]) ∧
      loud.stop = some (.failure (.unencodable ⟨[.surrogate 0], 29⟩)) ∧
      loud.progress.workspace.files.node? ["p", "A.jsx"] = some (.file [97, 98]) ∧
      broken.stop = some (.failure (.unencodable ⟨[.surrogate 0], 2⟩)) ∧
      broken.progress.workspace.files.node? ["p", "A.jsx"] = some (.file []) := by
  decide +kernel

end AccessFix.CommandLine
