import AccessFix.CommandLine.Words
import AccessFix.Config.Template
import AccessFix.Extension
import AccessFix.Report
import AccessFix.Text.Alphanumeric
import AccessFix.Text.ControlSequence

/-! The commands of the program: write a template of the settings, check a folder, list the fixes for a place in a file,
and apply one. A command prints to two channels and ends with a status, or with a failure that no command handles. The first
channel takes no text that has no encoding; on the second, surrogates are shown by their numbers. -/
namespace AccessFix

inductive Failure where
  | load (fault : LoadFault)
  | lint (fault : LintFault)
  | host (fault : HostFault)
  | file (fault : FileFault)
  | encoding (fault : Text.Utf8.Fault)
  | unencodable (fault : Text.Unencodable)
  | shape (fault : ShapeFault)
  | fix (fault : FixFault)
  | digits
  | arguments
  deriving DecidableEq, Repr

inductive FailureKind where
  | settings
  | linter
  | extension
  | file
  | other
  deriving DecidableEq, Repr

def FailureKind.heading? : FailureKind → Option String
  | .settings => some "Configuration error: "
  | .linter => some "ESLint error: "
  | .extension => some "Extension error: "
  | .file => some "File error: "
  | .other => none

namespace Failure

def kind : Failure → FailureKind
  | .load (.config _) => .settings
  | .load (.unreadable (.file f)) | .file f | .lint (.unusable f) => if f.fault.isRefusal then .file else .other
  | .load _ | .lint (.unstartable _) | .lint (.undecodable _) | .lint (.tooDeep _) => .other
  | .lint f => if f.isSetting then .settings else .linter
  | .host _ => .extension
  | _ => .other

def message : Failure → Letters
  | .load f => f.message
  | .lint f => f.message
  | .host f => f.message
  | .file f => f.message
  | .encoding f => f.message
  | .unencodable f => Text.Codec.utf8.message f
  | .fix (.position f) => f.message
  | .fix (.write f) => f.message
  | .fix (.breakdown f) => f.message
  | .digits => Text.tooManyDigitsToWrite
  | .fix (.shape _) | .shape _ => "data of an unexpected shape"
  | .arguments => "arguments of an unexpected number"

def ofOpen : OpenFault → Failure
  | .file f => .file f
  | .encoding f => .encoding f

def ofWrite : WriteFault → Failure
  | .file f => .file f
  | .encoding f => .unencodable f

def ofCommand : CommandFault → Failure
  | .host f => .host f
  | .lint f => .lint f
  | .shape f => .shape f
  | .fix (.write f) => ofWrite f
  | .fix f => .fix f
  | .arguments => .arguments

end Failure

namespace CommandLine

def programName : String := "react-a11y-ai"

def version : String := "0.1.0"

structure Progress where
  out : String
  err : String
  workspace : Workspace
  trace : Trace

inductive Stop where
  | exit (status : Nat)
  | failure (f : Failure)
  deriving DecidableEq, Repr

abbrev Command := ExceptT Stop (StateM Progress)

def stop {α : Type} (status : Nat) : Command α := throw (.exit status)

def fail {α : Type} (f : Failure) : Command α := throw (.failure f)

def orFail {α ε : Type} (r : Except ε α) (failure : ε → Failure) : Command α :=
  match r with
  | .ok a => return a
  | .error e => fail (failure e)

def print (line : Letters) : Command Unit := do
  let text : Letters := Text.plain line ++ "\n"
  match Text.Codec.utf8.refusal? text with
  | some fault => fail (.unencodable fault)
  | none => modify fun p => { p with out := p.out ++ String.ofList text.chars }

def complain (line : Letters) : Command Unit :=
  modify fun p => { p with err := p.err ++ Text.shown (Text.plain line ++ "\n") }

def announce {α : Type} (kind : FailureKind) (message : Letters) (unhandled : Command α) : Command α :=
  match kind.heading? with
  | some heading => do
    complain (heading ++ message)
    stop 1
  | none => unhandled

def guarded {α : Type} (c : Command α) : Command α :=
  tryCatch c fun
    | .failure f => announce f.kind f.message (fail f)
    | .exit status => stop status

def showNotice (n : Notice) : Command Unit :=
  match n.level with
  | .info => print n.text
  | .warning => complain ("Warning: " ++ n.text)
  | .error => complain ("Error: " ++ n.text)

structure Globals where
  config : Option String
  output : Option String
  pretty : Bool
  verbose : Bool
  deriving DecidableEq, Repr

def note (g : Globals) (line : Letters) : Command Unit := do
  if g.verbose then complain ("[verbose] " ++ line)

def putOut (g : Globals) (text : Letters) : Command Unit := do
  match g.output.filter (· ≠ "") with
  | none => print text
  | some path =>
    let p ← get
    let (wrote, files) := p.workspace.files.writeText path text
    set { p with workspace := { p.workspace with files := files } }
    orFail wrote .ofWrite
    complain ("Report written to '" ++ path ++ "'")

def emit (g : Globals) (data : Json) : Command Unit :=
  if data.isWritable then putOut g (Json.print ⟨false, g.pretty⟩ data) else fail .digits

def resolved (path : String) : Command String := do
  return Path.ofRoute (Path.resolve (← get).workspace.files.here path)

def defaultConfigPath : String := "a11y-config.yaml"

def openExtension (t : Surroundings) (g : Globals) (root : String) : Command Extension := do
  let path := (g.config.filter (· ≠ "")).getD defaultConfigPath
  let config ← orFail (Config.load (← get).workspace.files t.outerKey path g.config.isSome) .load
  let folder ← resolved root
  note g ("Workspace root: " ++ folder)
  note g ("ESLint command: " ++ Text.joined config.eslintCommand)
  match (Extension.new config).init (some folder) with
  | (.ok (), e) => return e
  | (.error f, _) => fail (.host f)

def execute (t : Surroundings) (e : Extension) (name : String) (args : List Argument) :
    Command (Answer × Extension) := do
  let p ← get
  let ran := Extension.execute t p.workspace { e with notices := [] } name args
  set { p with workspace := ran.workspace, trace := p.trace.append ran.trace }
  ran.extension.notices.forM showNotice
  let answer ← orFail ran.result .ofCommand
  return (answer, { ran.extension with notices := e.notices })

def countIssues (found : IssueMap) : Nat := found.issues.length

def runCheck (t : Surroundings) (verbose : Bool) (e : Extension) : Command (Option IssueMap × Extension) := do
  let (answer, e) ← execute t e checkCommand []
  match answer with
  | .found none => stop 1
  | .found (some found) =>
    if verbose then
      complain ("[verbose] " ++ toString (countIssues found) ++ " issue(s) in " ++ toString found.length ++ " file(s)")
    return (some found, e)
  | _ => return (none, e)

def actionsAt (e : Extension) (file : String) (line column : Int) : Command (List FixAction) := do
  let p ← get
  let d ← orFail (Document.ofFile p.workspace.files file) .ofOpen
  let w := { p.workspace with buffers := p.workspace.buffers ++ [d] }
  set { p with workspace := w }
  let range := Range.single (.int (max line 1 - 1)) (.int (max column 1 - 1))
  orFail (e.actions w p.workspace.buffers.length range) .shape

def initialise (path : String) : Command Unit := do
  let p ← get
  match Config.writeTemplate p.workspace.files path with
  | .ok files =>
    set { p with workspace := { p.workspace with files := files } }
    print ("Template written to '" ++ path ++ "'.")
    let grave := String.singleton (Char.ofNat 96)
    print ("Set OPENAI_API_KEY in your environment before running " ++ grave ++ "fix" ++ grave ++ ".")
  | .error (.taken path) =>
    complain ("Error: " ++ (Config.TemplateFault.taken path).message)
    stop 1
  | .error (.file f) => fail (.file f)

def check (t : Surroundings) (g : Globals) (root : String) : Command Unit := guarded do
  let e ← openExtension t g root
  let (found, _) ← runCheck t g.verbose e
  let report ← orFail (Report.build (← resolved root) t.now (found.getD [])) .shape
  emit g report.toJson

def FixAction.toJson (a : FixAction) : Json :=
  .object [("title", .string a.title), ("kind", .string FixAction.kind), ("preferred", .bool true),
    ("issues", .array [a.issue.toJson])]

def actions (t : Surroundings) (g : Globals) (file : String) (line column : Int) (root : String) : Command Unit :=
  guarded do
    let e ← openExtension t g root
    let (_, e) ← runCheck t g.verbose e
    let offered ← actionsAt e file line column
    emit g (.array (offered.map FixAction.toJson))

def fix (t : Surroundings) (g : Globals) (file : String) (line column : Int) (root : String) : Command Unit :=
  guarded do
    let e ← openExtension t g root
    let (_, e) ← runCheck t g.verbose e
    match ← actionsAt e file line column with
    | [] =>
      complain ("No accessibility issue at " ++ file ++ ":" ++ toString line ++ ":" ++ toString column)
      stop 1
    | action :: _ =>
      note g action.title
      match ← execute t e fixCommand [.document action.document, .issue action.issue] with
      | (.state .fixApplied, _) => return
      | _ => stop 1

def groupOptions : List OptionSpec :=
  [⟨"--config", some "TEXT", "Path to the configuration file.  [default: a11y-config.yaml]"⟩,
   ⟨"--output", some "TEXT", "Write JSON output to a file instead of stdout."⟩,
   ⟨"--pretty", none, "Pretty-print the JSON output."⟩,
   ⟨"--verbose", none, "Enable verbose logging."⟩,
   ⟨"--version", none, "Show the version and exit."⟩,
   helpOption]

def groupSummary : String := "React accessibility checks (ESLint jsx-a11y) with AI quick fixes."

def rootOption : OptionSpec := ⟨"--root", some "DIRECTORY", "Workspace root to lint.  [default: .]"⟩

def placeArguments : List ArgumentSpec :=
  [⟨"FILE", .file, none⟩, ⟨"LINE", .number, none⟩, ⟨"COLUMN", .number, none⟩]

def commands : List CommandSpec :=
  [⟨"actions", "List quick fixes for FILE at 1-based LINE and COLUMN.", placeArguments, [rootOption, helpOption]⟩,
   ⟨"check", "Run the accessibility checks on ROOT (default: current directory).", [⟨"ROOT", .folder, some "."⟩],
    [helpOption]⟩,
   ⟨"fix", "Apply an AI fix for the first issue in FILE at 1-based LINE and COLUMN.", placeArguments,
    [rootOption, helpOption]⟩,
   ⟨"init", "Generate a template a11y-config.yaml file.", [],
    [⟨"--output", some "TEXT",
      "Path where the template config file will be written.  [default: a11y-config.yaml]"⟩, helpOption]⟩]

def groupUsage : String := "Usage: " ++ programName ++ " [OPTIONS] COMMAND [ARGS]..."

def groupPage : String := Page.render groupUsage groupSummary groupOptions commands

def usageOf (c : CommandSpec) : String :=
  " ".intercalate (["Usage:", programName, c.name, "[OPTIONS]"] ++ c.arguments.map ArgumentSpec.shown)

def pageOf (c : CommandSpec) : String := Page.render (usageOf c) c.summary c.options []

def misuse {α : Type} (usage path : String) (f : UsageFault) : Command α := do
  if f.showsUsage then
    complain usage
    complain ("Try '" ++ path ++ " --help' for help.\n")
  complain ("Error: " ++ f.message)
  stop 2

def answer {α : Type} (text : String) : Command α := do
  modify fun p => { p with out := p.out ++ text }
  stop 0

inductive WordFault where
  | usage (fault : UsageFault)
  | path (fault : FileFault)
  deriving DecidableEq, Repr

def checkPath (files : Files) (parameter : String) (kind : ArgumentKind) (path : String) : Except WordFault Unit :=
  let refuse (reason : String) : Except WordFault Unit := .error (.usage (.badValue parameter reason))
  match kind, files.find path with
  | _, .error .zeroCharacter => .error (.path ⟨.zeroCharacter, path⟩)
  | .file, .error _ => refuse ("File " ++ Text.quoted path ++ " does not exist.")
  | .file, .ok .folder => refuse ("File " ++ Text.quoted path ++ " is a directory.")
  | .folder, .ok (.file _) => refuse ("Directory " ++ Text.quoted path ++ " is a file.")
  | _, _ => .ok ()

inductive ArgumentValue where
  | path (s : String)
  | number (n : Int)
  deriving DecidableEq, Repr

def convert (files : Files) (a : ArgumentSpec) (word : String) : Except WordFault ArgumentValue :=
  match a.kind with
  | .number =>
    match Text.readInt word with
    | .ok n => .ok (.number n)
    | .error _ => .error (.usage (.badValue a.shown (Text.quoted word ++ " is not a valid integer.")))
  | kind => do
    checkPath files a.shown kind word
    return .path word

def convertAll (files : Files) : List ArgumentSpec → List String →
    Except WordFault (List ArgumentValue × List String)
  | [], words => .ok ([], words)
  | a :: rest, [] =>
    match a.default with
    | none => .error (.usage (.argumentMissing a.shown))
    | some word => do
      let v ← convert files a word
      let (vs, extra) ← convertAll files rest []
      return (v :: vs, extra)
  | a :: rest, word :: words => do
    let v ← convert files a word
    let (vs, extra) ← convertAll files rest words
    return (v :: vs, extra)

def parseCommand (files : Files) (c : CommandSpec) (w : Words) : Except WordFault (List ArgumentValue) := do
  match w.value? rootOption.name with
  | some root => checkPath files rootOption.name .folder root
  | none => .ok ()
  let (values, extra) ← convertAll files c.arguments w.positional
  if !extra.isEmpty then throw (.usage (.extraWords extra))
  return values

def perform (t : Surroundings) (g : Globals) (c : CommandSpec) (w : Words) (values : List ArgumentValue) :
    Command Unit :=
  let root := (w.value? rootOption.name).getD "."
  match values with
  | [] => initialise ((w.value? "--output").getD defaultConfigPath)
  | [.path folder] => check t g folder
  | [.path file, .number line, .number column] =>
    if c.name = "fix" then fix t g file line column root else actions t g file line column root
  | _ => return

def runCommand (t : Surroundings) (g : Globals) (c : CommandSpec) (words : List String) : Command Unit := do
  let refuse {α : Type} (f : UsageFault) : Command α := misuse (usageOf c) (programName ++ " " ++ c.name) f
  match Words.ofList c.options true words with
  | .error f => refuse f
  | .ok w =>
    if w.has helpOption.name then answer (pageOf c)
    match parseCommand (← get).workspace.files c w with
    | .error (.usage f) => refuse f
    | .error (.path f) => fail (.file f)
    | .ok values => perform t g c w values

def isName (word : String) : Bool :=
  match word.toList with
  | [] => true
  | c :: _ => Text.isAlphanumeric c

def answerFirst (w : Words) : Command Unit :=
  match w.given.find? fun g => g.1 = "--help" ∨ g.1 = "--version" with
  | some ("--help", _) => answer groupPage
  | some _ => answer (programName ++ ", version " ++ version ++ "\n")
  | none => return

def run (t : Surroundings) (words : List String) : Command Unit := do
  let refuse {α : Type} (f : UsageFault) : Command α := misuse groupUsage programName f
  if words.isEmpty then answer groupPage
  match Words.ofList groupOptions false words with
  | .error f => refuse f
  | .ok w =>
    answerFirst w
    match w.positional with
    | [] => refuse .commandMissing
    | name :: rest =>
      match commands.find? fun c => c.name = name with
      | some c => runCommand t ⟨w.value? "--config", w.value? "--output", w.has "--pretty", w.has "--verbose"⟩ c rest
      | none => if isName name then refuse (.unknownCommand name) else answer groupPage

structure Ended where
  stop : Option Stop
  progress : Progress

def start (w : Workspace) (c : Command Unit) : Ended :=
  match c.run.run ⟨"", "", w, {}⟩ with
  | (.ok (), p) => ⟨none, p⟩
  | (.error s, p) => ⟨some s, p⟩

end CommandLine

end AccessFix
