import AccessFix.Config
import AccessFix.FixRun
import AccessFix.IssueStore
import AccessFix.QuickFix
import AccessFix.Surroundings

/-! The registry that an editor talks to. Whatever is registered gets a disposable, known by its number; disposing undoes
the registration, once. Initialising registers the two commands and the provider of this tool and lists their
disposables as subscriptions; shutting down disposes of all subscriptions, the last first. -/
namespace AccessFix

inductive Handler where
  | check
  | fix
  | fixed (name : String) (value : Json)
  deriving Repr

/-- What is asked for the actions at a range. Its number stands for all that tells its entry from others besides languages and
schemes: who answers, and what else the filters of the selector say. -/
structure Provider where
  id : Nat
  offers : BufferId → Range → List Issue → List FixAction

instance : Repr Provider := ⟨fun p _ => repr p.id⟩

def Provider.fixes : Provider := ⟨0, fun document _ issues => fixActions document issues⟩

structure ProviderEntry where
  selector : Selector
  provider : Provider
  deriving Repr

def ProviderEntry.same (a b : ProviderEntry) : Bool := a.selector.same b.selector && a.provider.id == b.provider.id

inductive Undo where
  | clearStore
  | command (name : String)
  | provider (entry : ProviderEntry)
  deriving Repr

abbrev DisposableId := Nat

abbrev ExtensionId := Nat

inductive Subscription where
  | own (id : DisposableId)
  | other (extension : ExtensionId) (id : DisposableId)
  deriving DecidableEq, Repr

structure Session where
  root : Option String
  subscriptions : List Subscription
  deriving DecidableEq, Repr

structure Extension where
  config : Config
  fixer : Fixer
  store : IssueStore
  commands : List (String × Handler)
  providers : List ProviderEntry
  disposables : List (Option Undo)
  session : Option Session
  notices : List Notice
  deriving Repr

inductive HostFault where
  | active
  | taken (command : String)
  | unknown (command : String)
  deriving DecidableEq, Repr

def HostFault.message : HostFault → String
  | .active => "Extension is already initialised; call shutdown() first."
  | .taken name => "Command '" ++ name ++ "' is already registered."
  | .unknown name => "Unknown command '" ++ name ++ "'."

inductive DisposalFault where
  | notListed
  deriving DecidableEq, Repr

inductive Argument where
  | document (id : BufferId)
  | issue (i : Issue)
  | data (v : Json)
  deriving Repr

inductive Answer where
  | found (issues : Option IssueMap)
  | state (s : FixState)
  | fixed (name : String) (value : Json) (arguments : List Argument)
  deriving Repr

inductive CommandFault where
  | host (fault : HostFault)
  | lint (fault : LintFault)
  | shape (fault : ShapeFault)
  | fix (fault : FixFault)
  | arguments
  deriving DecidableEq, Repr

structure Ran (α : Type) where
  result : Except CommandFault α
  extension : Extension
  workspace : Workspace
  trace : Trace

def Ran.map {α β : Type} (f : α → β) (r : Ran α) : Ran β :=
  ⟨r.result.map f, r.extension, r.workspace, r.trace⟩

namespace Extension

def new (config : Config) : Extension :=
  { config := config
    fixer := ⟨config.client, .write true⟩
    store := .new toolName
    commands := []
    providers := []
    disposables := []
    session := none
    notices := [] }

def newWith (config : Config) (store : IssueStore) (fixer : Fixer) : Extension :=
  { new config with store := store, fixer := fixer }

def isActive (e : Extension) : Bool := e.session.isSome

def handler? (e : Extension) (name : String) : Option Handler :=
  (e.commands.find? fun c => c.1 = name).map Prod.snd

def notify (e : Extension) (level : NoticeLevel) (text : Letters) : Extension :=
  { e with notices := e.notices ++ [⟨level, text⟩] }

def addDisposable (e : Extension) (u : Undo) : DisposableId × Extension :=
  (e.disposables.length, { e with disposables := e.disposables ++ [some u] })

def registerCommand (e : Extension) (name : String) (h : Handler) : Except HostFault (DisposableId × Extension) :=
  if (e.handler? name).isSome then .error (.taken name)
  else .ok ({ e with commands := e.commands ++ [(name, h)] }.addDisposable (.command name))

def registerProvider (e : Extension) (s : Selector) (p : Provider := .fixes) : DisposableId × Extension :=
  let entry : ProviderEntry := ⟨s, p⟩
  { e with providers := e.providers ++ [entry] }.addDisposable (.provider entry)

def removeProvider? (r : ProviderEntry) : List ProviderEntry → Option (List ProviderEntry)
  | [] => none
  | p :: rest => if p.same r then some rest else (removeProvider? r rest).map (p :: ·)

def undo (e : Extension) : Undo → Except DisposalFault Extension
  | .clearStore => .ok { e with store := e.store.clear }
  | .command name => .ok { e with commands := e.commands.filter fun c => c.1 ≠ name }
  | .provider r =>
    match removeProvider? r e.providers with
    | some rest => .ok { e with providers := rest }
    | none => .error .notListed

def dispose (e : Extension) (id : DisposableId) : Except DisposalFault Unit × Extension :=
  match e.disposables[id]? with
  | some (some u) =>
    -- spent before it undoes anything, also where that fails
    let spent := { e with disposables := e.disposables.set id none }
    match spent.undo u with
    | .ok e => (.ok (), e)
    | .error f => (.error f, spent)
  | _ => (.ok (), e)

def disposeOwn (e : Extension) : Subscription → Except DisposalFault Unit × Extension
  | .own id => e.dispose id
  | .other _ _ => (.ok (), e)

def withSubscriptions (e : Extension) (subscriptions : List Subscription) : Extension :=
  { e with session := e.session.map fun t => { t with subscriptions := subscriptions } }

def subscribe (e : Extension) (s : Subscription) : Extension :=
  { e with session := e.session.map fun t => { t with subscriptions := t.subscriptions ++ [s] } }

def subscribeCommand (e : Extension) (name : String) (h : Handler) : Except HostFault Unit × Extension :=
  match e.registerCommand name h with
  | .error f => (.error f, e)
  | .ok (id, e) => (.ok (), e.subscribe (.own id))

def registerTool (e : Extension) : Except HostFault Unit × Extension :=
  match e.subscribeCommand checkCommand .check with
  | (.error f, e) => (.error f, e)
  | (.ok (), e) =>
    match e.subscribeCommand fixCommand .fix with
    | (.error f, e) => (.error f, e)
    | (.ok (), e) =>
      let (id, e) := e.registerProvider componentFiles
      (.ok (), e.subscribe (.own id))

def initIn (e : Extension) (s : Session) : Except HostFault Unit × Extension :=
  if e.isActive then (.error .active, e)
  else
    let (clearing, e) := { e with session := some s }.addDisposable .clearStore
    (e.subscribe (.own clearing)).registerTool

def init (e : Extension) (root : Option String) : Except HostFault Unit × Extension := e.initIn ⟨root, []⟩

def release (e : Extension) : List Subscription → Except DisposalFault Unit × Extension
  | [] => (.ok (), e)
  | last :: earlier =>
    match (e.withSubscriptions earlier.reverse).disposeOwn last with
    | (.ok (), e) => e.release earlier
    | (.error f, e) => (.error f, e)

def shutdown (e : Extension) : Except DisposalFault Unit × Extension :=
  match e.session with
  | none => (.ok (), e)
  | some s =>
    match e.release s.subscriptions.reverse with
    | (.ok (), e) => (.ok (), { e with session := none })
    | (.error f, e) => (.error f, e)

def root? (e : Extension) : Option String := (e.session.bind Session.root).filter (· ≠ "")

def noFolderText : String := "No workspace folder found!"

def runCheck (t : Surroundings) (w : Workspace) (e : Extension) : Ran (Option IssueMap) :=
  match e.root? with
  | none => ⟨.ok none, e.notify .error noFolderText, w, {}⟩
  | some root =>
    let (calls, results) := Lint.run w.files t.lint e.config.lintSettings root
    let trace : Trace := { calls := calls }
    match results with
    | .error f => ⟨.error (.lint f), e, w, trace⟩
    | .ok results =>
      match Findings.ofResults (.array results) with
      | .error f => ⟨.error (.shape f), e, w, trace⟩
      | .ok found => ⟨.ok (some found), { e with store := e.store.publish found }, w, trace⟩

def runFix (t : Surroundings) (w : Workspace) (e : Extension) (id : BufferId) (issue : Issue) : Ran FixState :=
  let run := FixRun.run t.send e.fixer id issue w
  { result := run.result.mapError .fix
    extension := { e with notices := e.notices ++ run.notices }
    workspace := run.workspace
    trace := { sent := run.sent, closed := run.closed } }

def executeFix (t : Surroundings) (w : Workspace) (e : Extension) (args : List Argument) : Ran FixState :=
  match args with
  | [.document id, .issue i] => e.runFix t w id i
  | [_, _] =>
    if e.fixer.client.apiKey.isEmpty then e.runFix t w 0 default
    else ⟨.error (.shape .noMembers), e, w, {}⟩
  | _ => ⟨.error .arguments, e, w, {}⟩

def execute (t : Surroundings) (w : Workspace) (e : Extension) (name : String) (args : List Argument) : Ran Answer :=
  match e.handler? name with
  | none => ⟨.error (.host (.unknown name)), e, w, {}⟩
  | some .check => if args.isEmpty then Ran.map .found (e.runCheck t w) else ⟨.error .arguments, e, w, {}⟩
  | some .fix => Ran.map .state (e.executeFix t w args)
  | some (.fixed name value) => ⟨.ok (.fixed name value args), e, w, {}⟩

def actions (w : Workspace) (e : Extension) (id : BufferId) (range : Range) : Except ShapeFault (List FixAction) := do
  let d := w.buffers[id]?.getD default
  let issues := e.store.issuesAt (.string d.path) range
  let offers ← e.providers.mapM fun r => do
    return if ← r.selector.accepts d then r.provider.offers id range issues else []
  return offers.flatten

end Extension

end AccessFix
