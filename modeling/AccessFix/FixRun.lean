import AccessFix.Completion
import AccessFix.Edit
import AccessFix.Reply

/-! One attempt to fix one issue: the issue's text as it is now goes to the model, and the code of the reply replaces it.
Every attempt that ends in a final state gives one notice. Nothing is tried twice. -/
namespace AccessFix

inductive FixState where
  | idle
  | credentialChecked
  | snippetExtracted
  | requestSent
  | responseParsed
  | missingCredential
  | requestFailed
  | noFixAvailable
  | fixApplied
  | applyFailed
  deriving DecidableEq, Repr

namespace FixState

def all : List FixState :=
  [.idle, .credentialChecked, .snippetExtracted, .requestSent, .responseParsed, .missingCredential, .requestFailed,
    .noFixAvailable, .fixApplied, .applyFailed]

def text : FixState → String
  | .idle => "idle"
  | .credentialChecked => "credential_checked"
  | .snippetExtracted => "snippet_extracted"
  | .requestSent => "request_sent"
  | .responseParsed => "response_parsed"
  | .missingCredential => "missing_credential"
  | .requestFailed => "request_failed"
  | .noFixAvailable => "no_fix_available"
  | .fixApplied => "fix_applied"
  | .applyFailed => "apply_failed"

def isFinal : FixState → Bool
  | .missingCredential | .requestFailed | .noFixAvailable | .fixApplied | .applyFailed => true
  | _ => false

end FixState

inductive NoticeLevel where
  | info
  | warning
  | error
  deriving DecidableEq, Repr

def NoticeLevel.name : NoticeLevel → String
  | .info => "info"
  | .warning => "warning"
  | .error => "error"

structure Notice where
  level : NoticeLevel
  text : Letters
  deriving DecidableEq, Repr

structure FixRequest where
  path : String
  range : Range
  snippet : Letters
  message : Json
  deriving Repr

structure Fixer where
  client : Client
  applier : Applier
  deriving DecidableEq, Repr

inductive FixFault where
  | position (fault : PositionFault)
  | write (fault : WriteFault)
  | breakdown (fault : Breakdown)
  | shape (fault : ShapeFault)
  deriving DecidableEq, Repr

structure FixRun where
  state : FixState
  request : Option FixRequest
  reply : Option Reply
  notices : List Notice
  session : List Completion.SessionEvent
  workspace : Workspace
  fault : Option FixFault
  deriving Repr

namespace FixRun

def prompt (snippet : Letters) : Letters :=
  "The following React code has an accessibility issue:\n---\n" ++ snippet
    ++ "\n---\nPlease provide a fixed version of this snippet (only the code), along with a brief explanation.\n"

def start (w : Workspace) : FixRun := ⟨.idle, none, none, [], [], w, none⟩

def sent (r : FixRun) : List Request :=
  r.session.filterMap fun
    | .sent q => some q
    | _ => none

def closed (r : FixRun) : Nat := r.session.count .closed

def result (r : FixRun) : Except FixFault FixState :=
  match r.fault with
  | some fault => .error fault
  | none => .ok r.state

def finish (r : FixRun) (state : FixState) (level : NoticeLevel) (text : Letters) : FixRun :=
  { r with state := state, notices := r.notices ++ [⟨level, text⟩] }

def escape (r : FixRun) (fault : FixFault) : FixRun := { r with fault := some fault }

def apply (a : Applier) (path : String) (buffer : BufferId) (range : Range) (reply : Reply) (r : FixRun) : FixRun :=
  let edit := WorkspaceEdit.replace path buffer ⟨range, reply.code⟩ .empty
  match a.run edit r.workspace with
  | (.ok (), w) =>
    let note : Letters := if reply.explanation.isEmpty then "AI fix applied."
      else "AI fix applied. Explanation: " ++ reply.explanation
    { r with workspace := w }.finish .fixApplied .info note
  | (.error (.position .notInteger), w) => { r with workspace := w }.escape (.position .notInteger)
  | (.error (.unusable f), w) => { r with workspace := w }.escape (.write f)
  | (.error f, w) => { r with workspace := w }.finish .applyFailed .error ("Failed to apply AI fix: " ++ f.message)

def useReply (a : Applier) (path : String) (buffer : BufferId) (range : Range) (text : Letters) (r : FixRun) : FixRun :=
  let reply := Reply.ofText text
  let r := { r with reply := some reply, state := .responseParsed }
  if reply.code.isEmpty then r.finish .noFixAvailable .warning "No fix was returned by the AI."
  else r.apply a path buffer range reply

def run (send : Request → Delivery) (f : Fixer) (buffer : BufferId) (issue : Issue) (w : Workspace) : FixRun :=
  let r := start w
  if f.client.apiKey.isEmpty then
    r.finish .missingCredential .error "OPENAI_API_KEY environment variable not set."
  else
    let r := { r with state := .credentialChecked }
    let d := w.buffers[buffer]?.getD default
    match d.read issue.range with
    | .error fault => r.escape (.position fault)
    | .ok snippet =>
      let (session, outcome) := Completion.completeInSession send f.client Completion.systemPrompt (prompt snippet)
      let r := { r with
        request := some ⟨d.path, issue.range, snippet, issue.message⟩
        state := .requestSent, session := session }
      match outcome with
      | .shape fault => r.escape (.shape fault)
      | .breakdown fault => r.escape (.breakdown fault)
      | .fault fault => r.finish .requestFailed .error ("Failed to get AI fix: " ++ fault.message)
      | .text text => r.useReply f.applier d.path buffer issue.range text

end FixRun

end AccessFix
