import AccessFix.FixRun
import AccessFix.Proofs.Completion
import AccessFix.Proofs.Edit.Single
import AccessFix.Proofs.Text.Encoding

/-! Runs of the fix pipeline: how an attempt can end, what it changes, what a run of any client leaves of the workspace, and
when an attempt ends as it is meant to. -/
namespace AccessFix
open WorkspaceEdit Document

def Fixer.standard (key : Letters) : Fixer := ⟨{ apiKey := key }, .write true⟩

namespace FixRun

/-! Attempts of a default client that writes its fixes. Every attempt is one of a few: it stops at the key, at the range, at
the exchange, at the reply or at the edit, or it is applied. What holds of all attempts is read off these. -/

def asked (d : Document) (issue : Issue) (snippet : Letters) (session : List Completion.SessionEvent) (w : Workspace) :
    FixRun :=
  { start w with
    state := .requestSent
    request := some ⟨d.path, issue.range, snippet, issue.message⟩
    session := session }

def replied (text : Letters) (r : FixRun) : FixRun :=
  { r with state := .responseParsed, reply := some (Reply.ofText text) }

def fixOf {w : Workspace} (b : Fin w.buffers.length) (range : Range) (text : Letters) : Replacement w.buffers :=
  ⟨b, ⟨range, (Reply.ofText text).code⟩⟩

theorem fixOpened {w : Workspace} (b : Fin w.buffers.length) {range : Range} {text : Letters} :
    w.buffers[(fixOf b range text).group.buffer]? = some w.buffers[b] := by
  simp [Replacement.group, fixOf]

inductive Escaping : EditFault → FixFault → Prop where
  | notInteger : Escaping (.position .notInteger) (.position .notInteger)
  | unusable (f : WriteFault) : Escaping (.unusable f) (.write f)

variable {send : Request → Delivery} {key : Letters} {w : Workspace} {b : Fin w.buffers.length} {issue : Issue}

structure Exchange (send : Request → Delivery) (key : Letters) (b : Fin w.buffers.length) (issue : Issue)
    (snippet : Letters) (session : List Completion.SessionEvent) (outcome : Completion.Outcome) : Prop where
  present : key ≠ []
  read : w.buffers[b].read issue.range = .ok snippet
  exchanged : Completion.completeInSession send { apiKey := key } Completion.systemPrompt (prompt snippet) =
    (session, outcome)

inductive Attempt (send : Request → Delivery) (key : Letters) (b : Fin w.buffers.length) (issue : Issue) :
    FixRun → Prop where
  | noKey (empty : key = []) :
      Attempt send key b issue
        ((start w).finish .missingCredential .error "OPENAI_API_KEY environment variable not set.")
  | unread {f : PositionFault} (present : key ≠ []) (failed : w.buffers[b].read issue.range = .error f) :
      Attempt send key b issue ({ start w with state := .credentialChecked }.escape (.position f))
  | broken {snippet session outcome} {f : FixFault} (exchange : Exchange send key b issue snippet session outcome)
      (irregular : ¬outcome.Regular) :
      Attempt send key b issue ((asked w.buffers[b] issue snippet session w).escape f)
  | unanswered {snippet session f} (exchange : Exchange send key b issue snippet session (.fault f)) :
      Attempt send key b issue ((asked w.buffers[b] issue snippet session w).finish .requestFailed .error
        ("Failed to get AI fix: " ++ f.message))
  | noCode {snippet session text} (exchange : Exchange send key b issue snippet session (.text text))
      (empty : (Reply.ofText text).code = []) :
      Attempt send key b issue (((asked w.buffers[b] issue snippet session w).replied text).finish .noFixAvailable
        .warning "No fix was returned by the AI.")
  | escaped {snippet session text} {f : EditFault} {e : FixFault} {w' : Workspace}
      (exchange : Exchange send key b issue snippet session (.text text)) (code : (Reply.ofText text).code ≠ [])
      (ended : SingleEnd w (fixOf b issue.range text) (.error f, w')) (escaping : Escaping f e) :
      Attempt send key b issue
        ({ (asked w.buffers[b] issue snippet session w).replied text with workspace := w' }.escape e)
  | unapplied {snippet session text} {f : EditFault}
      (exchange : Exchange send key b issue snippet session (.text text)) (code : (Reply.ofText text).code ≠ [])
      (ended : SingleEnd w (fixOf b issue.range text) (.error f, w)) (caught : ∀ e, ¬Escaping f e) :
      Attempt send key b issue (((asked w.buffers[b] issue snippet session w).replied text).finish .applyFailed .error
        ("Failed to apply AI fix: " ++ f.message))
  | applied {snippet session text} {note : Letters} {w' : Workspace}
      (exchange : Exchange send key b issue snippet session (.text text)) (code : (Reply.ofText text).code ≠ [])
      (ended : SingleEnd w (fixOf b issue.range text) (.ok (), w')) :
      Attempt send key b issue
        ({ (asked w.buffers[b] issue snippet session w).replied text with workspace := w' }.finish .fixApplied .info
          note)

theorem failedSame {r : Replacement w.buffers} {f : EditFault} {w' : Workspace}
    (ended : SingleEnd w r (.error f, w')) (coded : ∀ e, f ≠ .unusable (.encoding e)) : w' = w := by
  cases ended with
  | unencodable => exact absurd rfl (coded _)
  | _ => rfl

theorem applyAttempt {snippet : Letters} {session : List Completion.SessionEvent} {text : Letters}
    (exchange : Exchange send key b issue snippet session (.text text))
    (code : (Reply.ofText text).code ≠ []) :
    Attempt send key b issue (FixRun.apply (.write true) w.buffers[b].path b issue.range (Reply.ofText text)
      ((asked w.buffers[b] issue snippet session w).replied text)) := by
  have ended := applySingle (fixOf b issue.range text)
  generalize result : (collect [fixOf b issue.range text]).apply true w = out at ended
  have ran : Applier.run (.write true)
      (WorkspaceEdit.replace w.buffers[b].path b ⟨issue.range, (Reply.ofText text).code⟩ .empty)
      ((asked w.buffers[b] issue snippet session w).replied text).workspace = out := result
  simp only [FixRun.apply, ran]
  split
  · exact .applied exchange code ended
  · exact .escaped exchange code ended .notInteger
  · exact .escaped exchange code ended (.unusable _)
  · rename_i notInteger notUnusable
    obtain rfl := failedSame ended fun e => notUnusable (.encoding e)
    refine .unapplied exchange code ended ?_
    rintro e (_ | f)
    · exact notInteger rfl
    · exact notUnusable f rfl

def conclude (a : Applier) (path : String) (buffer : BufferId) (range : Range) (r : FixRun) : Completion.Outcome → FixRun
  | .shape f => r.escape (.shape f)
  | .breakdown f => r.escape (.breakdown f)
  | .fault f => r.finish .requestFailed .error ("Failed to get AI fix: " ++ f.message)
  | .text text => r.useReply a path buffer range text

theorem openedDefault : w.buffers[(b : Nat)]?.getD default = w.buffers[b] := by simp

theorem runNoKey {f : Fixer} (empty : f.client.apiKey = []) : run send f b issue w =
    (start w).finish .missingCredential .error "OPENAI_API_KEY environment variable not set." := by
  simp only [run, empty, List.isEmpty_nil, if_true]

theorem runUnread {f : Fixer} (present : f.client.apiKey ≠ []) {fault : PositionFault}
    (failed : w.buffers[b].read issue.range = .error fault) :
    run send f b issue w = { start w with state := .credentialChecked }.escape (.position fault) := by
  simp only [run, List.isEmpty_iff, present, if_false, openedDefault, failed]

theorem runRead {f : Fixer} (present : f.client.apiKey ≠ []) {snippet session outcome}
    (read : w.buffers[b].read issue.range = .ok snippet)
    (exchanged : Completion.completeInSession send f.client Completion.systemPrompt (prompt snippet) =
      (session, outcome)) :
    run send f b issue w =
      (asked w.buffers[b] issue snippet session w).conclude f.applier w.buffers[b].path b issue.range outcome := by
  simp only [run, List.isEmpty_iff, present, if_false, openedDefault, read, exchanged]
  cases outcome <;> rfl

theorem runExchange {snippet session outcome} (exchange : Exchange send key b issue snippet session outcome) :
    run send (.standard key) b issue w =
      (asked w.buffers[b] issue snippet session w).conclude (.write true) w.buffers[b].path b issue.range outcome :=
  runRead exchange.present exchange.read exchange.exchanged

theorem concludeAttempt {snippet session outcome} (exchange : Exchange send key b issue snippet session outcome) :
    Attempt send key b issue
      ((asked w.buffers[b] issue snippet session w).conclude (.write true) w.buffers[b].path b issue.range outcome) := by
  cases outcome with
  | shape f => exact .broken exchange id
  | breakdown f => exact .broken exchange id
  | fault f => exact .unanswered exchange
  | text text =>
    simp only [conclude, useReply]
    split
    · rename_i none
      exact .noCode exchange (List.isEmpty_iff.mp none)
    · rename_i some
      exact applyAttempt exchange (by simpa using some)

theorem runAttempt (send : Request → Delivery) (key : Letters) (b : Fin w.buffers.length) (issue : Issue) :
    Attempt send key b issue (run send (.standard key) b issue w) := by
  by_cases empty : key = []
  · rw [runNoKey (f := .standard key) empty]
    exact .noKey empty
  · cases read : w.buffers[b].read issue.range with
    | error f =>
      rw [runUnread (f := .standard key) empty read]
      exact .unread empty read
    | ok snippet =>
      have exchange : Exchange send key b issue snippet _ _ := ⟨empty, read, rfl⟩
      rw [runExchange exchange]
      exact concludeAttempt exchange

/-! What an exchange gives. -/

def requestOf (key : Letters) (snippet : Letters) : Request :=
  Completion.defaultRequest key Completion.systemPrompt (prompt snippet)

theorem exchangeCases {snippet session outcome} (exchange : Exchange send key b issue snippet session outcome) :
    (session = [.opened, .closed] ∧ ∃ f, outcome = .fault f) ∨
      (session = [.opened, .sent (requestOf key snippet), .closed] ∧
        outcome = Completion.outcome { apiKey := key } (send (requestOf key snippet))) := by
  have exchanged := exchange.exchanged
  cases fits : Completion.isHeaderValue ("Bearer " ++ key) with
  | false =>
    obtain ⟨f, unsent⟩ := Completion.sessionUnfit Completion.systemPrompt (prompt snippet) send fits
    rw [unsent, Prod.mk.injEq] at exchanged
    exact .inl ⟨exchanged.1.symm, f, exchanged.2.symm⟩
  | true =>
    rw [Completion.sessionFits send fits, Prod.mk.injEq] at exchanged
    exact .inr ⟨exchanged.1.symm, exchanged.2.symm⟩

/-! What attempts change, and what they do to their sessions. A fix that is applied replaces what was shown to the model, in
the document and in its file. An attempt whose new text has no encoding empties that file; every other leaves documents
and files as they were. -/

theorem resultApplied {r : FixRun} : r.result = .ok .fixApplied ↔ r.fault = none ∧ r.state = .fixApplied := by
  simp only [result]
  split <;> simp_all

/-- What makes a run one whose write was begun and had no octets to put. -/
structure Truncated (b : Fin w.buffers.length) (r : FixRun) : Prop where
  uncoded : ∃ text f, Text.Codec.utf8.encode text = .error f ∧ r.result = .error (.write (.encoding f))
  emptied : ∃ route, Files.Target w.files (Path.normal w.buffers[b].path) route ∧
    r.workspace = { w with files := w.files.holding route [] }

theorem endTruncated {range : Range} {text : Letters} {f : Text.Unencodable} {w' : Workspace}
    (ended : SingleEnd w (fixOf b range text) (.error (.unusable (.encoding f)), w')) (r : FixRun) :
    Truncated b ({ r with workspace := w' }.escape (.write (.encoding f))) := by
  cases ended with
  | unencodable _ leads _ uncoded => exact ⟨⟨_, f, uncoded, rfl⟩, _, leads, rfl⟩
  | rejected failed => cases EditGroup.newTextEarly failed

theorem attemptKeeps {r : FixRun} (attempt : Attempt send key b issue r) (unapplied : r.result ≠ .ok .fixApplied) :
    r.workspace = w ∨ Truncated b r := by
  cases attempt with
  | applied => exact absurd (resultApplied.mpr ⟨rfl, rfl⟩) unapplied
  | escaped _ _ ended escaping =>
    cases escaping with
    | notInteger => exact .inl (failedSame ended fun _ => nofun)
    | unusable f =>
      cases f with
      | file f => exact .inl (failedSame ended fun _ => nofun)
      | encoding f => exact .inr (endTruncated ended _)
  | _ => exact .inl rfl

theorem attemptSession {r : FixRun} (attempt : Attempt send key b issue r) :
    (r.session = [] ∨ r.session = [.opened, .closed] ∨ ∃ q, r.session = [.opened, .sent q, .closed]) ∧
      (key = [] → r.session = []) := by
  have exchanged : ∀ {snippet session outcome}, Exchange send key b issue snippet session outcome →
      (session = [] ∨ session = [.opened, .closed] ∨ ∃ q, session = [.opened, .sent q, .closed]) ∧
        (key = [] → session = []) := by
    intro snippet session outcome exchange
    refine ⟨.inr ?_, fun empty => absurd empty exchange.present⟩
    exact (exchangeCases exchange).imp And.left fun answered => ⟨_, answered.1⟩
  cases attempt with
  | noKey => exact ⟨.inl rfl, fun _ => rfl⟩
  | unread => exact ⟨.inl rfl, fun _ => rfl⟩
  | broken exchange | unanswered exchange | noCode exchange => exact exchanged exchange
  | escaped exchange | unapplied exchange | applied exchange => exact exchanged exchange

/-- What makes an attempt one that has put the code of its reply in place of what it has shown, in the document and in its
file, and has changed nothing else. -/
structure Fixed (key : Letters) (b : Fin w.buffers.length) (issue : Issue) (r : FixRun) (first last : Nat)
    (text : Letters) : Prop where
  covers : Covers w.buffers[b] issue.range first last
  shown : ∃ q, r.sent = [q] ∧ q.body = Json.print Json.compactAscii (Completion.payload { apiKey := key }
    Completion.systemPrompt (prompt (slice w.buffers[b].text first last)))
  spliced : ∃ reply, r.reply = some reply ∧ reply.code ≠ [] ∧
    text = w.buffers[b].text.take first ++ reply.code ++ w.buffers[b].text.drop last
  buffer : r.workspace.buffers[(b : Nat)]? = some { w.buffers[b] with text := text }
  otherBuffers : ∀ id, id ≠ (b : Nat) → r.workspace.buffers[id]? = w.buffers[id]?
  file : ∃ octets, Text.Codec.utf8.encode text = .ok octets ∧
    r.workspace.files.read (Path.normal w.buffers[b].path) = .ok octets
  otherFiles : ∀ route, route ≠ Path.resolve w.files.here w.buffers[b].path →
    r.workspace.files.node? route = w.files.node? route

theorem attemptFixed {r : FixRun} (attempt : Attempt send key b issue r) (applied : r.result = .ok .fixApplied) :
    ∃ first last text, Fixed key b issue r first last text := by
  cases attempt with
  | @applied snippet session reply note w' exchange code ended =>
    cases ended with
    | @applied first last route text octets covers leads spliced coded =>
      have shown : snippet = slice w.buffers[b].text first last :=
        Except.ok.inj (exchange.read.symm.trans (readCovers covers))
      have written : w.files.write (Path.normal w.buffers[b].path) octets = .ok (w.files.holding route octets) :=
        Files.writeOk.mpr ⟨route, leads, rfl⟩
      refine ⟨first, last, text, covers, ?_, ⟨Reply.ofText reply, rfl, code, spliced⟩, ?_, ?_,
        ⟨octets, coded, Files.readWritten written⟩, ?_⟩
      · rcases exchangeCases exchange with ⟨_, f, failed⟩ | ⟨rfl, _⟩
        · cases failed
        · exact ⟨requestOf key snippet, rfl, by rw [← shown]; rfl⟩
      · exact (List.getElem?_modify_eq _ _ _).trans (by simp [fixOf])
      · intro id other
        exact List.getElem?_modify_ne _ _ (Ne.symm other)
      · intro other differ
        have apart : other ≠ route := fun same => differ (same.trans leads.resolved)
        exact (Files.nodeHolding leads.routeNamed _ other).trans (if_neg apart)
  | _ => cases applied

theorem runChanges (send : Request → Delivery) (key : Letters) (b : Fin w.buffers.length) (issue : Issue) :
    let r := run send (.standard key) b issue w
    (r.result ≠ .ok .fixApplied → r.workspace = w ∨ Truncated b r) ∧
      (r.result = .ok .fixApplied → ∃ first last text, Fixed key b issue r first last text) ∧
      (r.session = [] ∨ r.session = [.opened, .closed] ∨ ∃ q, r.session = [.opened, .sent q, .closed]) ∧
      (key = [] → r.session = []) := by
  intro r
  have attempt : Attempt send key b issue r := runAttempt send key b issue
  exact ⟨attemptKeeps attempt, attemptFixed attempt, attemptSession attempt⟩

/-! What a run of any client that writes its fixes leaves of the workspace: all of it, or all of it but the document of the
run and its file. -/

inductive Effect (b : Fin w.buffers.length) (r : FixRun) : Prop where
  | none (unapplied : r.result ≠ .ok .fixApplied) (same : r.workspace = w) : Effect b r
  | truncated (truncated : Truncated b r) : Effect b r
  | written (fix : Replacement w.buffers) (document : fix.document = b) (applied : r.result = .ok .fixApplied)
      (ended : SingleEnd w fix (.ok (), r.workspace)) : Effect b r

theorem unapplied {r : FixRun} (other : r.fault ≠ none ∨ r.state ≠ .fixApplied) : r.result ≠ .ok .fixApplied := by
  rw [ne_eq, resultApplied, not_and_or]
  exact other

theorem applyEffect {range : Range} {text : Letters} {r : FixRun} (here : r.workspace = w) (whole : r.fault = none) :
    Effect b (r.apply (.write true) w.buffers[b].path b range (Reply.ofText text)) := by
  have ended := applySingle (fixOf b range text)
  generalize result : (collect [fixOf b range text]).apply true w = out at ended
  have ran : Applier.run (.write true)
      (WorkspaceEdit.replace w.buffers[b].path b ⟨range, (Reply.ofText text).code⟩ .empty) r.workspace = out := by
    rw [here]
    exact result
  simp only [FixRun.apply, ran]
  split
  · exact .written (fixOf b range text) rfl (resultApplied.mpr ⟨whole, rfl⟩) ended
  · exact .none (unapplied (.inl (by simp [escape]))) (failedSame ended fun _ => nofun)
  · rename_i fault _
    cases fault with
    | file f => exact .none (unapplied (.inl (by simp [escape]))) (failedSame ended fun _ => nofun)
    | encoding f => exact .truncated (endTruncated ended _)
  · rename_i notUnusable
    exact .none (unapplied (.inr (by simp [finish]))) (failedSame ended fun e => notUnusable (.encoding e))

theorem concludeEffect {range : Range} {r : FixRun} (here : r.workspace = w) (whole : r.fault = none)
    (outcome : Completion.Outcome) : Effect b (r.conclude (.write true) w.buffers[b].path b range outcome) := by
  cases outcome with
  | shape f => exact .none (unapplied (.inl (by simp [conclude, escape]))) here
  | breakdown f => exact .none (unapplied (.inl (by simp [conclude, escape]))) here
  | fault f => exact .none (unapplied (.inr (by simp [conclude, finish]))) here
  | text text =>
    simp only [conclude, useReply]
    split
    · exact .none (unapplied (.inr (by simp [finish]))) here
    · exact applyEffect here whole

theorem runEffect (send : Request → Delivery) {f : Fixer} (writes : f.applier = .write true) (b : Fin w.buffers.length)
    (issue : Issue) : Effect b (run send f b issue w) := by
  by_cases empty : f.client.apiKey = []
  · rw [runNoKey empty]
    exact .none (unapplied (.inr (by simp [finish]))) rfl
  · cases read : w.buffers[b].read issue.range with
    | error fault =>
      rw [runUnread empty read]
      exact .none (unapplied (.inl (by simp [escape]))) rfl
    | ok snippet =>
      rw [runRead empty read (Prod.ext rfl rfl), writes]
      exact concludeEffect (by rfl) (by rfl) _

/-! Attempts that end as they are meant to: in a final state, with one notice of the level for it. A range with a negative
coordinate, an answer that is not understood, a path that holds the character zero and a new text without an encoding break
attempts off, and nothing else does. -/

def levelOf : FixState → NoticeLevel
  | .fixApplied => .info
  | .noFixAvailable => .warning
  | _ => .error

structure Settled (r : FixRun) : Prop where
  returned : r.result = .ok r.state
  final : r.state.isFinal = true
  told : r.notices.map Notice.level = [levelOf r.state]

def Writes (files : Files) (d : Document) (range : Range) (code : Letters) : Prop :=
  ∀ first last, Covers d range first last → ¬Path.HasZero d.path ∧
    ∀ route, Files.Target files (Path.normal d.path) route →
      Text.Encodable (d.text.take first ++ code ++ d.text.drop last)

structure Contained (key : Letters) (files : Files) (d : Document) (range : Range) (answer : Delivery) : Prop where
  understood : Completion.Understood answer
  writes : ∀ text, Completion.outcome { apiKey := key } answer = .text text → (Reply.ofText text).code ≠ [] →
    Writes files d range (Reply.ofText text).code

theorem settledFinish {r : FixRun} {state : FixState} {text : Letters} (whole : r.fault = none) (quiet : r.notices = [])
    (final : state.isFinal = true) : Settled (r.finish state (levelOf state) text) :=
  ⟨by simp [result, finish, whole], final, by simp [finish, quiet]⟩

theorem settledHeard {r : FixRun} (settled : Settled r) (unapplied : r.result ≠ .ok .fixApplied) :
    ∀ n ∈ r.notices, n.level ≠ .info := by
  intro n mem info
  have level := List.mem_map_of_mem (f := Notice.level) mem
  rw [settled.told, List.mem_singleton, info] at level
  have state : r.state = .fixApplied := by
    cases kind : r.state <;> simp [kind, levelOf] at level
    rfl
  exact unapplied (settled.returned.trans (by rw [state]))

theorem escapeUnsettled {r : FixRun} {f : FixFault} : ¬Settled (r.escape f) := by
  intro settled
  have returned := settled.returned
  simp [result, escape] at returned

theorem exchangeSent {snippet session outcome} (exchange : Exchange send key b issue snippet session outcome)
    {r : FixRun} (same : r.session = session) :
    (r.sent = [] ∧ ∃ f, outcome = .fault f) ∨ (r.sent = [requestOf key snippet] ∧
      outcome = Completion.outcome { apiKey := key } (send (requestOf key snippet))) := by
  rcases exchangeCases exchange with ⟨rfl, failed⟩ | ⟨rfl, answered⟩
  · exact .inl ⟨by simp [sent, same], failed⟩
  · exact .inr ⟨by simp [sent, same], answered⟩

def Outlived (files : Files) (d : Document) (range : Range) (outcome : Completion.Outcome) : Prop :=
  outcome.Regular ∧ ∀ text, outcome = .text text → (Reply.ofText text).code ≠ [] →
    Writes files d range (Reply.ofText text).code

theorem exchangeContained {snippet session outcome} (exchange : Exchange send key b issue snippet session outcome)
    {r : FixRun} (same : r.session = session) :
    (∀ q ∈ r.sent, Contained key w.files w.buffers[b] issue.range (send q)) ↔ Outlived w.files w.buffers[b] issue.range outcome := by
  rcases exchangeSent exchange same with ⟨nothing, f, rfl⟩ | ⟨one, rfl⟩
  · simp [nothing, Outlived, Completion.Outcome.Regular]
  · rw [one, List.forall_mem_singleton, Outlived, Completion.outcomeRegular]
    exact ⟨fun contained => ⟨contained.understood, contained.writes⟩, fun met => ⟨met.1, met.2⟩⟩

theorem attemptOutlived {r : FixRun} {snippet session outcome}
    (exchange : Exchange send key b issue snippet session outcome) (same : r.session = session)
    (outlived : Settled r ↔ Outlived w.files w.buffers[b] issue.range outcome) :
    Settled r ↔ key = [] ∨ (∃ snippet, w.buffers[b].read issue.range = .ok snippet) ∧
      ∀ q ∈ r.sent, Contained key w.files w.buffers[b] issue.range (send q) := by
  have read : ∃ snippet, w.buffers[b].read issue.range = .ok snippet := ⟨snippet, exchange.read⟩
  simp only [outlived, exchangeContained exchange same, exchange.present, read, true_and, false_or]

theorem appliedWrites {range : Range} {text : Letters} {w' : Workspace}
    (ended : SingleEnd w (fixOf b range text) (.ok (), w')) : Writes w.files w.buffers[b] range (Reply.ofText text).code := by
  intro first last covers
  cases ended with
  | applied placed leads spliced coded =>
    obtain ⟨rfl, rfl⟩ := coversUnique covers placed
    refine ⟨leads.plain, fun _ _ => ?_⟩
    rw [spliced] at coded
    exact (Text.encodeOk.mp coded).1

theorem caughtWrites {range : Range} {text : Letters} {w' : Workspace} {f : EditFault}
    (ended : SingleEnd w (fixOf b range text) (.error f, w')) (caught : ∀ e, ¬Escaping f e) :
    Writes w.files w.buffers[b] range (Reply.ofText text).code := by
  intro first last covers
  cases ended with
  | rejected failed =>
    rw [(newTextSingle (fixOpened b) rfl).mpr ⟨first, last, covers, rfl⟩] at failed
    cases failed
  | refused _ plain blocked => exact ⟨plain, fun route leads => absurd leads (blocked route)⟩
  | unusable | unencodable => exact absurd (.unusable _) (caught _)

theorem escapingUnwritten {range : Range} {text : Letters} {w' : Workspace} {f : EditFault} {e : FixFault}
    {line character line' character' : Int} (ints : range = ⟨.ofInts line character, .ofInts line' character'⟩)
    (ended : SingleEnd w (fixOf b range text) (.error f, w')) (escaping : Escaping f e) :
    ¬Writes w.files w.buffers[b] range (Reply.ofText text).code := by
  intro writes
  cases escaping with
  | notInteger =>
    cases ended with
    | rejected failed => exact newTextInts (fixOpened b) (by rw [← ints]; rfl) failed rfl
  | unusable f =>
    cases ended with
    | rejected failed => cases EditGroup.newTextEarly failed
    | unusable covers zero => exact (writes _ _ covers).1 zero
    | unencodable covers leads spliced uncoded => exact Text.encodeFails uncoded (spliced ▸ (writes _ _ covers).2 _ leads)

theorem attemptSettles {r : FixRun} {line character line' character' : Int}
    (ints : issue.range = ⟨.ofInts line character, .ofInts line' character'⟩) (attempt : Attempt send key b issue r) :
    Settled r ↔ key = [] ∨ (∃ snippet, w.buffers[b].read issue.range = .ok snippet) ∧
      ∀ q ∈ r.sent, Contained key w.files w.buffers[b] issue.range (send q) := by
  cases attempt with
  | noKey empty =>
    simp only [empty, true_or, iff_true]
    exact settledFinish rfl rfl rfl
  | unread present failed =>
    refine iff_of_false escapeUnsettled ?_
    rintro (empty | ⟨⟨snippet, read⟩, _⟩)
    · exact present empty
    · rw [failed] at read
      contradiction
  | broken exchange irregular =>
    refine attemptOutlived exchange rfl ?_
    simp [escapeUnsettled, Outlived, irregular]
  | unanswered exchange =>
    refine attemptOutlived exchange rfl (iff_of_true (settledFinish rfl rfl rfl) ?_)
    simp [Outlived, Completion.Outcome.Regular]
  | noCode exchange empty =>
    refine attemptOutlived exchange rfl (iff_of_true (settledFinish rfl rfl rfl) ?_)
    refine ⟨trivial, fun text same code => ?_⟩
    cases same
    exact absurd empty code
  | escaped exchange code ended escaping =>
    refine attemptOutlived exchange rfl (iff_of_false escapeUnsettled fun outlived => ?_)
    exact escapingUnwritten ints ended escaping (outlived.2 _ rfl code)
  | unapplied exchange code ended caught =>
    refine attemptOutlived exchange rfl (iff_of_true (settledFinish rfl rfl rfl) ⟨trivial, fun text same _ => ?_⟩)
    cases same
    exact caughtWrites ended caught
  | applied exchange code ended =>
    refine attemptOutlived exchange rfl (iff_of_true (settledFinish rfl rfl rfl) ⟨trivial, fun text same _ => ?_⟩)
    cases same
    exact appliedWrites ended

def objectAnswer : Delivery :=
  .answered 200 (some "OK") (Text.Utf8.encode
    (Json.print Json.compactAscii (.object [("choices", .object [("a", .ofInt 1)])])).chars)

def plainDesk : Workspace where
  files := { nodes := [(["p"], .folder)], here := ["p"] }
  buffers := [⟨"/p/a", "x", "plaintext", "file"⟩]

def plainIssue : Issue where
  file := .string "/p/a"
  range := ⟨.ofInts 0 0, .ofInts 0 1⟩
  message := .string "m"
  severity := .error
  source := toolName
  code := .string fallbackCode

theorem objectExchange : Exchange (fun _ => objectAnswer) "k" (⟨0, Nat.zero_lt_one⟩ : Fin plainDesk.buffers.length)
    plainIssue "x" [.opened, .sent (requestOf "k" "x"), .closed] (.shape .missingMember) where
  present := by decide
  read := by decide
  exchanged := by
    have fits : Completion.isHeaderValue ("Bearer " ++ "k") = true := by decide
    have meaning : Completion.outcome { apiKey := "k" } objectAnswer = .shape .missingMember := by decide +kernel
    rw [Completion.sessionFits _ fits, meaning]
    rfl

def Whole (range : Range) : Prop :=
  ∃ line character line' character' : Int, range = ⟨.ofInts line character, .ofInts line' character'⟩

inductive RunEnd (d : Document) (range : Range) (r : FixRun) : Prop where
  | settled (settled : Settled r) : RunEnd d range r
  | broken (fault : FixFault) (returned : r.result = .error fault) (silent : r.notices = [])
      (elsewhere : Whole range → (∃ snippet, d.read range = .ok snippet) → ∀ p, fault ≠ .position p)
      (unasked : ∀ f, fault = .write (.file f) → f.fault.isRefusal = false) : RunEnd d range r

theorem applyEnds {range : Range} {text : Letters} {r : FixRun} (here : r.workspace = w) (whole : r.fault = none)
    (quiet : r.notices = []) :
    RunEnd w.buffers[b] range (r.apply (.write true) w.buffers[b].path b range (Reply.ofText text)) := by
  have ended := applySingle (fixOf b range text)
  generalize result : (collect [fixOf b range text]).apply true w = out at ended
  have ran : Applier.run (.write true)
      (WorkspaceEdit.replace w.buffers[b].path b ⟨range, (Reply.ofText text).code⟩ .empty) r.workspace = out := by
    rw [here]
    exact result
  simp only [FixRun.apply, ran]
  split
  · exact .settled (settledFinish whole quiet rfl)
  · refine .broken _ rfl quiet (fun ints _ => ?_) fun _ same => nomatch same
    obtain ⟨line, character, line', character', ints⟩ := ints
    cases ended with
    | rejected failed => exact absurd rfl (newTextInts (fixOpened b) (by rw [← ints]; rfl) failed)
  · refine .broken _ rfl quiet (fun _ _ p same => nomatch same) fun f same => ?_
    cases same
    cases ended with
    | rejected failed => cases EditGroup.newTextEarly failed
    | unusable _ _ unasked => exact unasked
  · exact .settled (settledFinish whole quiet rfl)

theorem concludeEnds {range : Range} {r : FixRun} (here : r.workspace = w) (whole : r.fault = none) (quiet : r.notices = [])
    (outcome : Completion.Outcome) :
    RunEnd w.buffers[b] range (r.conclude (.write true) w.buffers[b].path b range outcome) := by
  cases outcome with
  | shape f => exact .broken _ rfl quiet (fun _ _ p same => nomatch same) fun _ same => nomatch same
  | breakdown f => exact .broken _ rfl quiet (fun _ _ p same => nomatch same) fun _ same => nomatch same
  | fault f => exact .settled (settledFinish whole quiet rfl)
  | text text =>
    simp only [conclude, useReply]
    split
    · exact .settled (settledFinish whole quiet rfl)
    · exact applyEnds here whole quiet

theorem runEnds (send : Request → Delivery) {f : Fixer} (writes : f.applier = .write true) (b : Fin w.buffers.length)
    (issue : Issue) : RunEnd w.buffers[b] issue.range (run send f b issue w) := by
  by_cases empty : f.client.apiKey = []
  · rw [runNoKey empty]
    exact .settled (settledFinish rfl rfl rfl)
  · cases read : w.buffers[b].read issue.range with
    | error fault =>
      rw [runUnread empty read]
      refine .broken _ rfl rfl (fun _ readable => ?_) fun _ same => nomatch same
      obtain ⟨snippet, readable⟩ := readable
      rw [read] at readable
      cases readable
    | ok snippet =>
      rw [runRead empty read (Prod.ext rfl rfl), writes]
      exact concludeEnds (by rfl) (by rfl) (by rfl) _

/-! What is told of a fix that is applied. -/

theorem concludeTold {path : String} {buffer : BufferId} {range : Range} {r : FixRun} {outcome : Completion.Outcome}
    {a : Applier} (quiet : r.notices = [])
    (applied : (r.conclude a path buffer range outcome).result = .ok .fixApplied) :
    ∃ reply, (r.conclude a path buffer range outcome).reply = some reply ∧
      ∃ head : String, (r.conclude a path buffer range outcome).notices = [⟨.info, head ++ reply.explanation⟩] := by
  cases outcome with
  | shape f => cases applied
  | breakdown f => cases applied
  | fault f => cases (resultApplied.mp applied).2
  | text text =>
    simp only [conclude, useReply] at applied ⊢
    split at applied
    · cases (resultApplied.mp applied).2
    · rename_i code
      rw [if_neg code]
      simp only [FixRun.apply] at applied ⊢
      split at applied
      · rename_i ran
        simp only [finish, quiet, List.nil_append]
        refine ⟨_, rfl, ?_⟩
        split
        · rename_i none
          refine ⟨"AI fix applied.", ?_⟩
          rw [List.isEmpty_iff.mp none, List.append_nil]
        · exact ⟨"AI fix applied. Explanation: ", rfl⟩
      · cases applied
      · cases applied
      · cases (resultApplied.mp applied).2

theorem runTold {f : Fixer} (applied : (run send f b issue w).result = .ok .fixApplied) :
    ∃ reply, (run send f b issue w).reply = some reply ∧
      ∃ head : String, (run send f b issue w).notices = [⟨.info, head ++ reply.explanation⟩] := by
  by_cases empty : f.client.apiKey = []
  · rw [runNoKey empty] at applied
    cases (resultApplied.mp applied).2
  · cases read : w.buffers[b].read issue.range with
    | error fault =>
      rw [runUnread empty read] at applied
      cases applied
    | ok snippet =>
      rw [runRead empty read (Prod.ext rfl rfl)] at applied ⊢
      exact concludeTold (by rfl) applied

end FixRun

end AccessFix
