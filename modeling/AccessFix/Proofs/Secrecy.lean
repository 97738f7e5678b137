import AccessFix.Extension
import AccessFix.Proofs.FixRun

/-! Runs of one fix with two keys. A run reads its key to see whether there is one and to send it along; all else that shows of
the run is the same for every key, unless a key cannot stand in a header. -/
namespace AccessFix
open Letter (char)

def Client.keyed (c : Client) (key : Letters) : Client := { c with apiKey := key }

def Fixer.keyed (f : Fixer) (key : Letters) : Fixer := { f with client := f.client.keyed key }

def Extension.keyed (e : Extension) (key : Letters) : Extension :=
  { e with config := { e.config with apiKey := key }, fixer := e.fixer.keyed key }

theorem Extension.newKeyed (config : Config) (key : Letters) :
    (Extension.new config).keyed key = Extension.new { config with apiKey := key } := rfl

/-! What shows of a run when nobody looks at who asks. -/

def Request.masked (q : Request) : Request := { q with authorization := [] }

def Completion.SessionEvent.masked : SessionEvent → SessionEvent
  | .sent q => .sent q.masked
  | event => event

def FixRun.masked (r : FixRun) : FixRun := { r with session := r.session.map Completion.SessionEvent.masked }

def Trace.masked (t : Trace) : Trace := { t with sent := t.sent.map Request.masked }

def Ran.masked {α : Type} (r : Ran α) : Ran α :=
  { r with extension := r.extension.keyed [], trace := r.trace.masked }

def Notice.untold (n : Notice) : Notice := { n with text := [] }

def FixRun.untold (r : FixRun) : FixRun := { r with notices := r.notices.map Notice.untold }

def Ran.untold {α : Type} (r : Ran α) : Ran α :=
  { r with extension := { r.extension with notices := r.extension.notices.map Notice.untold } }

def KeyBlind (send : Request → Delivery) : Prop := ∀ q q' : Request, q.masked = q'.masked → send q = send q'

/-! Keys in a header. -/

def OneLine (key : Letters) : Prop :=
  ∃ line last, key = line ++ last ∧ (last = [] ∨ last = [char '\n']) ∧ ∀ c ∈ line, c ≠ char '\r' ∧ c ≠ char '\n'

namespace Completion
open Fallible

structure Refused (c : Client) (key : Letters) : Prop where
  authority : Authority.check c.endpoint = .ok ()
  prepared : ∃ address, Endpoint.prepare c.endpoint = .ok address
  broken : ¬OneLine key

theorem bearerLine {line : Letters} :
    (((letters "Bearer " ++ line).head?.any fun c => !Text.isBlank c) &&
      (letters "Bearer " ++ line).all fun c : Letter => c ≠ char '\r' && c ≠ char '\n') = true ↔
      ∀ c ∈ line, c ≠ char '\r' ∧ c ≠ char '\n' := by
  have first : Text.isBlank (char 'B') = false := by decide
  simp [letters, first]

theorem headerOneLine {key : Letters} : isHeaderValue ("Bearer " ++ key) = true ↔ OneLine key := by
  by_cases ended : key.getLast? = some (char '\n')
  · obtain ⟨line, whole⟩ := List.getLast?_eq_some_iff.mp ended
    have shown : letters "Bearer " ++ key = letters "Bearer " ++ line ++ [char '\n'] := by
      rw [whole, List.append_assoc]
    rw [isHeaderValue, shown, List.getLast?_concat, if_pos rfl, List.dropLast_concat, bearerLine]
    constructor
    · exact fun clean => ⟨line, [char '\n'], whole, .inr rfl, clean⟩
    · rintro ⟨other, _, same, rfl | rfl, clean⟩
      · have inside : char '\n' ∈ other := by
          rw [← List.append_nil other, ← same, whole]
          simp
        exact absurd rfl (clean _ inside).2
      · rw [whole, List.append_cancel_right_eq] at same
        rwa [same]
  · have unended : (letters "Bearer " ++ key).getLast? ≠ some (char '\n') := by
      rw [List.getLast?_append]
      cases last : key.getLast? with
      | none => decide
      | some c => simpa [last] using ended
    rw [isHeaderValue, if_neg unended, bearerLine]
    constructor
    · exact fun clean => ⟨key, [], (List.append_nil _).symm, .inl rfl, clean⟩
    · rintro ⟨line, _, same, rfl | rfl, clean⟩
      · rwa [same, List.append_nil]
      · rw [same] at ended
        simp at ended

variable {c : Client} {system prompt key key' : Letters}

theorem authorizationAlike (address : Letters) : (∃ f, ∀ authorization, authorizationFor address authorization = .error f) ∨
    ∀ authorization, ∃ shown, authorizationFor address authorization = .ok shown := by
  simp only [authorizationFor]
  cases Authority.credentials? address with
  | none => exact .inr fun authorization => ⟨authorization, rfl⟩
  | some credentials =>
    cases header : Authority.basicHeader credentials.1 credentials.2 with
    | error f => exact .inl ⟨.breakdown (.credentials f), fun _ => by simp only [header, Except.mapError, Except.map]⟩
    | ok shown => exact .inr fun _ => ⟨shown, by simp only [header, Except.mapError, Except.map]⟩

theorem requestMasked (passes : ¬Refused c key) (passes' : ¬Refused c key') :
    (request (c.keyed key) system prompt).map Request.masked = (request (c.keyed key') system prompt).map Request.masked := by
  refine mapBind fun _ authority => mapBind fun address prepared => ?_
  have fits : ∀ {key}, ¬Refused c key → (!isHeaderValue ("Bearer " ++ (c.keyed key).apiKey)) = false := by
    intro key passes
    rw [Bool.not_eq_false', Client.keyed, headerOneLine]
    by_contra broken
    exact passes ⟨mapErrorOk.mp authority, ⟨address, mapErrorOk.mp prepared⟩, broken⟩
  dsimp only
  rw [fits passes, fits passes', if_neg Bool.false_ne_true, if_neg Bool.false_ne_true]
  refine mapIf rfl (mapIf rfl (mapBind fun _ _ => ?_))
  -- an address with credentials puts them in place of the key
  rcases authorizationAlike address with ⟨f, unshown⟩ | shown
  · rw [unshown, unshown]
    rfl
  · obtain ⟨first, asKey⟩ := shown ("Bearer " ++ (c.keyed key).apiKey)
    obtain ⟨second, asOther⟩ := shown ("Bearer " ++ (c.keyed key').apiKey)
    rw [asKey, asOther]
    exact mapIf rfl rfl

variable {send : Request → Delivery}

theorem sessionMasked (system prompt : Letters) (blind : KeyBlind send) (passes : ¬Refused c key) (passes' : ¬Refused c key') :
    let exchange key := completeInSession send (c.keyed key) system prompt
    (exchange key).1.map SessionEvent.masked = (exchange key').1.map SessionEvent.masked ∧
      (exchange key).2 = (exchange key').2 := by
  have same : (request (c.keyed key) system prompt).map Request.masked =
    (request (c.keyed key') system prompt).map Request.masked := requestMasked passes passes'
  simp only [completeInSession]
  cases made : request (c.keyed key) system prompt with
  | error f =>
    cases made' : request (c.keyed key') system prompt with
    | error f' =>
      rw [made, made'] at same
      cases same
      rw [completeUnsent made, completeUnsent made']
      exact ⟨rfl, rfl⟩
    | ok q' =>
      rw [made, made'] at same
      cases same
  | ok q =>
    cases made' : request (c.keyed key') system prompt with
    | error f' =>
      rw [made, made'] at same
      cases same
    | ok q' =>
      rw [made, made'] at same
      have alike : q.masked = q'.masked := Except.ok.inj same
      rw [completeSent made, completeSent made', blind q q' alike]
      exact ⟨by simp [SessionEvent.masked, alike], rfl⟩

theorem sessionRefused (refused : Refused c key) (system prompt : Letters) :
    completeInSession send (c.keyed key) system prompt = ([.opened, .closed], .fault (keyFault (c.keyed key))) := by
  obtain ⟨authority, ⟨address, prepared⟩, broken⟩ := refused
  have unfit : isHeaderValue ("Bearer " ++ (c.keyed key).apiKey) = false := by
    rw [Bool.eq_false_iff, ne_eq, Client.keyed, headerOneLine]
    exact broken
  have unsent : request (c.keyed key) system prompt = .error (.completion (keyFault (c.keyed key))) :=
    requestUnfit (c := c.keyed key) authority prepared unfit system prompt
  rw [completeInSession, completeUnsent unsent]
  rfl

end Completion

namespace FixRun

theorem sentMasked (r : FixRun) : r.masked.sent = r.sent.map Request.masked := by
  simp only [sent, masked]
  induction r.session with
  | nil => rfl
  | cons event events ih => cases event <;> simp [Completion.SessionEvent.masked, ih]

theorem closedMasked (r : FixRun) : r.masked.closed = r.closed := by
  simp only [closed, masked]
  induction r.session with
  | nil => rfl
  | cons event events ih => cases event <;> simp [Completion.SessionEvent.masked, ih]

theorem concludeMasked (a : Applier) (path : String) (buffer : BufferId) (range : Range) (r : FixRun)
    (outcome : Completion.Outcome) :
    (r.conclude a path buffer range outcome).masked = r.masked.conclude a path buffer range outcome := by
  cases outcome with
  | text text =>
    simp only [conclude, useReply]
    split
    · rfl
    · simp only [apply, masked]
      split <;> rfl
  | _ => rfl

variable {send : Request → Delivery} {f : Fixer} {w : Workspace} {b : Fin w.buffers.length} {issue : Issue}
  {key key' : Letters}

structure KeyRefused (f : Fixer) (b : Fin w.buffers.length) (issue : Issue) (key : Letters) : Prop where
  read : ∃ snippet, (w.buffers.get b).read issue.range = .ok snippet
  refused : Completion.Refused f.client key

theorem runMasked (blind : KeyBlind send) (present : key ≠ []) (present' : key' ≠ []) (passes : ¬KeyRefused f b issue key)
    (passes' : ¬KeyRefused f b issue key') :
    (run send (f.keyed key) b issue w).masked = (run send (f.keyed key') b issue w).masked := by
  cases read : (w.buffers.get b).read issue.range with
  | error fault =>
    rw [runUnread (f := f.keyed key) present read, runUnread (f := f.keyed key') present' read]
  | ok snippet =>
    have fits : ¬Completion.Refused f.client key := fun refused => passes ⟨⟨snippet, read⟩, refused⟩
    have fits' : ¬Completion.Refused f.client key' := fun refused => passes' ⟨⟨snippet, read⟩, refused⟩
    have alike := Completion.sessionMasked Completion.systemPrompt (prompt snippet) blind fits fits'
    rcases exchanged : Completion.completeInSession send (f.client.keyed key) Completion.systemPrompt (prompt snippet)
      with ⟨session, outcome⟩
    rcases exchanged' : Completion.completeInSession send (f.client.keyed key') Completion.systemPrompt (prompt snippet)
      with ⟨session', outcome'⟩
    simp only [exchanged, exchanged'] at alike
    obtain ⟨events, rfl⟩ := alike
    rw [runRead (f := f.keyed key) present read exchanged, runRead (f := f.keyed key') present' read exchanged',
      concludeMasked, concludeMasked]
    exact congrArg (fun session => conclude f.applier _ _ _ (asked _ _ _ session w) outcome) events

theorem runRefused (present : key ≠ []) {snippet : Letters} (read : (w.buffers.get b).read issue.range = .ok snippet)
    (refused : Completion.Refused f.client key) : run send (f.keyed key) b issue w =
      (asked (w.buffers.get b) issue snippet [.opened, .closed] w).finish .requestFailed .error
        ("Failed to get AI fix: " ++ (Completion.keyFault (f.client.keyed key)).message) :=
  runRead (f := f.keyed key) present read (Completion.sessionRefused refused Completion.systemPrompt (prompt snippet))

theorem finishUntold {r : FixRun} {state : FixState} {level : NoticeLevel} (text text' : Letters) :
    (r.finish state level text).masked.untold = (r.finish state level text').masked.untold := by
  simp only [finish, masked, untold, List.map_append, List.map_cons, List.map_nil, Notice.untold]

theorem runUntold (present : key ≠ []) (present' : key' ≠ []) (refused : KeyRefused f b issue key)
    (refused' : KeyRefused f b issue key') :
    (run send (f.keyed key) b issue w).masked.untold = (run send (f.keyed key') b issue w).masked.untold := by
  obtain ⟨⟨snippet, read⟩, unfit⟩ := refused
  rw [runRefused present read unfit, runRefused present' read refused'.refused]
  exact finishUntold _ _

end FixRun

namespace Extension
open FixRun

variable {t : Surroundings} {w : Workspace} {e : Extension} {b : Fin w.buffers.length} {issue : Issue} {key key' : Letters}

def reported (e : Extension) (r : FixRun) : Ran FixState where
  result := r.result.mapError .fix
  extension := { e with notices := e.notices ++ r.notices }
  workspace := r.workspace
  trace := { sent := r.sent, closed := r.closed }

theorem reportedMasked (e : Extension) (r : FixRun) :
    ((e.keyed key).reported r).masked = (e.keyed []).reported r.masked := by
  simp only [reported, sentMasked, closedMasked]
  rfl

theorem reportedUntold (e : Extension) (r : FixRun) :
    (e.reported r).untold = { e with notices := e.notices.map Notice.untold }.reported r.untold := by
  simp only [reported, Ran.untold, List.map_append]
  rfl

/-- Of two runs of a fix, and of the command that makes them, no more than who asks differs, if the transport does not look at
that and no key is refused; if both are, what is told may differ besides. -/
theorem runFixAlike (blind : KeyBlind t.send) (present : key ≠ []) (present' : key' ≠ [])
    (refused : KeyRefused e.fixer b issue key ↔ KeyRefused e.fixer b issue key') :
    let ran key := run t.send (e.fixer.keyed key) b issue w
    let fixed key := (e.keyed key).runFix t w b issue
    ((ran key).masked.untold = (ran key').masked.untold ∧ (fixed key).masked.untold = (fixed key').masked.untold) ∧
      (¬KeyRefused e.fixer b issue key → (ran key).masked = (ran key').masked ∧ (fixed key).masked = (fixed key').masked) := by
  intro ran fixed
  have reports : ∀ key, (fixed key).masked = (e.keyed []).reported (ran key).masked :=
    fun key => reportedMasked e (ran key)
  by_cases unfit : KeyRefused e.fixer b issue key
  · have untold : (ran key).masked.untold = (ran key').masked.untold := runUntold present present' unfit (refused.mp unfit)
    refine ⟨⟨untold, ?_⟩, fun passes => absurd unfit passes⟩
    rw [reports, reports, reportedUntold, reportedUntold, untold]
  · have masked : (ran key).masked = (ran key').masked := runMasked blind present present' unfit (unfit ∘ refused.mpr)
    have all : (fixed key).masked = (fixed key').masked := by rw [reports, reports, masked]
    exact ⟨⟨congrArg FixRun.untold masked, congrArg Ran.untold all⟩, fun _ => ⟨masked, all⟩⟩

def slow : Surroundings where
  lint _ := .failed "out of memory"
  send _ := .failed "Timeout" "too late"
  now := default
  outerKey := []

theorem slowAlike : ((new { apiKey := "k" }).runFix slow plainDesk 0 plainIssue).masked =
    ((new { apiKey := "l" }).runFix slow plainDesk 0 plainIssue).masked := by
  let b : Fin plainDesk.buffers.length := ⟨0, Nat.zero_lt_one⟩
  have first : ¬KeyRefused (new {}).fixer b plainIssue "k" := fun unfit =>
    unfit.refused.broken (Completion.headerOneLine.mp (by decide))
  have second : ¬KeyRefused (new {}).fixer b plainIssue "l" := fun unfit =>
    unfit.refused.broken (Completion.headerOneLine.mp (by decide))
  have blind : KeyBlind slow.send := fun _ _ _ => rfl
  have alike := runFixAlike blind (by decide) (by decide) (iff_of_false first second)
  rw [← newKeyed {} "k", ← newKeyed {} "l"]
  exact (alike.2 first).2

def emptyAnswer : Delivery := .answered 200 (some "OK") (Text.Utf8.encode "\x7b\x7d".toList)

theorem brokenTold : KeyBlind (fun _ => emptyAnswer) ∧
    (run (fun _ => emptyAnswer) (.standard "k") 0 plainIssue plainDesk).state = .noFixAvailable ∧
    (run (fun _ => emptyAnswer) (.standard "k\nx") 0 plainIssue plainDesk).state = .requestFailed ∧
    (run (fun _ => emptyAnswer) (.standard "k\nx") 0 plainIssue plainDesk).notices =
      [⟨.error, "Failed to get AI fix: Request to 'https://api.openai.com/v1/chat/completions' failed: InvalidHeader: " ++
        "Invalid leading whitespace, reserved character(s), or return character(s) in header value: 'Bearer k\\nx'"⟩] := by
  let b : Fin plainDesk.buffers.length := ⟨0, Nat.zero_lt_one⟩
  have read : (plainDesk.buffers.get b).read plainIssue.range = .ok (letters "x") := by decide
  have fits : Completion.isHeaderValue ("Bearer " ++ "k") = true := by decide
  have empty : Completion.outcome { apiKey := "k" } emptyAnswer = .text [] := by decide +kernel
  have exchanged : Completion.completeInSession (fun _ => emptyAnswer) { apiKey := "k" } Completion.systemPrompt
      (prompt "x") = ([.opened, .sent (requestOf "k" "x"), .closed], .text []) := by
    rw [Completion.sessionFits _ fits, empty]
    rfl
  have sent : run (fun _ => emptyAnswer) (.standard "k") b plainIssue plainDesk = _ :=
    runRead (by decide) read exchanged
  have broken : ¬OneLine "k\nx" := by
    rw [← Completion.headerOneLine]
    decide
  have refused : Completion.Refused (Fixer.standard []).client "k\nx" :=
    ⟨Completion.defaultAuthority, ⟨_, Completion.defaultPrepared⟩, broken⟩
  have keyed : (Fixer.standard []).keyed "k\nx" = .standard "k\nx" := rfl
  have kept : run (fun _ => emptyAnswer) (.standard "k\nx") b plainIssue plainDesk = _ :=
    keyed ▸ runRefused (by decide) read refused
  refine ⟨fun _ _ _ => rfl, ?_, ?_, ?_⟩
  · exact (congrArg FixRun.state sent).trans rfl
  · exact (congrArg FixRun.state kept).trans rfl
  · refine (congrArg FixRun.notices kept).trans ?_
    decide +kernel

end Extension
end AccessFix
