import AccessFix.CommandLine
import AccessFix.Proofs.Text.ControlSequence

/-! Commands run step by step. A command that stops has made no further step; a guard changes only how a failure is told.
Most commands leave files and documents alone, and where they stop it is not with the status of success. -/
namespace AccessFix.CommandLine

variable {α β : Type}

def after (c : Command α) (p : Progress) : Except Stop α × Progress := c.run.run p

def stopOf : Except Stop Unit → Option Stop
  | .ok () => none
  | .error s => some s

theorem startAfter (w : Workspace) (c : Command Unit) {r : Except Stop Unit} {p : Progress}
    (ran : after c ⟨"", "", w, {}⟩ = (r, p)) : start w c = ⟨stopOf r, p⟩ := by
  unfold after at ran
  unfold start
  rw [ran]
  cases r <;> rfl

theorem bindAfter {c : Command α} {f : α → Command β} {p q : Progress} {r : Except Stop β} :
    after (c >>= f) p = (r, q) ↔
      (∃ s, after c p = (.error s, q) ∧ r = .error s) ∨ ∃ a m, after c p = (.ok a, m) ∧ after (f a) m = (r, q) := by
  have step : after (c >>= f) p = match after c p with
      | (.error s, m) => (.error s, m)
      | (.ok a, m) => after (f a) m := by
    simp only [after, ExceptT.run_bind, StateT.run_bind]
    generalize c.run.run p = ran
    obtain ⟨result, m⟩ := ran
    cases result <;> rfl
  rw [step]
  obtain ⟨result, m⟩ := after c p
  cases result with
  | error s => simp [eq_comm, and_comm]
  | ok a => simp

theorem bindAfterOk {c : Command α} {f : α → Command β} {p q : Progress} {b : β} :
    after (c >>= f) p = (.ok b, q) ↔ ∃ a m, after c p = (.ok a, m) ∧ after (f a) m = (.ok b, q) := by
  simp [bindAfter]

theorem bindOn {c : Command α} {f : α → Command β} {p m : Progress} {a : α} (went : after c p = (.ok a, m)) :
    after (c >>= f) p = after (f a) m := by
  generalize ran : after (f a) m = out
  exact bindAfter.mpr (.inr ⟨a, m, went, ran⟩)

theorem bindOff {c : Command α} {f : α → Command β} {p q : Progress} {s : Stop} (stopped : after c p = (.error s, q)) :
    after (c >>= f) p = (.error s, q) :=
  bindAfter.mpr (.inl ⟨s, stopped, rfl⟩)

theorem getAfter (p : Progress) : after get p = (.ok p, p) := rfl

theorem setAfter (p q : Progress) : after (set q) p = (.ok (), q) := rfl

theorem catchAfter {c : Command α} {f : Stop → Command α} {p : Progress} :
    after (tryCatch c f) p = match after c p with
      | (.error s, q) => after (f s) q
      | (.ok a, q) => (.ok a, q) := by
  simp only [after]
  show StateT.run (ExceptT.run (ExceptT.tryCatch c f)) p = _
  simp only [ExceptT.tryCatch, ExceptT.run, ExceptT.mk, StateT.run_bind]
  generalize StateT.run c p = ran
  obtain ⟨result, m⟩ := ran
  cases result <;> rfl

/-! Commands that leave files and documents alone. -/

def Quiet (c : Command α) : Prop :=
  ∀ {p r q}, after c p = (r, q) → q.workspace = p.workspace ∧ r ≠ .error (.exit 0)

theorem quietPure (a : α) : Quiet (pure a : Command α) := by
  intro p r q ran
  cases ran
  exact ⟨rfl, by simp⟩

theorem quietThrow {s : Stop} (failure : s ≠ .exit 0) : Quiet (throw s : Command α) := by
  intro p r q ran
  cases ran
  exact ⟨rfl, by simpa using failure⟩

theorem quietGet : Quiet get := by
  intro p r q ran
  cases ran
  exact ⟨rfl, by simp⟩

theorem quietBind {c : Command α} {f : α → Command β} (first : Quiet c) (next : ∀ a, Quiet (f a)) : Quiet (c >>= f) := by
  intro p r q ran
  rcases bindAfter.mp ran with ⟨s, stopped, rfl⟩ | ⟨a, m, went, ran⟩
  · obtain ⟨same, failure⟩ := first stopped
    exact ⟨same, by simpa using failure⟩
  · obtain ⟨same, failure⟩ := next a ran
    exact ⟨same.trans (first went).1, failure⟩

def unsaid? (line : Letters) : Option Text.Unencodable := Text.Codec.utf8.refusal? (Text.plain line ++ "\n")

theorem unsaidNone {line : Letters} : unsaid? line = none ↔ Text.Encodable line := by
  rw [unsaid?, Text.refusalNone, ← Text.plainEncodable]
  exact Text.encodableAppend.trans (and_iff_left (Text.encodableText _))

def said (line : Letters) : String := String.ofList (Text.plain line ++ letters "\n").chars

theorem printAfter (line : Letters) (p : Progress) : after (print line) p = match unsaid? line with
    | some f => (.error (.failure (.unencodable f)), p)
    | none => (.ok (), { p with out := p.out ++ said line }) := by
  simp only [print, unsaid?]
  cases Text.Codec.utf8.refusal? (Text.plain line ++ letters "\n") <;> rfl

theorem printedAfter {line : Letters} (plain : Text.Encodable line) (p : Progress) :
    after (print line) p = (.ok (), { p with out := p.out ++ said line }) := by
  rw [printAfter, unsaidNone.mpr plain]

theorem quietPrint (line : Letters) : Quiet (print line) := by
  intro p r q ran
  rw [printAfter] at ran
  split at ran <;> cases ran <;> exact ⟨rfl, by simp⟩

theorem quietComplain (line : Letters) : Quiet (complain line) := by
  intro p r q ran
  cases ran
  exact ⟨rfl, by simp⟩

theorem quietStop {status : Nat} (failure : status ≠ 0) : Quiet (stop status : Command α) :=
  quietThrow (by simpa using failure)

theorem quietFail (f : Failure) : Quiet (fail f : Command α) := quietThrow (by simp)

theorem quietOrFail {ε : Type} (result : Except ε α) (failure : ε → Failure) : Quiet (orFail result failure) := by
  cases result with
  | ok a => exact quietPure a
  | error e => exact quietFail (failure e)

theorem orFailAfter {ε : Type} (a : α) (failure : ε → Failure) (p : Progress) :
    after (orFail (.ok a) failure) p = (.ok a, p) := rfl

theorem orFailOk {ε : Type} {result : Except ε α} {failure : ε → Failure} {a : α} {p q : Progress}
    (ran : after (orFail result failure) p = (.ok a, q)) : result = .ok a ∧ q = p := by
  cases result with
  | ok b =>
    cases ran
    exact ⟨rfl, rfl⟩
  | error e => cases ran

theorem quietAnnounce (kind : FailureKind) (message : Letters) {unhandled : Command α} (quiet : Quiet unhandled) :
    Quiet (announce kind message unhandled) := by
  simp only [announce]
  split
  · exact quietBind (quietComplain _) fun _ => quietStop (by simp)
  · exact quiet

/-! What is told. A notice that is printed and cannot be ends the telling. -/

def noticeUnsaid? (n : Notice) : Option Text.Unencodable :=
  match n.level with
  | .info => unsaid? n.text
  | _ => none

theorem heardSaid {ns : List Notice} (heard : ∀ n ∈ ns, n.level ≠ .info) : ns.findSome? noticeUnsaid? = none := by
  rw [List.findSome?_eq_none_iff]
  intro n mem
  unfold noticeUnsaid?
  split
  · rename_i info
    exact absurd info (heard n mem)
  · rfl

theorem infoSaid (head : String) (text : Letters) :
    ([⟨.info, head ++ text⟩] : List Notice).findSome? noticeUnsaid? = none ↔ Text.Encodable text := by
  have said : unsaid? (letters head ++ text) = none ↔ Text.Encodable text :=
    unsaidNone.trans (Text.encodableAppend.trans (and_iff_right (Text.encodableText head)))
  rw [← said, List.findSome?_cons, noticeUnsaid?]
  cases unsaid? (letters head ++ text) <;> simp

def complained (line : Letters) : String := Text.shown (Text.plain line ++ letters "\n")

def tell (p : Progress) (n : Notice) : Progress :=
  match n.level with
  | .info => { p with out := p.out ++ said n.text }
  | .warning => { p with err := p.err ++ complained ("Warning: " ++ n.text) }
  | .error => { p with err := p.err ++ complained ("Error: " ++ n.text) }

def told (p : Progress) : List Notice → Progress
  | [] => p
  | n :: ns => if (noticeUnsaid? n).isSome then p else told (tell p n) ns

theorem noticeAfter (n : Notice) (p : Progress) : after (showNotice n) p = match noticeUnsaid? n with
    | some f => (.error (.failure (.unencodable f)), p)
    | none => (.ok (), tell p n) := by
  obtain ⟨level, text⟩ := n
  cases level with
  | info => exact printAfter text p
  | warning => rfl
  | error => rfl

theorem noticesAfter (ns : List Notice) (p : Progress) :
    after (ns.forM showNotice) p = (match ns.findSome? noticeUnsaid? with
      | some f => .error (.failure (.unencodable f))
      | none => .ok (), told p ns) := by
  induction ns generalizing p with
  | nil => rfl
  | cons n ns ih =>
    have here := noticeAfter n p
    simp only [List.findSome?_cons, told]
    cases unsaid : noticeUnsaid? n with
    | some f =>
      rw [unsaid] at here
      exact bindOff here
    | none =>
      rw [unsaid] at here
      exact (bindOn here).trans (ih (tell p n))

theorem toldWorkspace (ns : List Notice) (p : Progress) :
    (told p ns).workspace = p.workspace ∧ (told p ns).trace = p.trace := by
  induction ns generalizing p with
  | nil => exact ⟨rfl, rfl⟩
  | cons n ns ih =>
    have here : (tell p n).workspace = p.workspace ∧ (tell p n).trace = p.trace := by
      unfold tell
      split <;> exact ⟨rfl, rfl⟩
    unfold told
    split
    · exact ⟨rfl, rfl⟩
    · exact ⟨(ih (tell p n)).1.trans here.1, (ih (tell p n)).2.trans here.2⟩

structure Looked (p q : Progress) : Prop where
  workspace : q.workspace = p.workspace
  out : q.out = p.out
  sent : q.trace.sent = p.trace.sent
  closed : q.trace.closed = p.trace.closed

theorem Looked.trans {p m q : Progress} (first : Looked p m) (next : Looked m q) : Looked p q :=
  ⟨next.workspace.trans first.workspace, next.out.trans first.out, next.sent.trans first.sent,
    next.closed.trans first.closed⟩

theorem noteAfter (g : Globals) (line : Letters) (p : Progress) : ∃ q, after (note g line) p = (.ok (), q) ∧ Looked p q := by
  unfold note
  split <;> exact ⟨_, rfl, rfl, rfl, rfl, rfl⟩

theorem quietNote (g : Globals) (line : Letters) : Quiet (note g line) := by
  intro p r q ran
  obtain ⟨m, noted, looked⟩ := noteAfter g line p
  rw [noted] at ran
  cases ran
  exact ⟨looked.workspace, by simp⟩

theorem quietResolved (path : String) : Quiet (resolved path) := quietBind quietGet fun _ => quietPure _

theorem announcedAfter {f : Failure} {p q : Progress} {r : Except Stop α}
    (ran : after (announce f.kind f.message (fail f)) p = (r, q)) (a : α) : r ≠ .ok a := by
  simp only [announce] at ran
  split at ran
  · rcases bindAfter.mp ran with ⟨s, _, rfl⟩ | ⟨_, _, _, stopped⟩
    · simp
    · cases stopped
      simp
  · cases ran
    simp

theorem guardedAfter {c : Command α} {p q : Progress} {r : Except Stop α} (ran : after (guarded c) p = (r, q)) :
    ∃ r' q', after c p = (r', q') ∧ q.workspace = q'.workspace ∧ (∀ a, r = .ok a ↔ r' = .ok a) ∧
      (r = .error (.exit 0) → r' = .error (.exit 0)) ∧
      ∀ f, f.kind.heading? = none → r' = .error (.failure f) → r = .error (.failure f) := by
  rw [guarded, catchAfter] at ran
  generalize after c p = inner at ran
  obtain ⟨r', q'⟩ := inner
  refine ⟨r', q', rfl, ?_⟩
  cases r' with
  | ok a =>
    cases ran
    exact ⟨rfl, fun _ => Iff.rfl, id, fun _ _ => id⟩
  | error s =>
    cases s with
    | exit status =>
      cases ran
      exact ⟨rfl, fun _ => Iff.rfl, id, fun _ _ => id⟩
    | failure f =>
      obtain ⟨same, failure⟩ := quietAnnounce f.kind f.message (quietFail (α := α) f) ran
      refine ⟨same, fun a => iff_of_false (announcedAfter ran a) (by simp), fun success => absurd success failure, ?_⟩
      intro f' unheaded failed
      cases failed
      simp only [announce, unheaded] at ran
      cases ran
      rfl

/-! Commands that leave files alone, whatever documents they open. -/

def Still (c : Command α) : Prop :=
  ∀ {p r q}, after c p = (r, q) → q.workspace.files = p.workspace.files ∧ r ≠ .error (.exit 0)

theorem quietStill {c : Command α} (quiet : Quiet c) : Still c := by
  intro p r q ran
  obtain ⟨same, failure⟩ := quiet ran
  exact ⟨by rw [same], failure⟩

theorem stillBind {c : Command α} {f : α → Command β} (first : Still c) (next : ∀ a, Still (f a)) : Still (c >>= f) := by
  intro p r q ran
  rcases bindAfter.mp ran with ⟨s, stopped, rfl⟩ | ⟨a, m, went, ran⟩
  · obtain ⟨same, failure⟩ := first stopped
    exact ⟨same, by simpa using failure⟩
  · obtain ⟨same, failure⟩ := next a ran
    exact ⟨same.trans (first went).1, failure⟩

end AccessFix.CommandLine
