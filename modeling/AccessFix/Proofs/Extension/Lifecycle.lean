import AccessFix.Proofs.Extension.Calls

/-! An extension that only its editor uses: initialised with fresh sessions, shut down, asked for actions, and told to execute
commands, in any order. It is idle, with nothing registered, or runs, with just what initialising registers. -/
namespace AccessFix.Extension

variable {e e' : Extension}

structure Idle (e : Extension) : Prop where
  session : e.session = none
  commands : e.commands = []
  providers : e.providers = []

theorem idleInactive (idle : Idle e) : e.isActive = false := by rw [isActive, idle.session]; rfl

theorem idleUnknown (idle : Idle e) (t : Surroundings) (w : Workspace) (name : String) (args : List Argument) :
    execute t w e name args = ⟨.error (.host (.unknown name)), e, w, {}⟩ := by
  have none : e.handler? name = none := by rw [handler?, idle.commands]; rfl
  simp only [execute, none]

theorem idleActions (idle : Idle e) (w : Workspace) (document : BufferId) (range : Range) :
    e.actions w document range = .ok [] := by
  simp only [actions, idle.providers, List.mapM_nil]
  rfl

/-! Initialising lists a subscription to each of its four registrations. -/

def registrations : List Undo :=
  [.clearStore, .command checkCommand, .command fixCommand, .provider ⟨componentFiles, .fixes⟩]

def ownFrom (first count : Nat) : List Subscription := (List.range count).map fun i => .own (first + i)

theorem ownFromSucc (first count : Nat) : (ownFrom first (count + 1)).reverse =
    .own (first + count) :: (ownFrom first count).reverse := by
  simp [ownFrom, List.range_succ]

structure Running (e : Extension) : Prop where
  commands : e.commands = [(checkCommand, .check), (fixCommand, .fix)]
  providers : e.providers = [⟨componentFiles, .fixes⟩]
  listed : ∃ before root, e.disposables = before ++ registrations.map some ∧
    e.session = some ⟨root, ownFrom before.length 4⟩

theorem runningActive (running : Running e) : e.isActive = true := by
  obtain ⟨before, root, _, session⟩ := running.listed
  rw [isActive, session]
  rfl

theorem idleInit (idle : Idle e) (root : Option String) : (e.init root).1 = .ok () ∧ Running (e.init root).2 := by
  have free (name : String) : e.Free name := by rw [Free, handler?, idle.commands]; rfl
  have ends := initInEnds e ⟨root, []⟩
  rw [init]
  generalize e.initIn ⟨root, []⟩ = out at ends
  cases ends with
  | active running =>
    rw [idleInactive idle] at running
    cases running
  | checkTaken _ taken => exact absurd (free _) taken
  | fixTaken _ _ taken => exact absurd (free _) taken
  | done => exact ⟨rfl, by rw [idle.commands]; rfl, by rw [idle.providers]; rfl, e.disposables, root, rfl, rfl⟩

/-! Releasing the subscriptions to some disposables undoes what these stand for, the last first. -/

def placed (disposables : List (Option Undo)) (session : Option Session) (e : Extension) : Extension :=
  { e with disposables := disposables, session := session }

theorem undoPlaced (disposables : List (Option Undo)) (session : Option Session) {u : Undo} (undone : e.undo u = .ok e') :
    (e.placed disposables session).undo u = .ok (e'.placed disposables session) := by
  cases u with
  | clearStore =>
    cases undone
    rfl
  | command name =>
    cases undone
    rfl
  | provider r =>
    simp only [undo, placed] at *
    cases found : removeProvider? r e.providers with
    | none =>
      rw [found] at undone
      cases undone
    | some rest =>
      rw [found] at undone
      cases undone
      rfl

theorem undoAllPlaced (disposables : List (Option Undo)) (session : Option Session) {us : List Undo}
    (undone : us.foldlM undo e = .ok e') :
    us.foldlM undo (e.placed disposables session) = .ok (e'.placed disposables session) := by
  induction us generalizing e with
  | nil =>
    cases undone
    rfl
  | cons u rest ih =>
    rw [List.foldlM_cons] at *
    obtain ⟨next, here, later⟩ := Fallible.bindOk.mp undone
    exact Fallible.bindOk.mpr ⟨_, undoPlaced disposables session here, ih later⟩

theorem disposeUndoes {id : DisposableId} {u : Undo} (held : e.disposables[id]? = some (some u)) (undone : e.undo u = .ok e')
    {s : Session} (session : e.session = some s) (subscriptions : List Subscription) :
    (e.withSubscriptions subscriptions).dispose id =
      (.ok (), e'.placed (e.disposables.set id none) (some { s with subscriptions := subscriptions })) := by
  have spent := undoPlaced (e.disposables.set id none) (some { s with subscriptions := subscriptions }) undone
  simp only [placed] at spent
  simp only [dispose, withSubscriptions, held, session, Option.map_some, spent, placed]

theorem releaseUndoes {us : List Undo} {before after : List (Option Undo)} {root : Option String}
    (disposables : e.disposables = before ++ us.map some ++ after)
    (session : e.session = some ⟨root, ownFrom before.length us.length⟩) (undone : us.reverse.foldlM undo e = .ok e') :
    e.release (ownFrom before.length us.length).reverse =
      (.ok (), e'.placed (before ++ us.map (fun _ => none) ++ after) (some ⟨root, []⟩)) := by
  -- on the disposables that are not spent; those that are join the ones after them
  induction us using List.reverseRecOn generalizing e e' after with
  | nil =>
    cases undone
    cases e
    cases disposables
    cases session
    rfl
  | append_singleton rest u ih =>
    rw [List.reverse_concat, List.foldlM_cons] at undone
    obtain ⟨next, here, later⟩ := Fallible.bindOk.mp undone
    have held : e.disposables[before.length + rest.length]? = some (some u) := by simp [disposables]
    have spent : e.disposables.set (before.length + rest.length) none = before ++ rest.map some ++ none :: after := by
      simp [disposables, List.set_append_right]
    have disposed := disposeUndoes held here session (ownFrom before.length rest.length)
    rw [spent] at disposed
    rw [List.length_append, List.length_singleton, ownFromSucc, release, List.reverse_reverse, disposeOwn, disposed]
    exact (ih rfl rfl (undoAllPlaced _ _ later)).trans (by simp [placed])

theorem shutdownReleased {s : Session} (session : e.session = some s)
    (released : e.release s.subscriptions.reverse = (.ok (), e')) : e.shutdown = (.ok (), { e' with session := none }) := by
  simp only [shutdown, session, released]

theorem shutdownIdle (running : Running e) : ∃ s left, e.session = some s ∧ s.subscriptions.length = 4 ∧
    e.release s.subscriptions.reverse = (.ok (), left) ∧ left.session = some { s with subscriptions := [] } ∧
    left.store.entries = [] ∧ e.shutdown = (.ok (), { left with session := none }) ∧
    Idle { left with session := none } := by
  obtain ⟨before, root, disposables, session⟩ := running.listed
  let emptied : Extension := { e with store := e.store.clear, commands := [], providers := [] }
  have undone : registrations.reverse.foldlM undo e = .ok emptied := by
    cases e
    cases running.commands
    cases running.providers
    rfl
  have released : e.release (ownFrom before.length registrations.length).reverse =
      (.ok (), emptied.placed (before ++ registrations.map (fun _ => none) ++ []) (some ⟨root, []⟩)) :=
    releaseUndoes (by rw [disposables, List.append_nil]) session undone
  exact ⟨_, _, session, rfl, released, rfl, rfl, shutdownReleased session released, rfl, rfl, rfl⟩

inductive Use where
  | init (root : Option String)
  | shutdown
  | execute (t : Surroundings) (w : Workspace) (name : String) (args : List Argument)
  | actions (w : Workspace) (document : BufferId) (range : Range)

def Use.call : Use → Call
  | .init root => .init ⟨root, []⟩
  | .shutdown => .shutdown
  | .execute t w name args => .execute t w name args
  | .actions w document range => .actions w document range

theorem idleUsed (idle : Idle e) (use : Use) : Idle (use.call.run e) ∨ Running (use.call.run e) := by
  cases use with
  | init root => exact .inr (idleInit idle root).2
  | shutdown =>
    refine .inl ?_
    rw [Use.call, Call.run, shutdown, idle.session]
    exact idle
  | execute t w name args =>
    refine .inl ?_
    rw [Use.call, Call.run, idleUnknown idle]
    exact idle
  | actions w document range => exact .inl idle

theorem runningUsed (running : Running e) (use : Use) : Idle (use.call.run e) ∨ Running (use.call.run e) := by
  cases use with
  | init root =>
    refine .inr ?_
    rw [Use.call, Call.run, initIn, if_pos (runningActive running)]
    exact running
  | shutdown =>
    obtain ⟨s, left, _, _, _, _, _, down, idle⟩ := shutdownIdle running
    rw [Use.call, Call.run, down]
    exact .inl idle
  | execute t w name args =>
    obtain ⟨store, notices, same⟩ := executeUnmoved t w e name args
    rw [Use.call, Call.run, same]
    exact .inr ⟨running.commands, running.providers, running.listed⟩
  | actions w document range => exact .inr running

theorem used (idle : Idle e) (uses : List Use) :
    Idle (after e (uses.map Use.call)) ∨ Running (after e (uses.map Use.call)) := by
  induction uses using List.reverseRecOn with
  | nil => exact .inl idle
  | append_singleton uses use ih =>
    rw [List.map_append, after, List.foldl_append]
    rcases ih with idle | running
    · exact idleUsed idle use
    · exact runningUsed running use

theorem newIdle (config : Config) (store : IssueStore) (fixer : Fixer) : Idle (newWith config store fixer) := ⟨rfl, rfl, rfl⟩

/-- An active extension has what it registered when it was initialised, and no other entry; shutting it down takes away all
of that, also off the session. An inactive one has nothing, and becomes what a new one becomes. -/
theorem lifecycle (config : Config) (store : IssueStore) (fixer : Fixer) (uses : List Use) :
    let e := after (newWith config store fixer) (uses.map Use.call)
    (e.isActive = true → e.commands = [(checkCommand, .check), (fixCommand, .fix)] ∧
      e.providers = [⟨componentFiles, .fixes⟩] ∧ ∃ s left, e.session = some s ∧ s.subscriptions.length = 4 ∧
        e.release s.subscriptions.reverse = (.ok (), left) ∧ left.session = some { s with subscriptions := [] } ∧
        left.store.entries = [] ∧ e.shutdown = (.ok (), { left with session := none })) ∧
    (e.isActive = false → e.commands = [] ∧ e.providers = [] ∧
      (∀ w document range, e.actions w document range = .ok []) ∧
      (∀ t w name args, execute t w e name args = ⟨.error (.host (.unknown name)), e, w, {}⟩) ∧
      ∀ root first, (e.init root).1 = .ok () ∧
        (e.init root).2.commands = ((newWith config store fixer).init first).2.commands ∧
        (e.init root).2.providers = ((newWith config store fixer).init first).2.providers) := by
  intro e
  have new := newIdle config store fixer
  constructor
  · intro active
    have running : Running e := (used new uses).resolve_left fun idle =>
      Bool.false_ne_true ((idleInactive idle).symm.trans active)
    obtain ⟨s, left, session, four, released, emptied, cleared, down, _⟩ := shutdownIdle running
    exact ⟨running.commands, running.providers, s, left, session, four, released, emptied, cleared, down⟩
  · intro inactive
    have idle : Idle e := (used new uses).resolve_right fun running =>
      Bool.false_ne_true (inactive.symm.trans (runningActive running))
    refine ⟨idle.commands, idle.providers, idleActions idle, idleUnknown idle, fun root first => ?_⟩
    obtain ⟨ok, again⟩ := idleInit idle root
    obtain ⟨_, once⟩ := idleInit new first
    exact ⟨ok, again.commands.trans once.commands.symm, again.providers.trans once.providers.symm⟩

end AccessFix.Extension
