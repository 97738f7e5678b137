import AccessFix.Extension
import Mathlib

/-! How initialising ends. It registers one thing after the other and does not look ahead: where a name turns out to be taken,
what was registered before stays, and the extension counts as initialised. -/
namespace AccessFix

def Session.holding (s : Session) (ids : List DisposableId) : Session :=
  { s with subscriptions := s.subscriptions ++ ids.map .own }

namespace Extension

variable {e : Extension} {s : Session}

def Free (e : Extension) (name : String) : Prop := e.handler? name = none

instance (e : Extension) (name : String) : Decidable (e.Free name) := decidable_of_iff _ Option.isNone_iff_eq_none

theorem registerFree {name : String} (free : e.Free name) (h : Handler) : e.registerCommand name h =
    .ok (e.disposables.length,
      { e with commands := e.commands ++ [(name, h)], disposables := e.disposables ++ [some (.command name)] }) := by
  have absent : (e.handler? name).isSome = false := by rw [free, Option.isSome_none]
  simp only [registerCommand, absent, Bool.false_eq_true, if_false]
  rfl

theorem registerTaken {name : String} (taken : ¬e.Free name) (h : Handler) :
    e.registerCommand name h = .error (.taken name) := by
  have present : (e.handler? name).isSome = true := Option.isSome_iff_ne_none.mpr taken
  simp only [registerCommand, present, if_true]

theorem subscribeFree {name : String} (free : e.Free name) (h : Handler) : e.subscribeCommand name h =
    (.ok (), { e with
      commands := e.commands ++ [(name, h)]
      disposables := e.disposables ++ [some (.command name)]
      session := e.session.map (·.holding [e.disposables.length]) }) := by
  rw [subscribeCommand, registerFree free]
  rfl

theorem subscribeTaken {name : String} (taken : ¬e.Free name) (h : Handler) :
    e.subscribeCommand name h = (.error (.taken name), e) := by
  rw [subscribeCommand, registerTaken taken]

theorem freeOther {name other : String} {h : Handler} (distinct : other ≠ name) {e' : Extension}
    (added : e'.commands = e.commands ++ [(other, h)]) : e'.Free name ↔ e.Free name := by
  simp [Free, handler?, added, distinct]

/-! Where it breaks off, and what has been done until then. -/

inductive InitEnd (e : Extension) (s : Session) : Except HostFault Unit × Extension → Prop where
  | active (running : e.isActive = true) : InitEnd e s (.error .active, e)
  | checkTaken (idle : e.isActive = false) (taken : ¬e.Free checkCommand) :
    InitEnd e s (.error (.taken checkCommand), { e with
      disposables := e.disposables ++ [some .clearStore]
      session := some (s.holding [e.disposables.length]) })
  | fixTaken (idle : e.isActive = false) (free : e.Free checkCommand) (taken : ¬e.Free fixCommand) :
    InitEnd e s (.error (.taken fixCommand), { e with
      commands := e.commands ++ [(checkCommand, .check)]
      disposables := e.disposables ++ [some .clearStore, some (.command checkCommand)]
      session := some (s.holding [e.disposables.length, e.disposables.length + 1]) })
  | done (idle : e.isActive = false) (free : e.Free checkCommand) (free' : e.Free fixCommand) :
    InitEnd e s (.ok (), { e with
      commands := e.commands ++ [(checkCommand, .check), (fixCommand, .fix)]
      providers := e.providers ++ [⟨componentFiles, .fixes⟩]
      disposables := e.disposables ++ [some .clearStore, some (.command checkCommand), some (.command fixCommand),
        some (.provider ⟨componentFiles, .fixes⟩)]
      session := some (s.holding [e.disposables.length, e.disposables.length + 1, e.disposables.length + 2,
        e.disposables.length + 3]) })

theorem initInEnds (e : Extension) (s : Session) : InitEnd e s (e.initIn s) := by
  cases active : e.isActive with
  | true =>
    rw [initIn, active]
    exact .active active
  | false =>
    let cleared : Extension := { e with
      disposables := e.disposables ++ [some .clearStore], session := some (s.holding [e.disposables.length]) }
    have start : e.initIn s = cleared.registerTool := by
      rw [initIn, active]
      rfl
    rw [start, registerTool]
    by_cases free : e.Free checkCommand
    · have checked : cleared.Free checkCommand := free
      rw [subscribeFree checked]
      have others : ({ cleared with
          commands := cleared.commands ++ [(checkCommand, .check)]
          disposables := cleared.disposables ++ [some (.command checkCommand)]
          session := cleared.session.map (·.holding [cleared.disposables.length]) } : Extension).Free fixCommand ↔
          e.Free fixCommand := freeOther (by decide) rfl
      by_cases free' : e.Free fixCommand
      · simp only [subscribeFree (others.mpr free')]
        have done := InitEnd.done (s := s) active free free'
        simpa [cleared, Session.holding, registerProvider, addDisposable, subscribe] using done
      · simp only [subscribeTaken (mt others.mp free')]
        have broken := InitEnd.fixTaken (s := s) active free free'
        simpa [cleared, Session.holding] using broken
    · have checked : ¬cleared.Free checkCommand := free
      rw [subscribeTaken checked]
      exact .checkTaken active free

/-! What a rejected call leaves. -/

def leftSession (e : Extension) (s : Session) : Session :=
  if e.isActive then s else (e.initIn s).2.session.getD s

structure Unaltered (e : Extension) (s : Session) : Prop where
  active : (e.initIn s).2.isActive = e.isActive
  commands : (e.initIn s).2.commands = e.commands
  providers : (e.initIn s).2.providers = e.providers
  store : (e.initIn s).2.store = e.store
  subscriptions : (e.leftSession s).subscriptions = s.subscriptions

theorem initFault (e : Extension) (s : Session) : (∃ f, (e.initIn s).1 = .error f) ↔
    e.isActive = true ∨ ¬e.Free checkCommand ∨ ¬e.Free fixCommand := by
  have ends := initInEnds e s
  generalize e.initIn s = out at ends
  cases ends with
  | active running => simp [running]
  | checkTaken idle taken => simp [taken]
  | fixTaken idle free taken => simp [taken]
  | done idle free free' => simp [idle, free, free']

theorem activeUnaltered (running : e.isActive = true) (s : Session) : Unaltered e s := by
  have same : (e.initIn s).2 = e := by rw [initIn, running]; rfl
  have left : e.leftSession s = s := by rw [leftSession, running]; rfl
  exact ⟨by rw [same], by rw [same], by rw [same], by rw [same], by rw [left]⟩

theorem brokenActive {f : HostFault} (rejected : (e.initIn s).1 = .error f) : (e.initIn s).2.isActive = true := by
  have ends := initInEnds e s
  generalize e.initIn s = out at ends rejected
  cases ends with
  | active running => exact running
  | checkTaken idle taken => rfl
  | fixTaken idle free taken => rfl
  | done idle free free' => cases rejected

theorem initRejected (e : Extension) (s : Session) :
    ((∃ f, (e.initIn s).1 = .error f) ↔ e.isActive = true ∨ ¬e.Free checkCommand ∨ ¬e.Free fixCommand) ∧
    ∀ f, (e.initIn s).1 = .error f → (Unaltered e s ↔ e.isActive = true) := by
  refine ⟨initFault e s, fun f rejected => ⟨fun kept => ?_, fun running => activeUnaltered running s⟩⟩
  rw [← kept.active]
  exact brokenActive rejected

def claimed : Extension :=
  { new {} with commands := [(fixCommand, .fixed fixCommand .null)], disposables := [some (.command fixCommand)] }

theorem runningUnaltered : ∃ e f, ((new {}).init none) = (.ok (), e) ∧ (e.initIn ⟨none, []⟩).1 = .error f ∧
    Unaltered e ⟨none, []⟩ :=
  ⟨_, .active, rfl, rfl, ((initRejected _ ⟨none, []⟩).2 .active rfl).mpr rfl⟩

theorem claimedAltered : (new {}).registerCommand fixCommand (.fixed fixCommand .null) = .ok (0, claimed) ∧
    (claimed.initIn ⟨none, []⟩).1 = .error (.taken fixCommand) ∧
    claimed.isActive = false ∧ (claimed.initIn ⟨none, []⟩).2.isActive = true ∧
    (claimed.initIn ⟨none, []⟩).2.commands ≠ claimed.commands ∧
    (claimed.leftSession ⟨none, []⟩).subscriptions = [.own 1, .own 2] ∧ ¬Unaltered claimed ⟨none, []⟩ := by
  have active : (claimed.initIn ⟨none, []⟩).2.isActive = true := rfl
  have idle : claimed.isActive = false := rfl
  refine ⟨rfl, rfl, idle, active, fun same => ?_, rfl, fun kept => ?_⟩
  · exact absurd (congrArg List.length same) (by decide)
  · rw [kept.active, idle] at active
    cases active

end Extension

end AccessFix
