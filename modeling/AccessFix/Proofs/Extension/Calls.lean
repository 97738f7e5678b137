import AccessFix.Proofs.Extension.Registry

/-! Runs of calls. No call puts the registry out of order or brings a spent disposable back, whatever the order of the calls
and whoever changes the subscriptions of the session between them. -/
namespace AccessFix.Extension

variable {e e' : Extension}

/-! From one extension to a later one. -/

structure Continued (e e' : Extension) : Prop where
  kept : Kept e → Kept e'
  spent : ∀ id : DisposableId, e.disposables[id]? = some none → e'.disposables[id]? = some none

theorem Continued.refl (e : Extension) : Continued e e := ⟨fun kept => kept, fun _ gone => gone⟩

theorem Continued.trans {e'' : Extension} (first : Continued e e') (second : Continued e' e'') : Continued e e'' :=
  ⟨fun kept => second.kept (first.kept kept), fun id gone => second.spent id (first.spent id gone)⟩

theorem asideContinued (commands : e'.commands = e.commands) (providers : e'.providers = e.providers)
    (disposables : e'.disposables = e.disposables) : Continued e e' :=
  ⟨fun kept => keptAside kept commands providers disposables, fun id gone => by rwa [disposables]⟩

theorem spentAdded {added : List (Option Undo)} (disposables : e'.disposables = e.disposables ++ added) (id : DisposableId)
    (gone : e.disposables[id]? = some none) : e'.disposables[id]? = some none := by
  obtain ⟨inside, _⟩ := List.getElem?_eq_some_iff.mp gone
  rwa [disposables, List.getElem?_append_left inside]

theorem commandContinued {name : String} {h : Handler} {id : DisposableId} (ok : e.registerCommand name h = .ok (id, e')) :
    Continued e e' := by
  by_cases free : e.Free name
  · rw [registerFree free] at ok
    cases ok
    exact ⟨fun kept => commandKept kept free rfl rfl rfl, spentAdded rfl⟩
  · rw [registerTaken free] at ok
    cases ok

theorem providerContinued (e : Extension) {s : Selector} (flat : s.Flat) (p : Provider) :
    Continued e (e.registerProvider s p).2 :=
  ⟨fun kept => providerKept (r := ⟨s, p⟩) kept flat rfl rfl rfl, spentAdded rfl⟩

theorem disposeDisposables (e : Extension) (id : DisposableId) :
    (e.dispose id).2.disposables = e.disposables.set id none := by
  simp only [dispose]
  split
  · rename_i u held
    cases u with
    | clearStore => rfl
    | command name => rfl
    | provider r =>
      simp only [undo]
      cases removeProvider? r e.providers <;> rfl
  · rename_i idle
    symm
    by_cases inside : id < e.disposables.length
    · have gone : e.disposables[id] = none := Option.eq_none_iff_forall_ne_some.mpr fun u held =>
        idle u (by rw [List.getElem?_eq_getElem inside, held])
      rw [← gone, List.set_getElem_self]
    · exact List.set_eq_of_length_le (Nat.le_of_not_lt inside)

theorem disposeContinued (e : Extension) (id : DisposableId) : Continued e (e.dispose id).2 := by
  refine ⟨fun kept => (disposeKept kept id).2, fun other gone => ?_⟩
  obtain ⟨inside, _⟩ := List.getElem?_eq_some_iff.mp gone
  rw [disposeDisposables, List.getElem?_set]
  by_cases here : id = other
  · rw [if_pos here, here, if_pos inside]
  · rwa [if_neg here]

theorem disposeSpends {id : DisposableId} (inside : id < e.disposables.length) :
    (e.dispose id).2.disposables[id]? = some none := by
  rw [disposeDisposables, List.getElem?_set_self inside]

theorem disposeSpent {id : DisposableId} (gone : e.disposables[id]? = some none) : e.dispose id = (.ok (), e) := by
  rw [dispose, gone]

theorem componentFilesFlat : componentFiles.Flat := by
  intro f mem
  rcases List.mem_pair.mp mem with rfl | rfl <;> rintro v (given | given) <;> cases given <;> rfl

theorem initContinued (e : Extension) (s : Session) : Continued e (e.initIn s).2 := by
  have ends := initInEnds e s
  generalize e.initIn s = out at ends
  cases ends with
  | active running => exact .refl e
  | checkTaken idle taken => exact ⟨fun kept => keptAside (clearingKept kept) rfl rfl rfl, spentAdded rfl⟩
  | fixTaken idle free taken =>
    exact ⟨fun kept => commandKept (clearingKept kept) free rfl rfl (by simp [addDisposable]), spentAdded rfl⟩
  | done idle free free' =>
    refine ⟨fun kept => ?_, spentAdded rfl⟩
    let checked : Extension := { e with
      commands := e.commands ++ [(checkCommand, .check)]
      disposables := e.disposables ++ [some .clearStore, some (.command checkCommand)] }
    let fixed : Extension := { e with
      commands := e.commands ++ [(checkCommand, .check), (fixCommand, .fix)]
      disposables := e.disposables ++ [some .clearStore, some (.command checkCommand), some (.command fixCommand)] }
    have keptChecked : Kept checked := commandKept (clearingKept kept) free rfl rfl (by simp [checked, addDisposable])
    have keptFixed : Kept fixed :=
      commandKept (h := .fix) keptChecked ((freeOther (by decide) rfl).mpr free') (by simp [checked, fixed]) rfl
        (by simp [checked, fixed])
    exact providerKept keptFixed componentFilesFlat rfl rfl (by simp [fixed])

theorem executeContinued (t : Surroundings) (w : Workspace) (e : Extension) (name : String) (args : List Argument) :
    Continued e (execute t w e name args).extension := by
  obtain ⟨store, notices, same⟩ := executeUnmoved t w e name args
  rw [same]
  exact asideContinued rfl rfl rfl

theorem disposeOwnContinued (e : Extension) (s : Subscription) :
    Continued e (e.disposeOwn s).2 ∧ (Kept e → (e.disposeOwn s).1 = .ok ()) := by
  cases s with
  | own id => exact ⟨disposeContinued e id, fun kept => (disposeKept kept id).1⟩
  | other extension id => exact ⟨.refl e, fun _ => rfl⟩

theorem withSubscriptionsContinued (e : Extension) (subscriptions : List Subscription) :
    Continued e (e.withSubscriptions subscriptions) :=
  asideContinued rfl rfl rfl

theorem releaseContinued (subscriptions : List Subscription) (e : Extension) :
    Continued e (e.release subscriptions).2 ∧ (Kept e → (e.release subscriptions).1 = .ok ()) := by
  induction subscriptions generalizing e with
  | nil => exact ⟨.refl e, fun _ => rfl⟩
  | cons last earlier ih =>
    have aside := withSubscriptionsContinued e earlier.reverse
    obtain ⟨disposed, ok⟩ := disposeOwnContinued (e.withSubscriptions earlier.reverse) last
    have here := aside.trans disposed
    rw [release]
    generalize (e.withSubscriptions earlier.reverse).disposeOwn last = out at here ok
    obtain ⟨result, next⟩ := out
    cases result with
    | ok => exact ⟨here.trans (ih next).1, fun kept => (ih next).2 (here.kept kept)⟩
    | error f => exact ⟨here, fun kept => ok (aside.kept kept)⟩

theorem shutdownContinued (e : Extension) : Continued e e.shutdown.2 ∧ (Kept e → e.shutdown.1 = .ok ()) := by
  rw [shutdown]
  cases e.session with
  | none => exact ⟨.refl e, fun _ => rfl⟩
  | some s =>
    have released := releaseContinued s.subscriptions.reverse e
    simp only
    generalize e.release s.subscriptions.reverse = out at released
    obtain ⟨result, next⟩ := out
    cases result with
    | ok => exact ⟨released.1.trans (asideContinued rfl rfl rfl), released.2⟩
    | error f => exact released

inductive Call where
  | registerCommand (name : String) (h : Handler)
  | registerProvider (s : Selector) (p : Provider) (flat : s.Flat)
  | init (s : Session)
  | shutdown
  | execute (t : Surroundings) (w : Workspace) (name : String) (args : List Argument)
  | actions (w : Workspace) (document : BufferId) (range : Range)
  | dispose (id : DisposableId)
  /-- Not a call of the extension: whoever holds its session may change the list of subscriptions. -/
  | relist (subscriptions : List Subscription)

def Call.run (e : Extension) : Call → Extension
  | .registerCommand name h => match e.registerCommand name h with
    | .ok (_, e') => e'
    | .error _ => e
  | .registerProvider s p _ => (e.registerProvider s p).2
  | .init s => (e.initIn s).2
  | .shutdown => e.shutdown.2
  | .execute t w name args => (e.execute t w name args).extension
  | .actions _ _ _ => e
  | .dispose id => (e.dispose id).2
  | .relist subscriptions => e.withSubscriptions subscriptions

def after (e : Extension) (calls : List Call) : Extension := calls.foldl Call.run e

theorem callContinued (e : Extension) (call : Call) : Continued e (call.run e) := by
  cases call with
  | registerCommand name h =>
    simp only [Call.run]
    split
    · rename_i ok
      exact commandContinued ok
    · exact .refl e
  | registerProvider s p flat => exact providerContinued e flat p
  | init s => exact initContinued e s
  | shutdown => exact (shutdownContinued e).1
  | execute t w name args => exact executeContinued t w e name args
  | actions w document range => exact .refl e
  | dispose id => exact disposeContinued e id
  | relist subscriptions => exact withSubscriptionsContinued e subscriptions

theorem afterContinued (e : Extension) (calls : List Call) : Continued e (after e calls) := by
  induction calls generalizing e with
  | nil => exact .refl e
  | cons call rest ih => exact (callContinued e call).trans (ih (call.run e))

theorem newKept (config : Config) (store : IssueStore) (fixer : Fixer) : Kept (newWith config store fixer) :=
  ⟨⟨.nil, .nil, fun _ => rfl⟩, by simp [newWith, new], by simp [newWith, new, liveProviders, live]⟩

theorem registerRejected (kept : Kept e) {name : String} {h : Handler} {f : HostFault} :
    e.registerCommand name h = .error f ↔ f = .taken name ∧ name ∈ e.liveCommands := by
  rw [← kept.registered.commands.mem_iff]
  by_cases free : e.Free name
  · rw [registerFree free]
    simp [freeAbsent.mp free]
  · rw [registerTaken free]
    simp [not_not.mp (mt freeAbsent.mpr free), eq_comm]

/-- After any calls the registry is in order; no disposal fails and a second one does nothing, however much later; a name is
refused just while a live registration has it, and refused calls change nothing. -/
theorem registryKept (config : Config) (store : IssueStore) (fixer : Fixer) (calls : List Call) :
    let e := after (newWith config store fixer) calls
    Registered e ∧ e.shutdown.1 = .ok () ∧
    (∀ id, (e.dispose id).1 = .ok () ∧
      (id < e.disposables.length → ∀ later, let e' := after (e.dispose id).2 later; e'.dispose id = (.ok (), e'))) ∧
    (∀ name h f, e.registerCommand name h = .error f ↔ f = .taken name ∧ name ∈ e.liveCommands) ∧
    (∀ name h f, e.registerCommand name h = .error f → (Call.registerCommand name h).run e = e) ∧
    (e.isActive = true → ∀ s, e.initIn s = (.error .active, e)) := by
  intro e
  have kept : Kept e := (afterContinued _ calls).kept (newKept config store fixer)
  refine ⟨kept.registered, (shutdownContinued e).2 kept,
    fun id => ⟨(disposeKept kept id).1, fun inside later => ?_⟩, ?_, ?_, ?_⟩
  · exact disposeSpent ((afterContinued _ later).spent id (disposeSpends inside))
  · exact fun name h f => registerRejected kept
  · intro name h f rejected
    simp only [Call.run, rejected]
  · intro running s
    rw [initIn, if_pos running]

end AccessFix.Extension
