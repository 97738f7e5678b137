import AccessFix.Proofs.Extension.Execute
import AccessFix.Proofs.Extension.Initialise
import AccessFix.Proofs.Keys

/-! The registry over whole runs. Every call makes a few moves: it registers something, disposes of a registration, or leaves
the registry alone. What is registered at any time is what the disposables that are not yet spent would undo. -/
namespace AccessFix

/-! Entries of providers are the same if their classes are. -/

def Filter.Flat : Filter → Prop
  | .asking language scheme => ∀ v, language = some v ∨ scheme = some v → v.isKey = true
  | .other v => v.isKey = true

abbrev Filter.Class : Type := (Option (Option Json.Class) × Option (Option Json.Class)) ⊕ Option Json.Class

def Filter.toClass : Filter → Filter.Class
  | .asking language scheme => .inl (language.map Json.toClass?, scheme.map Json.toClass?)
  | .other v => .inr v.toClass?

theorem Filter.agreeClass {x y : Option Json} (keys : ∀ v, x = some v → v.isKey = true) :
    agree x y = true ↔ x.map Json.toClass? = y.map Json.toClass? := by
  cases x with
  | none => cases y <;> simp [agree]
  | some v =>
    cases y with
    | none => simp [agree]
    | some w => simp [agree, Json.sameKeyClass (keys v rfl)]

theorem Filter.sameClass {a b : Filter} (flat : a.Flat) : a.same b = true ↔ a.toClass = b.toClass := by
  cases a with
  | other v => cases b <;> simp [same, toClass, Json.sameKeyClass flat]
  | asking language scheme =>
    cases b with
    | other w => simp [same, toClass]
    | asking language' scheme' =>
      have first := agreeClass (y := language') fun v given => flat v (.inl given)
      have second := agreeClass (y := scheme') fun v given => flat v (.inr given)
      simp only [same, Bool.and_eq_true, first, second, toClass, Sum.inl.injEq, Prod.mk.injEq]

def Selector.Flat (s : Selector) : Prop := ∀ f ∈ s, f.Flat

theorem Selector.sameClass {a b : Selector} (flat : a.Flat) :
    a.same b = true ↔ List.map Filter.toClass a = List.map Filter.toClass b := by
  induction a generalizing b with
  | nil => cases b <;> simp [same]
  | cons f rest ih =>
    obtain ⟨here, later⟩ := List.forall_mem_cons.mp flat
    cases b with
    | nil => simp [same]
    | cons g others =>
      have tail := ih (b := others) later
      simp only [same, Bool.and_eq_true, beq_iff_eq] at tail
      simp only [same, List.length_cons, List.zip_cons_cons, List.all_cons, Bool.and_eq_true, beq_iff_eq,
        Nat.add_right_cancel_iff, Filter.sameClass here, List.map_cons, List.cons.injEq, ← tail]
      exact and_left_comm

namespace ProviderEntry

def toClass (r : ProviderEntry) : List Filter.Class × Nat :=
  (r.selector.map Filter.toClass, r.provider.id)

theorem sameClass {a b : ProviderEntry} (flat : a.selector.Flat) : a.same b = true ↔ a.toClass = b.toClass := by
  simp only [same, Bool.and_eq_true, beq_iff_eq, Selector.sameClass flat, toClass, Prod.mk.injEq]

end ProviderEntry

namespace Undo

def command? : Undo → Option String
  | .command name => some name
  | _ => none

def provider? : Undo → Option ProviderEntry
  | .provider r => some r
  | _ => none

end Undo

namespace Extension

variable {e e' : Extension}

/-! Removing an entry takes away one of its class. -/

theorem removeSome {r : ProviderEntry} {entries rest : List ProviderEntry} (found : removeProvider? r entries = some rest) :
    ∃ p, entries.Perm (p :: rest) ∧ p.same r = true := by
  induction entries generalizing rest with
  | nil => cases found
  | cons p others ih =>
    simp only [removeProvider?] at found
    split at found
    · rename_i same
      cases found
      exact ⟨p, .refl _, same⟩
    · obtain ⟨left, later, rfl⟩ := Option.map_eq_some_iff.mp found
      obtain ⟨q, apart, same⟩ := ih later
      exact ⟨q, (apart.cons p).trans (.swap q p left), same⟩

theorem removeNone {r : ProviderEntry} {entries : List ProviderEntry} :
    removeProvider? r entries = none ↔ entries.countP (·.same r) = 0 := by
  induction entries with
  | nil => simp [removeProvider?]
  | cons p others ih =>
    simp only [removeProvider?]
    split
    · rename_i same
      simp [same]
    · rename_i other
      rw [List.countP_cons_of_neg (by simpa using other), Option.map_eq_none_iff, ih]

/-! What is registered, by the disposables that are not spent. -/

def live (e : Extension) : List Undo := e.disposables.reduceOption

def liveCommands (e : Extension) : List String := e.live.filterMap Undo.command?

def liveProviders (e : Extension) : List ProviderEntry := e.live.filterMap Undo.provider?

/-- The registered names are those of the live command registrations, of which no two have one name, and each class of
entries is among the providers as often as among the live registrations. -/
structure Registered (e : Extension) : Prop where
  commands : (e.commands.map Prod.fst).Perm e.liveCommands
  once : e.liveCommands.Nodup
  providers : ∀ r, e.providers.countP (·.same r) = e.liveProviders.countP (·.same r)

structure Kept (e : Extension) : Prop where
  registered : Registered e
  listed : ∀ r ∈ e.providers, r.selector.Flat
  flat : ∀ r ∈ e.liveProviders, r.selector.Flat

section Added

variable {u : Undo} (added : e'.disposables = e.disposables ++ [some u])
include added

theorem liveAdded : e'.live = e.live ++ [u] := by
  rw [live, added, List.reduceOption_append, List.reduceOption_singleton]
  rfl

theorem liveCommandsAdded : e'.liveCommands = e.liveCommands ++ u.command?.toList := by
  rw [liveCommands, liveAdded added, List.filterMap_append]
  cases u <;> rfl

theorem liveProvidersAdded : e'.liveProviders = e.liveProviders ++ u.provider?.toList := by
  rw [liveProviders, liveAdded added, List.filterMap_append]
  cases u <;> rfl

end Added

section Spent

variable {id : DisposableId} {u : Undo} (held : e.disposables[id]? = some (some u))
  (spent : e'.disposables = e.disposables.set id none)
include held spent

theorem liveSplit : e.live = (e.disposables.take id).reduceOption ++ u :: (e.disposables.drop (id + 1)).reduceOption ∧
    e'.live = (e.disposables.take id).reduceOption ++ (e.disposables.drop (id + 1)).reduceOption := by
  obtain ⟨inside, held⟩ := List.getElem?_eq_some_iff.mp held
  have whole : e.disposables = e.disposables.take id ++ some u :: e.disposables.drop (id + 1) := by
    rw [← held, List.getElem_cons_drop, List.take_append_drop]
  constructor
  · rw [live, ← List.reduceOption_cons_of_some, ← List.reduceOption_append, ← whole]
  · rw [live, spent, List.set_eq_take_append_cons_drop, if_pos inside, List.reduceOption_append,
      List.reduceOption_cons_of_none]

theorem liveSpent : e.live.Perm (u :: e'.live) := by
  obtain ⟨whole, rest⟩ := liveSplit held spent
  rw [whole, rest]
  exact List.perm_middle

theorem liveCommandsSpent : e.liveCommands.Perm (u.command?.toList ++ e'.liveCommands) := by
  have split := (liveSpent held spent).filterMap Undo.command?
  cases u <;> exact split

theorem liveProvidersSpent : e.liveProviders.Perm (u.provider?.toList ++ e'.liveProviders) := by
  have split := (liveSpent held spent).filterMap Undo.provider?
  cases u <;> exact split

end Spent

/-! What each move keeps. -/

theorem keptAside (kept : Kept e) (commands : e'.commands = e.commands) (providers : e'.providers = e.providers)
    (disposables : e'.disposables = e.disposables) : Kept e' := by
  obtain ⟨⟨names, once, classes⟩, listed, flat⟩ := kept
  refine ⟨⟨?_, ?_, ?_⟩, ?_, ?_⟩
  all_goals simpa only [liveCommands, liveProviders, live, commands, providers, disposables]

theorem clearingKept (kept : Kept e) : Kept (e.addDisposable .clearStore).2 := by
  obtain ⟨⟨names, once, classes⟩, listed, flat⟩ := kept
  have commands : (e.addDisposable .clearStore).2.liveCommands = e.liveCommands :=
    (liveCommandsAdded rfl).trans (List.append_nil _)
  have providers : (e.addDisposable .clearStore).2.liveProviders = e.liveProviders :=
    (liveProvidersAdded rfl).trans (List.append_nil _)
  exact ⟨⟨commands ▸ names, commands ▸ once, providers ▸ classes⟩, listed, providers ▸ flat⟩

theorem freeAbsent {name : String} : e.Free name ↔ name ∉ e.commands.map Prod.fst := by
  simp only [Free, handler?, Option.map_eq_none_iff, List.find?_eq_none, decide_eq_true_eq, List.mem_map, not_exists, not_and]

theorem commandKept (kept : Kept e) {name : String} (free : e.Free name) {h : Handler}
    (commands : e'.commands = e.commands ++ [(name, h)]) (providers : e'.providers = e.providers)
    (disposables : e'.disposables = e.disposables ++ [some (.command name)]) : Kept e' := by
  obtain ⟨⟨names, once, classes⟩, listed, flat⟩ := kept
  have commands' : e'.liveCommands = e.liveCommands ++ [name] := liveCommandsAdded disposables
  have providers' : e'.liveProviders = e.liveProviders := (liveProvidersAdded disposables).trans (List.append_nil _)
  refine ⟨⟨?_, ?_, ?_⟩, ?_, ?_⟩
  · rw [commands, commands', List.map_append]
    exact names.append_right _
  · rw [commands', List.nodup_append_comm, List.singleton_append, List.nodup_cons]
    exact ⟨fun there => freeAbsent.mp free (names.mem_iff.mpr there), once⟩
  · rw [providers, providers']
    exact classes
  · rwa [providers]
  · rwa [providers']

theorem providerKept (kept : Kept e) {r : ProviderEntry} (new : r.selector.Flat) (commands : e'.commands = e.commands)
    (providers : e'.providers = e.providers ++ [r])
    (disposables : e'.disposables = e.disposables ++ [some (.provider r)]) : Kept e' := by
  obtain ⟨⟨names, once, classes⟩, listed, flat⟩ := kept
  have commands' : e'.liveCommands = e.liveCommands := (liveCommandsAdded disposables).trans (List.append_nil _)
  have providers' : e'.liveProviders = e.liveProviders ++ [r] := liveProvidersAdded disposables
  refine ⟨⟨?_, ?_, ?_⟩, ?_, ?_⟩
  · rwa [commands, commands']
  · rwa [commands']
  · intro q
    rw [providers, providers', List.countP_append, List.countP_append, classes]
  · rw [providers]
    exact List.forall_mem_append.mpr ⟨listed, List.forall_mem_singleton.mpr new⟩
  · rw [providers']
    exact List.forall_mem_append.mpr ⟨flat, List.forall_mem_singleton.mpr new⟩

/-! Disposing finds what it removes, since as many entries of its class are listed as are live. -/

theorem removeListed {r : ProviderEntry} {listed live : List ProviderEntry} (flat : ∀ p ∈ listed, p.selector.Flat)
    (new : r.selector.Flat) (classes : ∀ q, listed.countP (·.same q) = (r :: live).countP (·.same q)) :
    ∃ rest, removeProvider? r listed = some rest ∧ rest.Subset listed ∧
      ∀ q, rest.countP (·.same q) = live.countP (·.same q) := by
  have self : r.same r = true := (ProviderEntry.sameClass new).mpr rfl
  have some : listed.countP (·.same r) ≠ 0 := by
    rw [classes, List.countP_cons_of_pos (by exact self)]
    exact Nat.succ_ne_zero _
  obtain ⟨rest, found⟩ := Option.ne_none_iff_exists'.mp (mt removeNone.mp some)
  obtain ⟨p, apart, same⟩ := removeSome found
  have flatP := flat p (apart.mem_iff.mpr List.mem_cons_self)
  have class' := (ProviderEntry.sameClass flatP).mp same
  refine ⟨rest, found, fun q mem => apart.mem_iff.mpr (List.mem_cons_of_mem _ mem), fun q => ?_⟩
  have alike : p.same q = r.same q := by
    rw [Bool.eq_iff_iff, ProviderEntry.sameClass flatP, ProviderEntry.sameClass new, class']
  have count := (apart.countP_eq (·.same q)).symm.trans (classes q)
  rw [List.countP_cons, List.countP_cons, alike] at count
  exact Nat.add_right_cancel count

theorem undoKept {spent : Extension} {u : Undo} (kept : Kept e) (commands : spent.commands = e.commands)
    (providers : spent.providers = e.providers) (names : e.liveCommands.Perm (u.command?.toList ++ spent.liveCommands))
    (entries : e.liveProviders.Perm (u.provider?.toList ++ spent.liveProviders)) :
    ∃ e', spent.undo u = .ok e' ∧ Kept e' := by
  obtain ⟨⟨registered, once, classes⟩, listed, flat⟩ := kept
  replace registered := registered.trans names
  replace classes := fun r => (classes r).trans (entries.countP_eq _)
  have flat' := fun r mem => flat r (entries.mem_iff.mpr (List.mem_append_right _ mem))
  have once' := names.nodup_iff.mp once
  rw [← commands] at registered
  simp only [← providers] at classes listed
  cases u with
  | clearStore => exact ⟨_, rfl, ⟨registered, once', classes⟩, listed, flat'⟩
  | command name =>
    obtain ⟨gone, rest⟩ := List.nodup_cons.mp once'
    have others : spent.liveCommands.filter (· ≠ name) = spent.liveCommands :=
      List.filter_eq_self.mpr fun other mem => by simpa using ne_of_mem_of_not_mem mem gone
    have left : ((spent.commands.map Prod.fst).filter (· ≠ name)).Perm ((name :: spent.liveCommands).filter (· ≠ name)) :=
      registered.filter _
    rw [List.filter_map, List.filter_cons_of_neg (by simp), others] at left
    exact ⟨_, rfl, ⟨left, rest, classes⟩, listed, flat'⟩
  | provider r =>
    have new := flat r (entries.mem_iff.mpr List.mem_cons_self)
    obtain ⟨rest, found, within, classes'⟩ := removeListed listed new classes
    refine ⟨{ spent with providers := rest }, by rw [undo, found], ⟨registered, once', classes'⟩, ?_, flat'⟩
    exact fun p mem => listed p (within mem)

theorem disposeKept (kept : Kept e) (id : DisposableId) : (e.dispose id).1 = .ok () ∧ Kept (e.dispose id).2 := by
  simp only [dispose]
  split
  · rename_i u held
    let spent : Extension := { e with disposables := e.disposables.set id none }
    obtain ⟨e', undone, kept'⟩ : ∃ e', spent.undo u = .ok e' ∧ Kept e' :=
      undoKept kept rfl rfl (liveCommandsSpent held rfl) (liveProvidersSpent held rfl)
    rw [undone]
    exact ⟨rfl, kept'⟩
  · exact ⟨rfl, kept⟩

end Extension

end AccessFix
