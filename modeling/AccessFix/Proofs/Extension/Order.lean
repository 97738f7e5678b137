import AccessFix.Proofs.Extension.Calls

/-! The order of providers. A registration that is disposed of takes the first listed entry of its class with it, which need not be
its own, so that the entries of other classes may come to stand before one that was registered earlier. -/
namespace AccessFix

/-! What a class decides: the documents that are accepted. -/

theorem Json.sameTextClass {v w : Json} (classes : v.toClass? = w.toClass?) (s : String) :
    (Json.string s).same v = (Json.string s).same w := by
  have text (v : Json) : (Json.string s).same v = decide (v.toClass? = some (.text s)) := by
    cases v <;> simp [same, sameKey, toClass?, eq_comm]
  rw [text, text, classes]

theorem Filter.acceptsClass {f g : Filter} (classes : f.toClass = g.toClass) (d : Document) : f.accepts d = g.accepts d := by
  cases f with
  | other v =>
    cases g with
    | other w => rfl
    | asking language scheme => simp [toClass] at classes
  | asking language scheme =>
    cases g with
    | other w => simp [toClass] at classes
    | asking language' scheme' =>
      simp only [toClass, Sum.inl.injEq, Prod.mk.injEq] at classes
      obtain ⟨languages, schemes⟩ := classes
      cases language with
      | none =>
        cases language' with
        | none => rfl
        | some w => cases languages
      | some v =>
        cases language' with
        | none => cases languages
        | some w =>
          have first := Json.sameTextClass (Option.some.inj languages) d.languageId
          cases scheme with
          | none =>
            cases scheme' with
            | none => simp only [accepts, first]
            | some w => cases schemes
          | some v =>
            cases scheme' with
            | none => cases schemes
            | some w => simp only [accepts, first, Json.sameTextClass (Option.some.inj schemes) d.scheme]

theorem Selector.acceptsClass {a b : Selector} (classes : List.map Filter.toClass a = List.map Filter.toClass b) (d : Document) :
    a.accepts d = b.accepts d := by
  induction a generalizing b with
  | nil =>
    cases b with
    | nil => rfl
    | cons g others => cases classes
  | cons f rest ih =>
    cases b with
    | nil => cases classes
    | cons g others =>
      obtain ⟨first, later⟩ := List.cons.inj classes
      rw [accepts, accepts, Filter.acceptsClass first, ih later]

namespace Extension

variable {e e' : Extension} {r : ProviderEntry} {id : DisposableId}

/-! Removing an entry, by classes. -/

theorem movedPast {α : Type} {c : α} {before after : List α} :
    before ++ c :: after = c :: (before ++ after) ↔ ∀ x ∈ before, x = c := by
  induction before with
  | nil => simp
  | cons b before ih =>
    rw [List.cons_append, List.cons_append, List.cons.injEq, List.forall_mem_cons]
    constructor
    · rintro ⟨rfl, same⟩
      exact ⟨rfl, ih.mp same⟩
    · rintro ⟨rfl, all⟩
      exact ⟨rfl, ih.mpr all⟩

theorem removeAt {listed rest : List ProviderEntry} {before after : List (List Filter.Class × Nat)}
    (flat : ∀ p ∈ listed, p.selector.Flat) (removed : removeProvider? r listed = some rest)
    (classes : listed.map ProviderEntry.toClass = before ++ r.toClass :: after) :
    rest.map ProviderEntry.toClass = before ++ after ↔ before.Pairwise fun x y => x = r.toClass → y = r.toClass := by
  induction listed generalizing before rest with
  | nil => cases removed
  | cons p others ih =>
    obtain ⟨flatHere, flatRest⟩ := List.forall_mem_cons.mp flat
    rw [removeProvider?] at removed
    split at removed
    · rename_i same
      cases removed
      have here := (ProviderEntry.sameClass flatHere).mp same
      cases before with
      | nil => simp [(List.cons.inj classes).2]
      | cons b before =>
        rw [List.map_cons, List.cons_append, List.cons.injEq] at classes
        obtain ⟨head, tail⟩ := classes
        obtain rfl : b = r.toClass := head.symm.trans here
        rw [tail, List.cons_append, movedPast, List.pairwise_cons]
        exact ⟨fun all => ⟨fun y mem _ => all y mem, List.pairwise_of_forall_mem_list fun _ _ y mem _ => all y mem⟩,
          fun both y mem => both.1 y mem rfl⟩
    · rename_i other
      obtain ⟨left, later, rfl⟩ := Option.map_eq_some_iff.mp removed
      have differs : p.toClass ≠ r.toClass := mt (ProviderEntry.sameClass flatHere).mpr other
      cases before with
      | nil => exact absurd (List.cons.inj classes).1 differs
      | cons b before =>
        rw [List.map_cons, List.cons_append, List.cons.injEq] at classes
        obtain ⟨rfl, tail⟩ := classes
        rw [List.map_cons, List.cons_append, List.cons.injEq, List.pairwise_cons, ih flatRest later tail]
        simp [differs]

def Ordered (e : Extension) : Prop := e.providers.map ProviderEntry.toClass = e.liveProviders.map ProviderEntry.toClass

def liveBefore (e : Extension) (id : DisposableId) : List ProviderEntry :=
  (e.disposables.take id).reduceOption.filterMap Undo.provider?

/-- Of the registrations before it that are not disposed of, none of another class comes after one of its class. -/
def Timely (e : Extension) (id : DisposableId) : Prop :=
  ∀ r, e.disposables[id]? = some (some (.provider r)) →
    (e.liveBefore id).Pairwise fun p q => p.toClass = r.toClass → q.toClass = r.toClass

theorem disposeOther (other : ∀ r, e.disposables[id]? ≠ some (some (.provider r))) :
    (e.dispose id).2.providers = e.providers ∧ (e.dispose id).2.liveProviders = e.liveProviders := by
  simp only [dispose]
  split
  · rename_i u held
    let spent : Extension := { e with disposables := e.disposables.set id none }
    obtain ⟨whole, left⟩ := liveSplit held (show spent.disposables = _ from rfl)
    have same (silent : u.provider? = none) : spent.liveProviders = e.liveProviders := by
      rw [liveProviders, liveProviders, whole, left, List.filterMap_append, List.filterMap_append,
        List.filterMap_cons_none silent]
    cases u with
    | clearStore => exact ⟨rfl, same rfl⟩
    | command name => exact ⟨rfl, same rfl⟩
    | provider r => exact absurd held (other r)
  · exact ⟨rfl, rfl⟩

theorem disposeProvider (kept : Kept e) (held : e.disposables[id]? = some (some (.provider r))) :
    ∃ rest later, removeProvider? r e.providers = some rest ∧ (e.dispose id).2.providers = rest ∧
      e.liveProviders = e.liveBefore id ++ r :: later ∧ (e.dispose id).2.liveProviders = e.liveBefore id ++ later := by
  let spent : Extension := { e with disposables := e.disposables.set id none }
  obtain ⟨whole, left⟩ := liveSplit held (show spent.disposables = _ from rfl)
  have entries : e.liveProviders = e.liveBefore id ++ r :: (e.disposables.drop (id + 1)).reduceOption.filterMap Undo.provider? := by
    rw [liveProviders, whole, List.filterMap_append]
    rfl
  have entries' : spent.liveProviders = e.liveBefore id ++ (e.disposables.drop (id + 1)).reduceOption.filterMap Undo.provider? := by
    rw [liveProviders, left, List.filterMap_append]
    rfl
  have new : r.selector.Flat := kept.flat r (by rw [entries]; simp)
  have classes (q : ProviderEntry) : e.providers.countP (·.same q) = (r :: spent.liveProviders).countP (·.same q) :=
    (kept.registered.providers q).trans ((liveProvidersSpent held rfl).countP_eq _)
  obtain ⟨rest, found, -, -⟩ := removeListed kept.listed new classes
  have undone : spent.undo (.provider r) = .ok { spent with providers := rest } := by
    rw [undo]
    simp only [spent, found]
  have disposed : e.dispose id = (.ok (), { spent with providers := rest }) := by
    rw [dispose, held]
    simp only [spent] at undone
    simp only [undone, spent]
  exact ⟨rest, _, found, by rw [disposed], entries, by rw [disposed]; exact entries'⟩

theorem disposeWithin (kept : Kept e) (id : DisposableId) :
    (e.dispose id).2.providers ⊆ e.providers ∧ (e.dispose id).2.liveProviders ⊆ e.liveProviders := by
  by_cases provides : ∃ r, e.disposables[id]? = some (some (.provider r))
  · obtain ⟨r, held⟩ := provides
    obtain ⟨rest, later, removed, listed, live, left⟩ := disposeProvider kept held
    obtain ⟨p, apart, _⟩ := removeSome removed
    rw [listed, left, live]
    exact ⟨fun q mem => apart.mem_iff.mpr (List.mem_cons_of_mem p mem),
      fun q mem => List.mem_append.mpr ((List.mem_append.mp mem).imp_right (List.mem_cons_of_mem r))⟩
  · obtain ⟨listed, live⟩ := disposeOther fun r held => provides ⟨r, held⟩
    rw [listed, live]
    exact ⟨List.Subset.refl _, List.Subset.refl _⟩

theorem disposeOrdered (kept : Kept e) (ordered : Ordered e) (id : DisposableId) :
    Ordered (e.dispose id).2 ↔ Timely e id := by
  by_cases provides : ∃ r, e.disposables[id]? = some (some (.provider r))
  · obtain ⟨r, held⟩ := provides
    obtain ⟨rest, later, removed, listed, live, left⟩ := disposeProvider kept held
    have only (P : ProviderEntry → Prop) : (∀ r', e.disposables[id]? = some (some (.provider r')) → P r') ↔ P r := by
      simp [held]
    unfold Ordered at ordered
    rw [live, List.map_append, List.map_cons] at ordered
    rw [Timely, only, Ordered, listed, left, List.map_append, removeAt kept.listed removed ordered, List.pairwise_map]
  · have other (r : ProviderEntry) : e.disposables[id]? ≠ some (some (.provider r)) := fun held => provides ⟨r, held⟩
    obtain ⟨listed, live⟩ := disposeOther other
    refine iff_of_true ?_ fun r held => absurd held (other r)
    rwa [Ordered, listed, live]

/-! Providers that are told by their numbers. -/

variable {offers : Nat → BufferId → Range → List Issue → List FixAction}

structure Standing (offers : Nat → BufferId → Range → List Issue → List FixAction) (e : Extension) : Prop where
  kept : Kept e
  listed : ∀ r ∈ e.providers, r.provider.offers = offers r.provider.id
  live : ∀ r ∈ e.liveProviders, r.provider.offers = offers r.provider.id

theorem disposeStanding (standing : Standing offers e) (id : DisposableId) : Standing offers (e.dispose id).2 := by
  obtain ⟨listed, live⟩ := disposeWithin standing.kept id
  exact ⟨(disposeKept standing.kept id).2, fun r mem => standing.listed r (listed mem), fun r mem => standing.live r (live mem)⟩

theorem mapMAlike {β : Type} {f : ProviderEntry → Except ShapeFault β} {xs ys : List ProviderEntry}
    (alike : ∀ x ∈ xs, ∀ y ∈ ys, x.toClass = y.toClass → f x = f y)
    (classes : xs.map ProviderEntry.toClass = ys.map ProviderEntry.toClass) : xs.mapM f = ys.mapM f := by
  induction xs generalizing ys with
  | nil =>
    cases ys with
    | nil => rfl
    | cons y ys => cases classes
  | cons x xs ih =>
    cases ys with
    | nil => cases classes
    | cons y ys =>
      obtain ⟨first, later⟩ := List.cons.inj classes
      rw [List.mapM_cons, List.mapM_cons, alike x List.mem_cons_self y List.mem_cons_self first,
        ih (fun x memX y memY => alike x (List.mem_cons_of_mem _ memX) y (List.mem_cons_of_mem _ memY)) later]

theorem actionsOrdered (standing : Standing offers e) (ordered : Ordered e) (w : Workspace) (document : BufferId)
    (range : Range) : e.actions w document range = { e with providers := e.liveProviders }.actions w document range := by
  refine congrArg (· >>= fun offers => pure offers.flatten) (mapMAlike (fun x memX y memY classes => ?_) ordered)
  simp only [ProviderEntry.toClass, Prod.mk.injEq] at classes
  rw [Selector.acceptsClass classes.1, standing.listed x memX, standing.live y memY, classes.2]

inductive Move where
  | register (s : Selector) (provider : Nat) (flat : s.Flat)
  | dispose (id : DisposableId)

def Move.call (offers : Nat → BufferId → Range → List Issue → List FixAction) : Move → Call
  | .register s provider flat => .registerProvider s ⟨provider, offers provider⟩ flat
  | .dispose id => .dispose id

theorem registerLive (e : Extension) (s : Selector) (p : Provider) :
    (e.registerProvider s p).2.liveProviders = e.liveProviders ++ [⟨s, p⟩] :=
  liveProvidersAdded (u := .provider ⟨s, p⟩) rfl

theorem moveStanding (standing : Standing offers e) (m : Move) : Standing offers ((m.call offers).run e) := by
  cases m with
  | register s provider flat =>
    refine ⟨(providerContinued e flat _).kept standing.kept, ?_, ?_⟩
    · exact List.forall_mem_append.mpr ⟨standing.listed, List.forall_mem_singleton.mpr rfl⟩
    · change ∀ r ∈ (e.registerProvider s ⟨provider, offers provider⟩).2.liveProviders, _
      rw [registerLive]
      exact List.forall_mem_append.mpr ⟨standing.live, List.forall_mem_singleton.mpr rfl⟩
  | dispose id => exact disposeStanding standing id

theorem moveOrdered (standing : Standing offers e) (ordered : Ordered e) (m : Move) :
    Ordered ((m.call offers).run e) ↔ ∀ id, m = .dispose id → Timely e id := by
  cases m with
  | register s provider flat =>
    refine iff_of_true ?_ fun _ same => nomatch same
    change _ = (e.registerProvider s ⟨provider, offers provider⟩).2.liveProviders.map _
    rw [registerLive, List.map_append, ← ordered, ← List.map_append]
    rfl
  | dispose id =>
    rw [Move.call, Call.run, disposeOrdered standing.kept ordered]
    simp

def moved (offers : Nat → BufferId → Range → List Issue → List FixAction) (e : Extension) (moves : List Move) : Extension :=
  after e (moves.map (Move.call offers))

theorem movedNext (e : Extension) (moves : List Move) (m : Move) :
    moved offers e (moves ++ [m]) = (m.call offers).run (moved offers e moves) := by simp [moved, after]

theorem movedStanding (standing : Standing offers e) (moves : List Move) : Standing offers (moved offers e moves) := by
  induction moves using List.reverseRecOn with
  | nil => exact standing
  | append_singleton moves m ih =>
    rw [movedNext]
    exact moveStanding ih m

theorem movedOrdered (standing : Standing offers e) (ordered : Ordered e) (moves : List Move) :
    (∀ before, before <+: moves → Ordered (moved offers e before)) ↔
      ∀ before id, before ++ [.dispose id] <+: moves → Timely (moved offers e before) id := by
  induction moves using List.reverseRecOn with
  | nil => simp [moved, after, ordered]
  | append_singleton moves m ih =>
    simp only [List.prefix_concat_iff, or_imp, forall_and, forall_eq]
    rw [ih, movedNext]
    refine and_congr_left fun timely => ?_
    have before : Ordered (moved offers e moves) := ih.mpr timely moves (List.prefix_refl moves)
    rw [moveOrdered (movedStanding standing moves) before m]
    constructor
    · intro here earlier id same
      obtain ⟨rfl, last⟩ := List.append_inj' same rfl
      exact here id (List.singleton_inj.mp last.symm)
    · rintro all id rfl
      exact all moves id rfl

/-- Providers that are registered and disposed of are listed in order throughout exactly if every disposal is timely. As long as
the order is kept, the actions are those of the registrations that are not disposed of, in their order. -/
theorem orderKept (offers : Nat → BufferId → Range → List Issue → List FixAction) (config : Config) (store : IssueStore)
    (fixer : Fixer) (moves : List Move) :
    let made (moves : List Move) := moved offers (newWith config store fixer) moves
    ((∀ before, before <+: moves → Ordered (made before)) ↔
      ∀ before id, before ++ [.dispose id] <+: moves → Timely (made before) id) ∧
    (Ordered (made moves) → ∀ w document range, (made moves).actions w document range =
      { made moves with providers := (made moves).liveProviders }.actions w document range) := by
  have standing : Standing offers (newWith config store fixer) :=
    ⟨newKept config store fixer, by simp [newWith, new], by simp [newWith, new, liveProviders, live]⟩
  exact ⟨movedOrdered standing rfl moves, actionsOrdered (movedStanding standing moves)⟩

def fresh : Extension := newWith {} (.new toolName) ⟨({} : Config).client, .write true⟩

def board : Workspace := ⟨⟨[], [], []⟩, [⟨"/p/A.jsx", ['x'], "javascriptreact", "file"⟩]⟩

def numbered (provider : Nat) : BufferId → Range → List Issue → List FixAction := fun _ _ _ => [⟨default, provider⟩]

def thrice (last : DisposableId) : List Move :=
  [.register componentFiles 0 componentFilesFlat, .register componentFiles 1 componentFilesFlat,
    .register componentFiles 0 componentFilesFlat, .dispose last]

def documentsOf (actions : Except ShapeFault (List FixAction)) : Except ShapeFault (List BufferId) :=
  actions.map fun actions => actions.map FixAction.document

theorem firstLeaves : let e := moved numbered fresh (thrice 0)
    Ordered e ∧ documentsOf (e.actions board 0 default) = .ok [1, 0] := by
  have ordered : Ordered (moved numbered fresh (thrice 0)) := rfl
  have kept := (orderKept numbered _ _ _ (thrice 0)).2 ordered board 0 default
  exact ⟨ordered, (congrArg documentsOf kept).trans rfl⟩

theorem noneFlat : Selector.Flat [.asking none none] := by simp [Selector.Flat, Filter.Flat]

theorem nullFlat : Selector.Flat [.other .null] := by simp [Selector.Flat, Filter.Flat, Json.isKey]

def failing : List Move :=
  [.register [.asking none none] 0 noneFlat, .register [.other .null] 0 nullFlat, .register [.asking none none] 0 noneFlat,
    .dispose 2]

theorem lastStays : let e := moved numbered fresh (thrice 2)
    let e' := moved numbered fresh failing
    ¬Ordered e ∧ documentsOf (e.actions board 0 default) = .ok [1, 0] ∧
      documentsOf ({ e with providers := e.liveProviders }.actions board 0 default) = .ok [0, 1] ∧
      documentsOf (e'.actions board 0 default) = .error .wrongKind ∧
      documentsOf ({ e' with providers := e'.liveProviders }.actions board 0 default) = .error .missingMember := by
  refine ⟨fun ordered => ?_, rfl, rfl, rfl, rfl⟩
  cases congrArg (List.map Prod.snd) ordered

end Extension

end AccessFix
