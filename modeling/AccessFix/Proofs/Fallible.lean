import Mathlib

/-! Computations that end with a value or a fault, taken apart: where a sequence of steps ends with a value, every step
did. Where a step is made for every item of a list, items and values stand in pairs. -/
namespace AccessFix.Fallible

variable {ε α β γ : Type}

theorem okBind (a : α) (f : α → Except ε β) : (Except.ok a >>= f) = f a := rfl

theorem bindOk {x : Except ε α} {f : α → Except ε β} {b : β} :
    (x >>= f) = .ok b ↔ ∃ a, x = .ok a ∧ f a = .ok b := by
  cases x with
  | error e => simp [bind, Except.bind]
  | ok a => simp [bind, Except.bind]

theorem bindError {x : Except ε α} {f : α → Except ε β} {e : ε} :
    (x >>= f) = .error e ↔ x = .error e ∨ ∃ a, x = .ok a ∧ f a = .error e := by
  cases x with
  | error e => simp [bind, Except.bind]
  | ok a => simp [bind, Except.bind]

theorem pureOk {a b : α} : (pure a : Except ε α) = .ok b ↔ a = b := by simp [pure, Except.pure]

theorem pureError {a : α} {e : ε} : (pure a : Except ε α) ≠ .error e := by simp [pure, Except.pure]

theorem throwOk {e : ε} {a : α} : (throw e : Except ε α) ≠ .ok a := by simp [throw, throwThe, MonadExceptOf.throw]

theorem mapErrorError {φ : Type} {g : ε → φ} {x : Except ε α} {e : φ} :
    x.mapError g = .error e ↔ ∃ e', x = .error e' ∧ g e' = e := by
  cases x <;> simp [Except.mapError]

theorem mapErrorOk {φ : Type} {g : ε → φ} {x : Except ε α} {a : α} : x.mapError g = .ok a ↔ x = .ok a := by
  cases x <;> simp [Except.mapError]

theorem mapOk {f : α → β} {x : Except ε α} {b : β} : x.map f = .ok b ↔ ∃ a, x = .ok a ∧ f a = b := by
  cases x <;> simp [Except.map]

theorem mapErrorMap {φ : Type} (g : ε → φ) (f : α → β) (x : Except ε α) : (x.map f).mapError g = (x.mapError g).map f := by
  cases x <;> rfl

theorem bindMapped (x : Except ε α) (f : α → β) (g : β → Except ε γ) : (x.map f >>= g) = x >>= fun a => g (f a) := by
  cases x <;> rfl

theorem mappedBind (x : Except ε α) (f : α → Except ε β) (g : β → γ) : (x >>= f).map g = x >>= fun a => (f a).map g := by
  cases x <;> rfl

theorem mappedSame {x : Except ε α} {f : α → α} : x.map f = x ↔ ∀ a, x = .ok a → f a = a := by
  cases x <;> simp [Except.map]

/-! Two computations that part somewhere end alike, for who looks at their values through `g`, if they do so where they have
parted. -/

theorem mapBind {x : Except ε α} {f f' : α → Except ε β} {g : β → γ}
    (same : ∀ a, x = .ok a → (f a).map g = (f' a).map g) : (x >>= f).map g = (x >>= f').map g := by
  cases x with
  | error e => rfl
  | ok a => exact same a rfl

theorem mapIf {p : Prop} [Decidable p] {x y x' y' : Except ε β} {g : β → γ} (holds : x.map g = x'.map g)
    (fails : y.map g = y'.map g) : (if p then x else y).map g = (if p then x' else y').map g := by
  split <;> assumption

theorem mapMOk {f : α → Except ε β} {xs : List α} {ys : List β} :
    xs.mapM f = .ok ys ↔ List.Forall₂ (fun x y => f x = .ok y) xs ys := by
  induction xs generalizing ys with
  | nil => simp [pure, Except.pure, eq_comm]
  | cons x xs ih =>
    simp only [List.mapM_cons, bindOk, pureOk, ih, List.forall₂_cons_left_iff]
    constructor
    · rintro ⟨y, head, ys, tail, rfl⟩
      exact ⟨y, ys, head, tail, rfl⟩
    · rintro ⟨y, ys, head, tail, rfl⟩
      exact ⟨y, head, ys, tail, rfl⟩

theorem mapMErrorFirst {f : α → Except ε β} {xs : List α} {e : ε} : xs.mapM f = .error e ↔
    ∃ before x after, xs = before ++ x :: after ∧ (∀ y ∈ before, ∃ b, f y = .ok b) ∧ f x = .error e := by
  induction xs with
  | nil => simp [pure, Except.pure]
  | cons x xs ih =>
    have step : (x :: xs).mapM f = .error e ↔ f x = .error e ∨ (∃ b, f x = .ok b) ∧ xs.mapM f = .error e := by
      simp only [List.mapM_cons, bindError, pureError, and_false, exists_false, or_false, exists_and_right]
    rw [step, ih]
    constructor
    · rintro (here | ⟨⟨b, ok⟩, before, y, after, rfl, converted, failed⟩)
      · exact ⟨[], x, xs, rfl, by simp, here⟩
      · exact ⟨x :: before, y, after, rfl, by simpa [ok] using converted, failed⟩
    · rintro ⟨before, y, after, parts, converted, failed⟩
      cases before with
      | nil =>
        cases parts
        exact .inl failed
      | cons z before =>
        cases parts
        exact .inr ⟨converted x (by simp), before, y, after, rfl, fun w mem => converted w (by simp [mem]), failed⟩

theorem mapMPaired {f : α → Except ε γ} {g : β → Except ε γ} {xs : List α} {ys : List β}
    (paired : List.Forall₂ (fun x y => f x = g y) xs ys) : xs.mapM f = ys.mapM g := by
  induction paired with
  | nil => rfl
  | cons head _ ih => rw [List.mapM_cons, List.mapM_cons, head, ih]

theorem mapMError {f : α → Except ε β} {xs : List α} {e : ε} (failed : xs.mapM f = .error e) :
    ∃ x ∈ xs, f x = .error e := by
  obtain ⟨before, x, after, rfl, _, here⟩ := mapMErrorFirst.mp failed
  exact ⟨x, by simp, here⟩

theorem foldlMKeeps {P : β → Prop} {f : β → α → Except ε β} {xs : List α}
    (step : ∀ b, ∀ a ∈ xs, ∀ b', P b → f b a = .ok b' → P b') {b b' : β} (start : P b) (ok : xs.foldlM f b = .ok b') :
    P b' := by
  induction xs generalizing b with
  | nil => rwa [← pureOk.mp ok]
  | cons x xs ih =>
    rw [List.foldlM_cons] at ok
    obtain ⟨next, here, later⟩ := bindOk.mp ok
    exact ih (fun b a mem => step b a (by simp [mem])) (step b x (by simp) next start here) later

theorem pairedLeft {R : α → β → Prop} {xs : List α} {ys : List β} (paired : List.Forall₂ R xs ys) {y : β}
    (mem : y ∈ ys) : ∃ x ∈ xs, R x y := by
  induction paired with
  | nil => simp at mem
  | cons head _ ih =>
    rcases List.mem_cons.mp mem with rfl | tail
    · exact ⟨_, by simp, head⟩
    · obtain ⟨x, there, related⟩ := ih tail
      exact ⟨x, by simp [there], related⟩

theorem pairedRight {R : α → β → Prop} {xs : List α} {ys : List β} (paired : List.Forall₂ R xs ys) {x : α}
    (mem : x ∈ xs) : ∃ y ∈ ys, R x y :=
  pairedLeft (List.Forall₂.flip (R := fun y x => R x y) paired) mem

theorem pairedThrough {R : α → β → Prop} {S : β → γ → Prop} {xs : List α} {ys : List β} {zs : List γ}
    (first : List.Forall₂ R xs ys) (second : List.Forall₂ S ys zs) :
    List.Forall₂ (fun x z => ∃ y, R x y ∧ S y z) xs zs := by
  induction first generalizing zs with
  | nil =>
    cases second
    exact .nil
  | cons head _ ih =>
    cases second with
    | cons next tail => exact .cons ⟨_, head, next⟩ (ih tail)

theorem pairedSplit {R : α → β → Prop} {xs : List α} {before after : List β} {y : β}
    (paired : List.Forall₂ R xs (before ++ y :: after)) :
    ∃ first x rest, xs = first ++ x :: rest ∧ List.Forall₂ R first before ∧ R x y ∧ List.Forall₂ R rest after := by
  induction before generalizing xs with
  | nil =>
    cases paired with
    | cons head tail => exact ⟨[], _, _, rfl, .nil, head, tail⟩
  | cons b before ih =>
    cases paired with
    | @cons a _ as _ head tail =>
      obtain ⟨first, x, rest, rfl, left, here, right⟩ := ih tail
      exact ⟨a :: first, x, rest, rfl, .cons head left, here, right⟩

theorem pairedMap {f : α → γ} {g : β → γ} {xs : List α} {ys : List β}
    (paired : List.Forall₂ (fun x y => g y = f x) xs ys) : ys.map g = xs.map f := by
  induction paired with
  | nil => rfl
  | cons head _ ih => rw [List.map_cons, List.map_cons, head, ih]

theorem pairedPairwise {R : α → β → Prop} (one : Relator.RightUnique R) {xs : List α} {ys : List β}
    (paired : List.Forall₂ R xs ys) {P : β → β → Prop} :
    ys.Pairwise P ↔ xs.Pairwise fun x x' => ∀ y y', R x y → R x' y' → P y y' := by
  induction paired with
  | nil => simp
  | @cons x y xs ys head tail ih =>
    simp only [List.pairwise_cons, ih]
    refine and_congr_left fun _ => ⟨?_, ?_⟩
    · intro held x' mem z z' here there
      obtain ⟨y', mem', there'⟩ := pairedRight tail mem
      rw [one here head, one there there']
      exact held y' mem'
    · intro held y' mem
      obtain ⟨x', mem', there⟩ := pairedLeft tail mem
      exact held x' mem' y y' head there

end AccessFix.Fallible
