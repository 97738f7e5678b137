import AccessFix.Proofs.Fallible
import AccessFix.Value

/-! Values that are built alike in two heaps, whatever the numbers of their collections are. Nothing that is read off a value tells
one from the other. -/
namespace AccessFix
open Fallible

section Linked
variable (R : Nat → Nat → Prop)

inductive Value.Linked : Value → Value → Prop where
  | plain {v : Value} (key : v.isKey = true) : Linked v v
  | collection {id id' : Nat} (paired : R id id') : Linked (.collection id) (.collection id')

inductive Collection.Linked : Collection → Collection → Prop where
  | list {items items' : List Value} (paired : List.Forall₂ (Value.Linked R) items items') : Linked (.list items) (.list items')
  | pair {a a' b b' : Value} (first : Value.Linked R a a') (second : Value.Linked R b b') : Linked (.pair a b) (.pair a' b')
  | map {entries entries' : List (Value × Value)}
      (paired : List.Forall₂ (fun e e' => Value.Linked R e.1 e'.1 ∧ Value.Linked R e.2 e'.2) entries entries') :
      Linked (.map entries) (.map entries')
  | set {items items' : List Value} (paired : List.Forall₂ (Value.Linked R) items items') : Linked (.set items) (.set items')

structure Heap.Matching (heap heap' : Heap) : Prop where
  single {id id' other other' : Nat} (paired : R id id') (others : R other other') : id = other ↔ id' = other'
  contents {id id' : Nat} (paired : R id id') : (heap.get id).Linked R (heap'.get id')

end Linked

def Value.Alike (heap heap' : Heap) (v v' : Value) : Prop := ∃ R, heap.Matching R heap' ∧ v.Linked R v'

variable {R : Nat → Nat → Prop} {heap heap' : Heap} {v v' : Value}

theorem Collection.itemsLinked {c c' : Collection} (linked : c.Linked R c') :
    List.Forall₂ (Value.Linked R) c.items c'.items := by
  cases linked with
  | list paired => exact paired
  | pair first second => exact .cons first (.cons second .nil)
  | map paired =>
    simp only [items, List.forall₂_map_left_iff, List.forall₂_map_right_iff]
    exact paired.imp fun _ _ entry => entry.1
  | set paired => exact paired

theorem Collection.formLinked {c c' : Collection} (linked : c.Linked R c') :
    c.isEmpty = c'.isEmpty ∧ c.kind = c'.kind ∧ c.cutOff = c'.cutOff := by
  cases linked with
  | list paired | map paired | set paired => cases paired <;> exact ⟨rfl, rfl, rfl⟩
  | pair _ _ => exact ⟨rfl, rfl, rfl⟩

theorem containsLinked (matching : heap.Matching R heap') {outer outer' : List Nat} (around : List.Forall₂ R outer outer')
    {id id' : Nat} (paired : R id id') : outer.contains id = outer'.contains id' := by
  induction around with
  | nil => rfl
  | cons head _ ih =>
    have same := matching.single paired head
    rw [List.contains_cons, List.contains_cons, ih, Bool.eq_iff_iff]
    simp [same]

theorem literalLinked (matching : heap.Matching R heap') (depth : Nat) {outer outer' : List Nat}
    (around : List.Forall₂ R outer outer') (linked : v.Linked R v') : heap.literal depth outer v = heap'.literal depth outer' v' := by
  induction depth generalizing outer outer' v v' with
  | zero => rfl
  | succ depth ih =>
    cases linked with
    | plain key =>
      cases v with
      | number n => cases n <;> rfl
      | collection id => cases key
      | _ => rfl
    | @collection id id' paired =>
      have contents := matching.contents paired
      have inner {v v' : Value} (linked : v.Linked R v') :
          heap.literal depth (id :: outer) v = heap'.literal depth (id' :: outer') v' := ih (.cons paired around) linked
      simp only [Heap.literal, containsLinked matching around paired, (Collection.formLinked contents).2.2]
      split
      · rfl
      · generalize heap.get id = c, heap'.get id' = c' at contents
        cases contents with
        | list items => exact congrArg (Except.map Text.Literal.list) (mapMPaired (items.imp fun _ _ => inner))
        | pair first second => simp only [inner first, inner second]
        | map entries =>
          refine congrArg (Except.map Text.Literal.map) (mapMPaired (entries.imp fun _ _ entry => ?_))
          simp only [inner entry.1, inner entry.2]
        | set items => exact congrArg (Except.map Text.Literal.set) (mapMPaired (items.imp fun _ _ => inner))

/-! What is read off values that are alike. -/

namespace Value.Alike

theorem ofKey (key : v.isKey = true) : Alike heap heap' v v :=
  ⟨fun _ _ => False, ⟨fun never => never.elim, fun never => never.elim⟩, .plain key⟩

theorem isPresent (alike : Alike heap heap' v v') : heap.isPresent v = heap'.isPresent v' := by
  obtain ⟨R, matching, linked⟩ := alike
  cases linked with
  | plain key =>
    cases v with
    | collection id => cases key
    | _ => rfl
  | collection paired => exact congrArg (!·) (Collection.formLinked (matching.contents paired)).1

theorem kind (alike : Alike heap heap' v v') : heap.kind v = heap'.kind v' := by
  obtain ⟨R, matching, linked⟩ := alike
  cases linked with
  | plain key =>
    cases v with
    | number n => cases n <;> rfl
    | collection id => cases key
    | _ => rfl
  | collection paired => exact (Collection.formLinked (matching.contents paired)).2.1

theorem text (alike : Alike heap heap' v v') : heap.text v = heap'.text v' := by
  obtain ⟨R, matching, linked⟩ := alike
  have same := literalLinked matching Heap.nestingLimit .nil linked
  cases linked with
  | plain key =>
    cases v with
    | string s | date d | dateTime t => rfl
    | _ => exact congrArg (Except.map letters) same
  | collection _ => exact congrArg (Except.map letters) same

theorem items (alike : Alike heap heap' v v') :
    Option.Rel (List.Forall₂ (Alike heap heap')) (heap.items? v) (heap'.items? v') := by
  obtain ⟨R, matching, linked⟩ := alike
  cases linked with
  | plain key =>
    cases v with
    | collection id => cases key
    | string s =>
      refine .some (List.forall₂_same.mpr fun item mem => ?_)
      obtain ⟨c, _, rfl⟩ := List.mem_map.mp mem
      exact ofKey rfl
    | octets bs =>
      refine .some (List.forall₂_same.mpr fun item mem => ?_)
      obtain ⟨b, _, rfl⟩ := List.mem_map.mp mem
      exact ofKey rfl
    | _ => exact .none
  | collection paired =>
    refine .some ((Collection.itemsLinked (matching.contents paired)).imp fun _ _ item => ?_)
    exact ⟨R, matching, item⟩

theorem entries (alike : Alike heap heap' v v') :
    Option.Rel (List.Forall₂ fun e e' => Alike heap heap' e.1 e'.1 ∧ Alike heap heap' e.2 e'.2)
      (heap.entries? v) (heap'.entries? v') := by
  obtain ⟨R, matching, linked⟩ := alike
  cases linked with
  | plain key =>
    cases v with
    | collection id => cases key
    | _ => exact .none
  | @collection id id' paired =>
    have contents := matching.contents paired
    unfold Heap.entries?
    simp only
    generalize heap.get id = c, heap'.get id' = c' at contents
    cases contents with
    | map entries => exact .some (entries.imp fun _ _ entry => ⟨⟨R, matching, entry.1⟩, ⟨R, matching, entry.2⟩⟩)
    | _ => exact .none

theorem sameKey (alike : Alike heap heap' v v') (s : Letters) : v.sameKey (.string s) = v'.sameKey (.string s) := by
  obtain ⟨R, _, linked⟩ := alike
  cases linked with
  | plain _ => rfl
  | collection _ => simp [Value.sameKey, Value.number?]

theorem entry {entries entries' : List (Value × Value)}
    (paired : List.Forall₂ (fun e e' => Alike heap heap' e.1 e'.1 ∧ Alike heap heap' e.2 e'.2) entries entries') (name : Letters) :
    Option.Rel (Alike heap heap') (Collection.entry? entries name) (Collection.entry? entries' name) := by
  induction paired with
  | nil => exact .none
  | @cons e e' _ _ head _ ih =>
    unfold Collection.entry? at ih ⊢
    rw [List.find?_cons, List.find?_cons, sameKey head.1]
    cases e'.1.sameKey (.string name) with
    | true => exact .some head.2
    | false => exact ih

end Value.Alike

end AccessFix
