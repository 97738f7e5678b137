import AccessFix.Config.Load
import AccessFix.Proofs.Value

/-! Settings that are alike: readings do not tell apart values that are built alike, nor sections that have such values. -/
namespace AccessFix
open Fallible

namespace Value
variable {heap heap' : Heap} {v v' : Value}

theorem Alike.toInt (alike : Alike heap heap' v v') : v.toInt heap = v'.toInt heap' := by
  have kind := alike.kind
  obtain ⟨R, _, linked⟩ := alike
  cases linked with
  | plain key =>
    cases v with
    | collection id => cases key
    | number n =>
      cases n with
      | int n => rfl
      | real x => cases x <;> rfl
    | _ => rfl
  | collection _ => exact congrArg (fun k => Except.error (ValueFault.notInteger k)) kind

theorem Alike.toDouble (alike : Alike heap heap' v v') : v.toDouble heap = v'.toDouble heap' := by
  have kind := alike.kind
  obtain ⟨R, _, linked⟩ := alike
  cases linked with
  | plain key =>
    cases v with
    | collection id => cases key
    | number n => cases n <;> rfl
    | _ => rfl
  | collection _ => exact congrArg (fun k => Except.error (ValueFault.notDecimal k)) kind

theorem Alike.toText (alike : Alike heap heap' v v') : v.toText heap = v'.toText heap' := by
  rw [Value.toText, Value.toText, alike.text]

theorem Alike.toTexts (alike : Alike heap heap' v v') : v.toTexts heap = v'.toTexts heap' := by
  have items := alike.items
  unfold Value.toTexts
  rw [alike.kind]
  generalize heap.items? v = given, heap'.items? v' = given' at items
  cases items with
  | none => rfl
  | some paired => exact mapMPaired (paired.imp fun _ _ item => item.toText)

theorem Alike.toCommand (alike : Alike heap heap' v v') : v.toCommand heap = v'.toCommand heap' := by
  have texts := alike.toTexts
  obtain ⟨R, _, linked⟩ := alike
  cases linked with
  | plain key => cases v <;> first | rfl | exact texts
  | collection _ => exact texts

theorem Alike.toPatterns (alike : Alike heap heap' v v') : v.toPatterns heap = v'.toPatterns heap' := by
  have texts := alike.toTexts
  obtain ⟨R, _, linked⟩ := alike
  cases linked with
  | plain key => cases v <;> first | rfl | exact texts
  | collection _ => exact texts

theorem Alike.limit (alike : Alike heap heap' v v') : Config.limitOf heap v = Config.limitOf heap' v' := by
  have double := alike.toDouble
  obtain ⟨R, _, linked⟩ := alike
  cases linked with
  | plain key => cases v <;> first | rfl | exact congrArg (Except.map fun x => some (Number.real x)) double
  | collection _ => exact congrArg (Except.map fun x => some (Number.real x)) double

end Value

/-! Sections that have alike values under a name. -/

namespace Config
variable {part part' whole whole' : Part} {name : Letters}

def AlikeAt (part part' : Part) (name : Letters) : Prop :=
  Option.Rel (Value.Alike part.heap part'.heap) (part.get? name) (part'.get? name)

theorem presentAlike (alike : AlikeAt part part' name) :
    Option.Rel (Value.Alike part.heap part'.heap) (part.present? name) (part'.present? name) := by
  unfold AlikeAt at alike
  unfold Part.present?
  generalize part.get? name = given, part'.get? name = given' at alike
  cases alike with
  | none => exact .none
  | some values =>
    rw [Option.filter_some, Option.filter_some, values.isPresent]
    split
    · exact .some values
    · exact .none

theorem convertAlike {α : Type} {f : Heap → Value → Except ValueFault α} {missing : α} (alike : AlikeAt part part' name)
    (same : ∀ {v v' : Value}, Value.Alike part.heap part'.heap v v' → f part.heap v = f part'.heap v') :
    part.convert name f missing = part'.convert name f missing := by
  unfold AlikeAt at alike
  unfold Part.convert
  generalize part.get? name = given, part'.get? name = given' at alike
  cases alike with
  | none => rfl
  | some values => exact same values

theorem convertPresentAlike {α : Type} {f : Heap → Value → Except ValueFault α} {missing : α} (alike : AlikeAt part part' name)
    (same : ∀ {v v' : Value}, Value.Alike part.heap part'.heap v v' → f part.heap v = f part'.heap v') :
    part.convertPresent name f missing = part'.convertPresent name f missing := by
  have values := presentAlike alike
  unfold Part.convertPresent
  generalize part.present? name = given, part'.present? name = given' at values
  cases values with
  | none => rfl
  | some values => exact same values

theorem partAlike {name : String} (path : String) (alike : AlikeAt whole whole' name) :
    (∃ f, whole.part? name path = .error f ∧ whole'.part? name path = .error f) ∨
    ∃ part part', whole.part? name path = .ok part ∧ whole'.part? name path = .ok part' ∧ ∀ other, AlikeAt part part' other := by
  have values := presentAlike alike
  unfold Part.part?
  generalize whole.present? name = given, whole'.present? name = given' at values
  cases values with
  | none => exact .inr ⟨_, _, rfl, rfl, fun _ => .none⟩
  | @some v v' values =>
    have entries := values.entries
    simp only
    generalize whole.heap.entries? v = listed, whole'.heap.entries? v' = listed' at entries
    cases entries with
    | none => exact .inl ⟨_, rfl, rfl⟩
    | some paired => exact .inr ⟨_, _, rfl, rfl, fun other => Value.Alike.entry paired other⟩

end Config

end AccessFix
