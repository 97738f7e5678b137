import AccessFix.Proofs.Completion

/-! The content of a reply, for every value that an answer can be. It is the text that the first of the choices holds, and it is
empty where there is none. Choices that are there and have no first item are the only ones that give no content. -/
namespace AccessFix.Completion
open Fallible

def Answers (data : Json) (s : Letters) : Prop :=
  ∃ members choice others message, data = .object members ∧
    Json.member members "choices" = .array (.object choice :: others) ∧
    Json.member choice "message" = .object message ∧ Json.member message "content" = .string s

inductive Unnumbered : Json → ShapeFault → Prop where
  | object (first rest) : Unnumbered (.object (first :: rest)) .missingMember
  | truth : Unnumbered (.bool true) .wrongKind
  | number {n : Number} (nonzero : n.isZero = false) : Unnumbered (.number n) .wrongKind

def Misshapen (data : Json) (f : ShapeFault) : Prop :=
  ∃ members, data = .object members ∧ Unnumbered (Json.member members "choices") f

variable {data choices : Json} {members choice : List (Letters × Json)} {s : Letters} {f : ShapeFault}

theorem firstItemError : (choices.isPresent = true ∧ firstItem choices = .error f) ↔ Unnumbered choices f := by
  constructor
  · rintro ⟨present, failed⟩
    cases choices with
    | null => cases present
    | bool b =>
      cases failed
      cases b with
      | false => cases present
      | true => exact .truth
    | number n =>
      cases failed
      exact .number (by simpa [Json.isPresent] using present)
    | string s => cases failed
    | array items => cases failed
    | object members =>
      cases failed
      cases members with
      | nil => cases present
      | cons first rest => exact .object first rest
  · intro unnumbered
    cases unnumbered with
    | object first rest => exact ⟨rfl, rfl⟩
    | truth => exact ⟨rfl, rfl⟩
    | number nonzero => exact ⟨by simp [Json.isPresent, nonzero], rfl⟩

theorem firstItemSome {first : Json} (ok : firstItem choices = .ok (some first)) : ∃ others, choices = .array (first :: others) := by
  cases choices with
  | array items =>
    cases items with
    | nil => cases ok
    | cons item others =>
      cases ok
      exact ⟨others, rfl⟩
  | _ => cases ok

theorem contentAnswered (answers : Answers data s) : firstContent data = .ok s := by
  obtain ⟨members, choice, others, message, rfl, first, object, content⟩ := answers
  simp [firstContent, first, Json.isPresent, firstItem, okBind, object, content, pure, Except.pure]

theorem contentAnswersOrEmpty (ok : firstContent data = .ok s) : Answers data s ∨ s = [] := by
  cases data with
  | object members =>
    simp only [firstContent] at ok
    split at ok
    · exact .inr (pureOk.mp ok).symm
    · obtain ⟨first, item, ok⟩ := bindOk.mp ok
      split at ok
      · rename_i choice
        obtain ⟨others, listed⟩ := firstItemSome item
        split at ok
        · rename_i message object
          split at ok
          · rename_i text content
            rw [pureOk.mp ok] at content
            exact .inl ⟨members, choice, others, message, rfl, listed, object, content⟩
          · exact .inr (pureOk.mp ok).symm
        · exact .inr (pureOk.mp ok).symm
      · exact .inr (pureOk.mp ok).symm
  | _ => exact .inr (Except.ok.inj ok).symm

theorem contentError : firstContent data = .error f ↔ Misshapen data f := by
  cases data with
  | object members =>
    have shaped : Misshapen (.object members) f ↔ Unnumbered (Json.member members "choices") f :=
      ⟨fun ⟨_, same, unnumbered⟩ => Json.object.inj same ▸ unnumbered, fun unnumbered => ⟨members, rfl, unnumbered⟩⟩
    rw [shaped, ← firstItemError]
    cases present : (Json.member members "choices").isPresent with
    | false => simp [firstContent, present, pure, Except.pure]
    | true => simp only [contentFails present, true_and]
  | _ => simp [firstContent, Misshapen]

/-- A value gives the text that its first choice answers with, or the empty one where there is none, unless its choices have no first
item. -/
theorem contentRead (data : Json) :
    (∀ s, firstContent data = .ok s ↔ Answers data s ∨ s = [] ∧ (∀ t, ¬Answers data t) ∧ ∀ f, ¬Misshapen data f) ∧
    ∀ f, firstContent data = .error f ↔ Misshapen data f := by
  refine ⟨fun s => ⟨fun ok => ?_, ?_⟩, fun f => contentError⟩
  · by_cases answered : ∃ t, Answers data t
    · obtain ⟨t, answers⟩ := answered
      obtain rfl := Except.ok.inj (ok.symm.trans (contentAnswered answers))
      exact .inl answers
    · refine .inr ⟨(contentAnswersOrEmpty ok).resolve_left fun answers => answered ⟨s, answers⟩, not_exists.mp answered, fun f misshapen => ?_⟩
      cases ok.symm.trans (contentError.mpr misshapen)
  · rintro (answers | ⟨rfl, silent, shaped⟩)
    · exact contentAnswered answers
    · cases content : firstContent data with
      | error f => exact absurd (contentError.mp content) (shaped f)
      | ok t => rw [(contentAnswersOrEmpty content).resolve_left (silent t)]

theorem contentMissed : firstContent (.object [("choices", .object [("a", .ofInt 1)])]) = .error .missingMember ∧
    ∀ t, ¬Answers (.object [("choices", .object [("a", .ofInt 1)])]) t := by
  refine ⟨rfl, ?_⟩
  rintro t ⟨members, choice, others, message, object, listed, _⟩
  cases object
  cases listed

end AccessFix.Completion
