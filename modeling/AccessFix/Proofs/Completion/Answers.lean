import AccessFix.Proofs.Completion

/-! What is made of an answer, by its status, and of an exchange without one. -/
namespace AccessFix

inductive FaultKind where
  | authentication
  | service
  | network
  deriving DecidableEq, Repr

def CompletionFault.kind : CompletionFault → FaultKind
  | .unauthorized _ => .authentication
  | .refused _ _ | .notJson _ => .service
  | .timedOut _ _ | .unreachable _ | .notSent _ _ _ => .network

namespace Completion
open Fallible

def Successful (status : Int) : Prop := 200 ≤ status ∧ status < 300

/-- What an answer has to come to. A text may come of a successful answer only; every other answer is a fault of the service
that tells its status, or of authentication where nobody was authorized. -/
structure Judged (status : Int) (reason : Option String) (outcome : Outcome) : Prop where
  text : ∀ s, outcome = .text s → Successful status
  unauthorized : status = 401 → ∃ f, outcome = .fault f ∧ f.kind = .authentication
  refused : ¬Successful status → status ≠ 401 → ∃ f, outcome = .fault f ∧ f.kind = .service ∧
    f.message = "OpenAI API error: " ++ toString status ++ " " ++ reasonText reason

theorem refusal {status : Int} : isRefusal status = true ↔ 400 ≤ status ∧ status < 600 := by simp [isRefusal]

variable {c : Client} {system prompt : Letters} {status : Int} {reason : Option String} {body : List UInt8}

theorem judgedSuccess {outcome : Outcome} (successful : Successful status) : Judged status reason outcome where
  text _ _ := successful
  unauthorized same := by
    simp only [Successful] at successful
    omega
  refused other := absurd successful other

theorem judgedRefusal (refused : 400 ≤ status ∧ status < 600) :
    Judged status reason (outcome c (.answered status reason body)) := by
  by_cases unauthorized : status = 401
  · have ended : outcome c (.answered status reason body) = .fault (.unauthorized reason) := by
      simp [outcome, parse, unauthorized, Outcome.ofFault]
    rw [ended]
    refine ⟨fun s never => ?_, fun _ => ⟨_, rfl, rfl⟩, fun _ other => absurd unauthorized other⟩
    cases never
  · have ended : outcome c (.answered status reason body) = .fault (.refused status reason) := by
      simp [outcome, parse, unauthorized, refusal.mpr refused, Outcome.ofFault]
    rw [ended]
    refine ⟨fun s never => ?_, fun same => absurd same unauthorized, fun _ _ => ⟨_, rfl, rfl, rfl⟩⟩
    cases never

theorem startsApart {a b : Letters} (n : Nat) (apart : a.take n ≠ b.take n) (first : n ≤ a.length) (second : n ≤ b.length)
    (x y : Letters) : a ++ x ≠ b ++ y := by
  intro same
  have starts := congrArg (List.take n) same
  rw [List.take_append_of_le_length first, List.take_append_of_le_length second] at starts
  exact apart starts

theorem notJsonMessage (body text : Letters) : (CompletionFault.notJson body).message ≠ "OpenAI API error: " ++ text :=
  startsApart 12 (by decide) (by decide) (by decide) _ _

theorem parseRead (c : Client) (reason : Option String) (body : List UInt8) (unrefused : isRefusal status = false)
    (authorized : status ≠ 401) : (∃ data, parse c (.answered status reason body) = .ok data) ∨
      (∃ f, parse c (.answered status reason body) = .error (.breakdown f)) ∨
      ∃ text, parse c (.answered status reason body) = .error (.completion (.notJson text)) := by
  simp only [parse, authorized, unrefused, Bool.false_eq_true, if_false]
  cases Json.read (.ofChars (Text.Utf8.decodeLossy 0 [] body)) with
  | ok data => exact .inl ⟨data, rfl⟩
  | error fault =>
    refine .inr ?_
    obtain ⟨reason, rest⟩ := fault
    cases reason with
    | tooDeep innermost => exact .inl ⟨_, rfl⟩
    | _ => exact .inr ⟨_, rfl⟩

theorem unjudged (successful : ¬Successful status) (unrefused : ¬(400 ≤ status ∧ status < 600)) :
    ¬Judged status reason (outcome c (.answered status reason body)) := by
  intro judged
  have authorized : status ≠ 401 := by omega
  have kept : isRefusal status = false := by simpa [← refusal] using unrefused
  obtain ⟨f, ended, _, told⟩ := judged.refused successful authorized
  rcases parseRead c reason body kept authorized with ⟨data, read⟩ | ⟨_, read⟩ | ⟨text, read⟩
  · simp only [outcome, read] at ended
    split at ended <;> cases ended
  · simp only [outcome, read, Outcome.ofFault] at ended
    cases ended
  · simp only [outcome, read, Outcome.ofFault, Outcome.fault.injEq] at ended
    rw [← ended, List.append_assoc, List.append_assoc] at told
    exact notJsonMessage text _ told

theorem answerJudged : Judged status reason (outcome c (.answered status reason body)) ↔
    Successful status ∨ 400 ≤ status ∧ status < 600 := by
  constructor
  · intro judged
    by_contra neither
    rw [not_or] at neither
    exact unjudged neither.1 neither.2 judged
  · rintro (successful | refused)
    · exact judgedSuccess successful
    · exact judgedRefusal refused

/-! Exchanges without an answer. -/

theorem failureNetwork (c : Client) (kind : String) (detail : Letters) :
    ∃ f, outcome c (.failed kind detail) = .fault f ∧ f.kind = .network := by
  simp only [outcome, parse, Outcome.ofFault]
  refine ⟨_, rfl, ?_⟩
  split
  · rfl
  · split <;> rfl

theorem checkBreaks {address : Letters} {f : CompletionFault} :
    ((Authority.check address).mapError fun f => ExchangeFault.breakdown (.authority f)) ≠ .error (.completion f) := by
  intro failed
  obtain ⟨_, _, same⟩ := mapErrorError.mp failed
  cases same

theorem authorizationBreaks {address authorization : Letters} {f : CompletionFault} :
    authorizationFor address authorization ≠ .error (.completion f) := by
  intro failed
  rw [authorizationFor] at failed
  split at failed
  · rw [← mapErrorMap] at failed
    obtain ⟨_, _, same⟩ := mapErrorError.mp failed
    cases same
  · cases failed

theorem endpointRefused {fault : EndpointFault} {f : CompletionFault} (told : ofEndpoint c fault = .completion f) :
    ∃ kind detail, f = .notSent c.endpoint kind detail := by
  cases fault <;> cases told <;> exact ⟨_, _, rfl⟩

theorem requestRefused {f : CompletionFault} (unmade : request c system prompt = .error (.completion f)) :
    ∃ kind detail, f = .notSent c.endpoint kind detail := by
  rcases bindError.mp unmade with checked | ⟨_, _, unmade⟩
  · exact absurd checked checkBreaks
  rcases bindError.mp unmade with prepared | ⟨address, _, unmade⟩
  · obtain ⟨_, _, told⟩ := mapErrorError.mp prepared
    exact endpointRefused told
  dsimp only at unmade
  split at unmade
  · cases unmade
    exact ⟨_, _, rfl⟩
  split at unmade
  · cases unmade
    exact ⟨_, _, rfl⟩
  split at unmade
  · cases unmade
    exact ⟨_, _, rfl⟩
  rcases bindError.mp unmade with checked | ⟨_, _, unmade⟩
  · exact absurd checked checkBreaks
  rcases bindError.mp unmade with authorized | ⟨authorization, _, unmade⟩
  · exact absurd authorized authorizationBreaks
  split at unmade
  · cases unmade
    exact ⟨_, _, rfl⟩
  · exact absurd unmade pureError

theorem completeJudged (send : Request → Delivery) (c : Client) (system prompt : Letters) :
    let ended := complete send c system prompt
    (∀ q ∈ ended.1, ∀ status reason body, send q = .answered status reason body →
      (Judged status reason ended.2 ↔ Successful status ∨ 400 ≤ status ∧ status < 600)) ∧
    (∀ q ∈ ended.1, ∀ kind detail, send q = .failed kind detail → ∃ f, ended.2 = .fault f ∧ f.kind = .network) ∧
    (ended.1 = [] → ∀ f, ended.2 = .fault f → f.kind = .network) := by
  intro ended
  cases made : request c system prompt with
  | ok q =>
    have sent : ended = ([q], outcome c (send q)) := completeSent made
    rw [sent]
    simp only [List.mem_singleton, forall_eq]
    refine ⟨fun status reason body answered => ?_, fun kind detail failed => ?_, nofun⟩
    · rw [answered]
      exact answerJudged
    · rw [failed]
      exact failureNetwork c kind detail
  | error fault =>
    have unsent : ended = ([], .ofFault fault) := completeUnsent made
    rw [unsent]
    refine ⟨by simp, by simp, fun _ f same => ?_⟩
    cases fault with
    | breakdown => cases same
    | completion =>
      obtain rfl := Outcome.fault.inj same
      obtain ⟨kind, detail, rfl⟩ := requestRefused made
      rfl

def movedAnswer : Delivery :=
  .answered 304 (some "Not Modified") (Text.Utf8.encode "\x7b\"choices\": [\x7b\"message\": \x7b\"content\": \"x\"\x7d\x7d]\x7d".toList)

theorem movedTaken : outcome { apiKey := "k" } movedAnswer = .text "x" ∧ ¬Successful 304 := by
  have taken : outcome { apiKey := "k" } movedAnswer = .text "x" := by decide +kernel
  exact ⟨taken, by simp [Successful]⟩

end Completion

end AccessFix
