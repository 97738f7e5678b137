import AccessFix.Completion
import AccessFix.Proofs.Fallible

/-! The default client. It sends every prompt as long as its key fits into a header, and what comes back is a reply or a
fault of the completion, unless the answer is nested too deep or what it names as choices has no first item. -/
namespace AccessFix.Completion
open Fallible

variable {c : Client} {key system prompt address authorization : Letters}

structure Sendable (c : Client) (content : Json) (address authorization : Letters) : Prop where
  authority : Authority.check c.endpoint = .ok ()
  prepared : Endpoint.prepare c.endpoint = .ok address
  fits : isHeaderValue ("Bearer " ++ c.apiKey) = true
  writable : Text.isWritable c.maxTokens = true
  finite : content.isFinite = true
  preparedAuthority : Authority.check address = .ok ()
  authorized : authorizationFor address ("Bearer " ++ c.apiKey) = .ok authorization
  reachable : Endpoint.isReachable address = true

theorem requestSendable (sendable : Sendable c (payload c system prompt) address authorization) :
    request c system prompt = .ok {
      address := address
      authorization := authorization
      body := Json.print Json.compactAscii (payload c system prompt)
      timeout := c.timeout } := by
  obtain ⟨authority, prepared, fits, writable, finite, preparedAuthority, authorized, reachable⟩ := sendable
  simp [request, authority, prepared, fits, writable, finite, preparedAuthority, authorized, reachable,
    Except.mapError, bind, Except.bind, pure, Except.pure]

def keyFault (c : Client) : CompletionFault :=
  .notSent c.endpoint "InvalidHeader"
    ("Invalid leading whitespace, reserved character(s), or return character(s) in header value: "
      ++ Text.quoted ("Bearer " ++ c.apiKey))

theorem requestUnfit (authority : Authority.check c.endpoint = .ok ())
    (prepared : Endpoint.prepare c.endpoint = .ok address) (unfit : isHeaderValue ("Bearer " ++ c.apiKey) = false)
    (system prompt : Letters) : request c system prompt = .error (.completion (keyFault c)) := by
  simp [request, keyFault, authority, prepared, unfit, Except.mapError, bind, Except.bind, throw, throwThe, MonadExceptOf.throw]

theorem payloadFinite : (payload { apiKey := key } system prompt).isFinite = true := by
  have real : defaultTemperature.isFinite = true := by decide
  simp [payload, Json.isFinite, Json.numbersAre, Json.itemsAre, Json.membersAre, Json.ofInt, Number.isFinite.eq_1, real]

theorem defaultAuthority : Authority.check defaultEndpoint = .ok () := by decide

theorem defaultPrepared : Endpoint.prepare defaultEndpoint = .ok defaultEndpoint := by decide +kernel

theorem defaultWritable : Text.isWritable defaultMaxTokens = true := by decide +kernel

theorem defaultReachable : Endpoint.isReachable defaultEndpoint = true := by decide

theorem defaultAuthorized : authorizationFor defaultEndpoint authorization = .ok authorization := by
  have none : Authority.credentials? defaultEndpoint = none := by decide
  delta authorizationFor
  rw [none]

theorem defaultSendable (fits : isHeaderValue ("Bearer " ++ key) = true) :
    Sendable { apiKey := key } (payload { apiKey := key } system prompt) defaultEndpoint ("Bearer " ++ key) where
  authority := defaultAuthority
  prepared := defaultPrepared
  fits := fits
  writable := defaultWritable
  finite := payloadFinite
  preparedAuthority := defaultAuthority
  authorized := defaultAuthorized
  reachable := defaultReachable

def defaultRequest (key system prompt : Letters) : Request where
  address := defaultEndpoint
  authorization := "Bearer " ++ key
  body := Json.print Json.compactAscii (payload { apiKey := key } system prompt)
  timeout := none

/-! Which answers are understood. -/

def HasFirst (choices : Json) : Prop :=
  choices.isPresent = false ∨ (∃ items, choices = .array items) ∨ ∃ s, choices = .string s

def Searchable : Except Json.Fault Json → Prop
  | .error f => ∀ innermost, f.reason ≠ .tooDeep innermost
  | .ok (.object members) => HasFirst (Json.member members "choices")
  | .ok _ => True

def Understood : Delivery → Prop
  | .failed _ _ => True
  | .answered status _ body => status = 401 ∨ isRefusal status = true ∨
      Searchable (Json.read (.ofChars (Text.Utf8.decodeLossy 0 [] body)))

theorem firstItemOk {choices : Json} (present : choices.isPresent = true) :
    (∃ first, firstItem choices = .ok first) ↔ HasFirst choices := by
  cases choices <;> simp [firstItem, HasFirst, present]

theorem contentFails {members : List (Letters × Json)} {f : ShapeFault}
    (present : (Json.member members "choices").isPresent = true) :
    firstContent (.object members) = .error f ↔ firstItem (Json.member members "choices") = .error f := by
  simp only [firstContent, present, Bool.not_true, Bool.false_eq_true, if_false, bindError, or_iff_left_iff_imp]
  rintro ⟨first, _, never⟩
  split at never
  · split at never
    · split at never <;> cases never
    · cases never
  · cases never

theorem firstContentOk {members : List (Letters × Json)} :
    (∃ s, firstContent (.object members) = .ok s) ↔ HasFirst (Json.member members "choices") := by
  cases present : (Json.member members "choices").isPresent with
  | false => simp [firstContent, HasFirst, present, pure, Except.pure]
  | true =>
    rw [← firstItemOk present]
    cases item : firstItem (Json.member members "choices") with
    | error f => simp [(contentFails present).mpr item]
    | ok first =>
      cases content : firstContent (.object members) with
      | error f => cases item.symm.trans ((contentFails present).mp content)
      | ok s => exact ⟨fun _ => ⟨_, rfl⟩, fun _ => ⟨_, rfl⟩⟩

def Outcome.Regular : Outcome → Prop
  | .text _ | .fault _ => True
  | .shape _ | .breakdown _ => False

theorem contentRegular {data : Json} :
    (match firstContent data with
      | .ok s => Outcome.text s
      | .error f => .shape f).Regular ↔ Searchable (.ok data) := by
  cases data with
  | object members =>
    rw [Searchable, ← firstContentOk]
    cases firstContent (.object members) <;> simp [Outcome.Regular]
  | _ => simp [firstContent, Outcome.Regular, Searchable]

theorem outcomeRegular (c : Client) (answer : Delivery) : (outcome c answer).Regular ↔ Understood answer := by
  cases answer with
  | failed kind detail => simp [outcome, parse, Outcome.ofFault, Outcome.Regular, Understood]
  | answered status reason body =>
    simp only [outcome, parse, Understood]
    by_cases unauthorized : status = 401
    · simp [unauthorized, Outcome.ofFault, Outcome.Regular]
    · by_cases refused : isRefusal status = true
      · simp [unauthorized, refused, Outcome.ofFault, Outcome.Regular]
      · simp only [unauthorized, refused, Bool.false_eq_true, if_false, false_or]
        cases Json.read (.ofChars (Text.Utf8.decodeLossy 0 [] body)) with
        | ok data => exact contentRegular
        | error f =>
          obtain ⟨reason, rest⟩ := f
          cases reason <;> simp [Except.mapError, Outcome.ofFault, Outcome.Regular, Searchable]

/-! The session of one prompt. -/

theorem completeSent {send : Request → Delivery} {q : Request} (made : request c system prompt = .ok q) :
    complete send c system prompt = ([q], outcome c (send q)) := by
  delta complete
  rw [made]

theorem completeUnsent {send : Request → Delivery} {f : ExchangeFault} (unmade : request c system prompt = .error f) :
    complete send c system prompt = ([], .ofFault f) := by
  delta complete
  rw [unmade]

theorem sessionFits (send : Request → Delivery) (fits : isHeaderValue ("Bearer " ++ key) = true) :
    completeInSession send { apiKey := key } system prompt =
      ([.opened, .sent (defaultRequest key system prompt), .closed],
        outcome { apiKey := key } (send (defaultRequest key system prompt))) := by
  rw [completeInSession, completeSent (requestSendable (defaultSendable fits))]
  rfl

theorem sessionUnfit (system prompt : Letters) (send : Request → Delivery)
    (unfit : isHeaderValue ("Bearer " ++ key) = false) :
    ∃ f, completeInSession send { apiKey := key } system prompt = ([.opened, .closed], .fault f) := by
  have unsent := requestUnfit (c := { apiKey := key }) defaultAuthority defaultPrepared unfit system prompt
  refine ⟨keyFault { apiKey := key }, ?_⟩
  rw [completeInSession, completeUnsent unsent]
  rfl

end AccessFix.Completion
