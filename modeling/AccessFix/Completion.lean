import AccessFix.Endpoint
import AccessFix.Findings
import AccessFix.Text.Blank

/-! One chat request to a model: the request that is sent, and what the answer means. A request is checked before it is
sent, in the order authority, address, header, body, credentials, transport; a request that fails a check is never
sent. -/
namespace AccessFix

namespace Completion

def defaultEndpoint : String := "https://api.openai.com/v1/chat/completions"

def defaultModel : String := "gpt-3.5-turbo"

def defaultMaxTokens : Int := 500

def defaultTemperature : Number := .real (Double.ofRatio false 1 5)

end Completion

structure Client where
  apiKey : Letters
  endpoint : Letters := Completion.defaultEndpoint
  model : Letters := Completion.defaultModel
  maxTokens : Int := Completion.defaultMaxTokens
  temperature : Number := Completion.defaultTemperature
  timeout : Option Number := none
  deriving DecidableEq, Repr

structure Request where
  address : Letters
  authorization : Letters
  body : Letters
  timeout : Option Number
  method : String := "POST"
  contentType : String := "application/json"
  deriving DecidableEq, Repr

inductive Delivery where
  | answered (status : Int) (reason : Option String) (body : List UInt8)
  | failed (kind : String) (detail : Letters)
  deriving DecidableEq, Repr

inductive CompletionFault where
  | unauthorized (reason : Option String)
  | refused (status : Int) (reason : Option String)
  | notJson (body : Letters)
  | timedOut (endpoint : Letters) (timeout : Option Number)
  | unreachable (endpoint : Letters)
  | notSent (endpoint : Letters) (kind : String) (detail : Letters)
  deriving DecidableEq, Repr

inductive Breakdown where
  | authority (fault : AuthorityFault)
  | address (fault : Text.Unencodable)
  | credentials (fault : Text.Unencodable)
  | tooDeep (innermost : Json.Innermost)
  deriving DecidableEq, Repr

def Breakdown.message : Breakdown → Letters
  | .authority f => f.message
  | .address f => Text.Codec.utf8.message f
  | .credentials f => Text.Codec.latin.message f
  | .tooDeep innermost => innermost.message

inductive ExchangeFault where
  | completion (fault : CompletionFault)
  | breakdown (fault : Breakdown)
  deriving DecidableEq, Repr

def reasonText (reason : Option String) : String := reason.getD "None"

def CompletionFault.message : CompletionFault → Letters
  | .unauthorized reason =>
    "OpenAI API error: 401 " ++ reasonText reason ++ " (check that OPENAI_API_KEY is valid)"
  | .refused status reason => "OpenAI API error: " ++ toString status ++ " " ++ reasonText reason
  | .notJson body => "OpenAI API returned a non-JSON body: " ++ body.take 200
  | .timedOut endpoint timeout =>
    "Request timed out after " ++ (timeout.map Number.text).getD "None" ++ "s while contacting '" ++ endpoint ++ "'"
  | .unreachable endpoint => "Unable to reach completion service at '" ++ endpoint ++ "'"
  | .notSent endpoint kind detail => "Request to '" ++ endpoint ++ "' failed: " ++ kind ++ ": " ++ detail

namespace Completion

def systemPrompt : String :=
  "You are an expert in React accessibility. Provide minimal corrected code snippets."

def payload (c : Client) (system prompt : Letters) : Json :=
  let message (role content : Letters) : Json := .object [("role", .string role), ("content", .string content)]
  .object [("model", .string c.model),
    ("messages", .array [message "system" system, message "user" prompt]),
    ("max_tokens", .ofInt c.maxTokens), ("temperature", .number c.temperature)]

def isHeaderValue (value : Letters) : Bool :=
  let line := if value.getLast? = some (.char '\n') then value.dropLast else value
  (line.head?.any fun c => !Text.isBlank c) && line.all fun c : Letter => c ≠ '\r' && c ≠ '\n'

def authorizationFor (address authorization : Letters) : Except ExchangeFault Letters :=
  match Authority.credentials? address with
  | some (user, password) =>
    ((Authority.basicHeader user password).mapError fun f => .breakdown (.credentials f)).map letters
  | none => .ok authorization

def ofEndpoint (c : Client) : EndpointFault → ExchangeFault
  | .unencodable f => .breakdown (.address f)
  | f => .completion (.notSent c.endpoint f.kind f.message)

def request (c : Client) (system prompt : Letters) : Except ExchangeFault Request := do
  let unsendable (kind : String) (detail : Letters) : ExchangeFault := .completion (.notSent c.endpoint kind detail)
  let checkAuthority (address : Letters) : Except ExchangeFault Unit :=
    (Authority.check address).mapError fun f => .breakdown (.authority f)
  checkAuthority c.endpoint
  let address ← (Endpoint.prepare c.endpoint).mapError (ofEndpoint c)
  let authorization : Letters := "Bearer " ++ c.apiKey
  if !isHeaderValue authorization then
    throw (unsendable "InvalidHeader"
      ("Invalid leading whitespace, reserved character(s), or return character(s) in header value: "
        ++ Text.quoted authorization))
  let content := payload c system prompt
  if !Text.isWritable c.maxTokens then
    throw (unsendable "InvalidJSONError" Text.tooManyDigitsToWrite)
  if !content.isFinite then
    throw (unsendable "InvalidJSONError" "Out of range float values are not JSON compliant")
  checkAuthority address
  let authorization ← authorizationFor address authorization
  if !Endpoint.isReachable address then
    throw (ofEndpoint c (.noTransport address))
  return ⟨address, authorization, Json.print Json.compactAscii content, c.timeout, "POST", "application/json"⟩

def isTimeout (kind : String) : Bool := ["Timeout", "ConnectTimeout", "ReadTimeout"].contains kind

def isConnectionFailure (kind : String) : Bool := ["ConnectionError", "SSLError", "ProxyError"].contains kind

def isRefusal (status : Int) : Bool := decide (400 ≤ status) && decide (status < 600)

def parse (c : Client) : Delivery → Except ExchangeFault Json
  | .failed kind detail =>
    .error (.completion
      (if isTimeout kind then .timedOut c.endpoint c.timeout
      else if isConnectionFailure kind then .unreachable c.endpoint
      else .notSent c.endpoint kind detail))
  | .answered status reason body =>
    if status = 401 then .error (.completion (.unauthorized reason))
    else if isRefusal status then .error (.completion (.refused status reason))
    else
      let text := Letters.ofChars (Text.Utf8.decodeLossy 0 [] body)
      (Json.read text).mapError fun
        | ⟨.tooDeep innermost, _⟩ => .breakdown (.tooDeep innermost)
        | _ => .completion (.notJson text)

def firstItem : Json → Except ShapeFault (Option Json)
  | .array items => .ok items.head?
  | .string _ => .ok none
  | .object _ => .error .missingMember
  | _ => .error .wrongKind

def firstContent (data : Json) : Except ShapeFault Letters :=
  match data with
  | .object members => do
    let choices := Json.member members "choices"
    if !choices.isPresent then return []
    match ← firstItem choices with
    | some (.object choice) =>
      match Json.member choice "message" with
      | .object message =>
        match Json.member message "content" with
        | .string s => return s
        | _ => return []
      | _ => return []
    | _ => return []
  | _ => .ok []

inductive Outcome where
  | text (s : Letters)
  | fault (f : CompletionFault)
  | shape (f : ShapeFault)
  | breakdown (f : Breakdown)
  deriving DecidableEq, Repr

def Outcome.ofFault : ExchangeFault → Outcome
  | .completion f => .fault f
  | .breakdown f => .breakdown f

def outcome (c : Client) (answer : Delivery) : Outcome :=
  match parse c answer with
  | .error f => .ofFault f
  | .ok data =>
    match firstContent data with
    | .ok s => .text s
    | .error f => .shape f

def complete (send : Request → Delivery) (c : Client) (system prompt : Letters) : List Request × Outcome :=
  match request c system prompt with
  | .error f => ([], .ofFault f)
  | .ok r => ([r], outcome c (send r))

inductive SessionEvent where
  | opened
  | sent (request : Request)
  | closed
  deriving DecidableEq, Repr

def completeInSession (send : Request → Delivery) (c : Client) (system prompt : Letters) :
    List SessionEvent × Outcome :=
  let (sent, outcome) := complete send c system prompt
  (.opened :: sent.map .sent ++ [.closed], outcome)

end Completion

end AccessFix
