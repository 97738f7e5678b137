import AccessFix.Proofs.FixRun
import AccessFix.Proofs.Json.Written

/-! What a request says. Its body is ASCII and is read back as what the client was to send, so that the text that an attempt
to fix has read stands in it character by character, and no other text is sent with the same body. -/
namespace AccessFix
open Fallible

def Number.ReadBack (n : Number) : Prop := Json.readNumber (Json.numberText n) = .ok (n, [])

structure Client.Legible (c : Client) : Prop where
  model : Text.Encodable c.model
  temperature : c.temperature.ReadBack

structure Request.Carries (r : Request) (v : Json) : Prop where
  ascii : ∀ c ∈ r.body, c.code < 128
  read : Json.read r.body = .ok v

namespace Completion

variable {c : Client} {system prompt : Letters} {r : Request}

def conversation (c : Client) (system content : Letters) : Json :=
  .object [("model", .string c.model),
    ("messages", .array [.object [("role", .string "system"), ("content", .string system)],
      .object [("role", .string "user"), ("content", .string content)]]),
    ("max_tokens", .ofInt c.maxTokens), ("temperature", .number c.temperature)]

theorem conversationLegible (writable : Text.isWritable c.maxTokens = true) (legible : c.Legible)
    (ordered : Text.Encodable system) (plain : Text.Encodable prompt) (room : Nat) :
    Json.Legible (room + 3) (conversation c system prompt) := by
  have message {role content : Letters} (named : Text.Encodable role) (plain : Text.Encodable content) :
      Json.Legible (room + 1) (.object [("role", .string role), ("content", .string content)]) := by
    refine .object (show ([("role" : Letters), "content"]).Nodup by decide) ?_ ?_
    · simp [Text.encodableText]
    · simp [Json.Legible.string named, Json.Legible.string plain]
  have messages : Json.Legible (room + 2) (.array [.object [("role", .string "system"), ("content", .string system)],
      .object [("role", .string "user"), ("content", .string prompt)]]) :=
    .array (by simp [message (Text.encodableText _) ordered, message (Text.encodableText _) plain])
  refine .object (show ([("model" : Letters), "messages", "max_tokens", "temperature"]).Nodup by decide) ?_ ?_
  · simp [Text.encodableText]
  · simp only [List.forall_mem_cons, List.not_mem_nil, false_implies, implies_true, and_true]
    exact ⟨.string legible.model, messages, .number (Json.intRead.mpr writable), .number legible.temperature⟩

theorem requestBody (made : request c system prompt = .ok r) :
    Text.isWritable c.maxTokens = true ∧ r.body = Json.print Json.compactAscii (conversation c system prompt) := by
  obtain ⟨_, _, made⟩ := bindOk.mp made
  obtain ⟨address, _, made⟩ := bindOk.mp made
  dsimp only at made
  split at made
  · cases made
  split at made
  · cases made
  rename_i writable
  split at made
  · cases made
  obtain ⟨_, _, made⟩ := bindOk.mp made
  obtain ⟨_, _, made⟩ := bindOk.mp made
  split at made
  · cases made
  · rw [← pureOk.mp made]
    exact ⟨by simpa using writable, rfl⟩

theorem requestCarries (made : request c system prompt = .ok r) (legible : c.Legible) (ordered : Text.Encodable system)
    (plain : Text.Encodable prompt) : r.Carries (conversation c system prompt) := by
  obtain ⟨writable, body⟩ := requestBody made
  have legible : Json.Legible Json.nestingLimit (conversation c system prompt) :=
    conversationLegible writable legible ordered plain 977
  refine ⟨fun ch mem => ?_, by rw [body, Json.printRead legible]⟩
  rw [body, Json.print] at mem
  rcases Json.writtenAdmits legible Json.compactAscii 0 ch mem with ⟨-, indented⟩ | shown
  · cases indented
  · exact (shown.low rfl).trans_lt (by decide)

end Completion

namespace FixRun

variable {send : Request → Delivery} {f : Fixer} {w : Workspace} {b : Fin w.buffers.length} {issue : Issue} {r : Request}

def promptHead : String := "The following React code has an accessibility issue:\n---\n"

def promptTail : String :=
  "\n---\nPlease provide a fixed version of this snippet (only the code), along with a brief explanation.\n"

theorem promptAround (snippet : Letters) : prompt snippet = promptHead ++ snippet ++ promptTail := rfl

theorem promptApart {snippet snippet' : Letters} (same : prompt snippet = prompt snippet') : snippet = snippet' :=
  List.append_cancel_left (List.append_cancel_right same)

theorem concludeSent (a : Applier) (path : String) (buffer : BufferId) (range : Range) (r : FixRun)
    (outcome : Completion.Outcome) : (r.conclude a path buffer range outcome).sent = r.sent := by
  cases outcome with
  | text text =>
    simp only [conclude, useReply]
    split
    · rfl
    · simp only [apply]
      split <;> rfl
  | _ => rfl

theorem sentRequest (mem : r ∈ (run send f b issue w).sent) : ∃ snippet, (w.buffers.get b).read issue.range = .ok snippet ∧
    Completion.request f.client Completion.systemPrompt (prompt snippet) = .ok r := by
  by_cases empty : f.client.apiKey = []
  · rw [runNoKey empty] at mem
    cases mem
  · cases read : (w.buffers.get b).read issue.range with
    | error fault =>
      rw [runUnread empty read] at mem
      cases mem
    | ok snippet =>
      refine ⟨snippet, rfl, ?_⟩
      cases exchanged : Completion.completeInSession send f.client Completion.systemPrompt (prompt snippet) with
      | mk session outcome =>
        rw [runRead empty read exchanged, concludeSent] at mem
        cases made : Completion.request f.client Completion.systemPrompt (prompt snippet) with
        | error fault =>
          rw [Completion.completeInSession, Completion.completeUnsent made] at exchanged
          cases exchanged
          cases mem
        | ok q =>
          rw [Completion.completeInSession, Completion.completeSent made] at exchanged
          cases exchanged
          rw [List.mem_singleton.mp mem]

theorem readPlain {d : Document} {range : Range} {snippet : Letters} (plain : Text.Encodable d.text)
    (read : d.read range = .ok snippet) : Text.Encodable snippet := by
  obtain ⟨start, -, read⟩ := bindOk.mp read
  obtain ⟨stop, -, read⟩ := bindOk.mp read
  unfold Document.cut at read
  split at read
  · cases read
    exact fun c mem => plain c (List.mem_of_mem_drop (List.mem_of_mem_take mem))
  · cases read

theorem sentCarries (legible : f.client.Legible) (plain : Text.Encodable (w.buffers.get b).text)
    (mem : r ∈ (run send f b issue w).sent) : ∃ snippet, (w.buffers.get b).read issue.range = .ok snippet ∧
      r.Carries (Completion.conversation f.client Completion.systemPrompt (promptHead ++ snippet ++ promptTail)) := by
  obtain ⟨snippet, read, made⟩ := sentRequest mem
  have prompted : Text.Encodable (prompt snippet) := by
    simp only [promptAround, Text.encodableAppend, Text.encodableText, readPlain plain read, and_self]
  exact ⟨snippet, read, Completion.requestCarries made legible (Text.encodableText _) prompted⟩

theorem conversationContent {c c' : Client} {system system' content content' : Letters}
    (same : Completion.conversation c system content = Completion.conversation c' system' content') : content = content' := by
  simp only [Completion.conversation, Json.object.injEq, List.cons.injEq, Prod.mk.injEq, Json.array.injEq,
    Json.string.injEq] at same
  exact same.2.1.2.2.1.2.1.2

/-- A request is ASCII and is read back as the conversation that the client was to send. The one that an attempt to fix sends
holds the text that it has read, between the head and the tail of the prompt, and two such requests of one body hold one
text. -/
theorem bodyExact :
    (∀ (c : Client) (system content : Letters) (r : Request), c.Legible → Text.Encodable system → Text.Encodable content →
      Completion.request c system content = .ok r → r.Carries (Completion.conversation c system content)) ∧
    (∀ (send : Request → Delivery) (f : Fixer) (w : Workspace) (b : Fin w.buffers.length) (issue : Issue) (r : Request),
      f.client.Legible → Text.Encodable (w.buffers.get b).text → r ∈ (run send f b issue w).sent →
      ∃ snippet, (w.buffers.get b).read issue.range = .ok snippet ∧ r.Carries (Completion.conversation f.client
        Completion.systemPrompt (promptHead ++ snippet ++ promptTail))) ∧
    ∀ (send send' : Request → Delivery) (f f' : Fixer) (w w' : Workspace) (b : Fin w.buffers.length)
      (b' : Fin w'.buffers.length) (issue issue' : Issue) (r r' : Request),
      f.client.Legible → f'.client.Legible → Text.Encodable (w.buffers.get b).text →
      Text.Encodable (w'.buffers.get b').text → r ∈ (run send f b issue w).sent →
      r' ∈ (run send' f' b' issue' w').sent → r.body = r'.body →
      (w.buffers.get b).read issue.range = (w'.buffers.get b').read issue'.range := by
  refine ⟨fun c system content r legible ordered plain made => Completion.requestCarries made legible ordered plain,
    fun send f w b issue r legible plain mem => sentCarries legible plain mem, ?_⟩
  intro send send' f f' w w' b b' issue issue' r r' legible legible' plain plain' mem mem' bodies
  obtain ⟨snippet, read, carried⟩ := sentCarries legible plain mem
  obtain ⟨snippet', read', carried'⟩ := sentCarries legible' plain' mem'
  have conversations := Except.ok.inj (carried.read.symm.trans (bodies ▸ carried'.read))
  have same : snippet = snippet' := promptApart (conversationContent conversations)
  rw [read, read', same]

theorem defaultReadBack : Completion.defaultTemperature.ReadBack := by
  unfold Number.ReadBack
  decide +kernel

theorem objectCarries : requestOf "k" "x" ∈ (run (fun _ => objectAnswer) (.standard "k") 0 plainIssue plainDesk).sent ∧
    Json.read (requestOf "k" "x").body = .ok (Completion.conversation { apiKey := "k" } Completion.systemPrompt
      (promptHead ++ "x" ++ promptTail)) := by
  have mem : requestOf "k" "x" ∈ (run (fun _ => objectAnswer) (.standard "k") (0 : Nat) plainIssue plainDesk).sent := by
    rw [runExchange objectExchange]
    exact List.mem_singleton.mpr rfl
  obtain ⟨snippet, read, carried⟩ := bodyExact.2.1 (fun _ => objectAnswer) (.standard "k") plainDesk ⟨0, Nat.zero_lt_one⟩
    plainIssue _ ⟨Text.encodableText _, defaultReadBack⟩ (Text.encodableText _) mem
  cases objectExchange.read.symm.trans read
  exact ⟨mem, carried.read⟩

end FixRun

end AccessFix
