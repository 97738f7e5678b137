import AccessFix.Proofs.Letter
import AccessFix.Text.Encoding

/-! Texts that have an encoding in UTF-8: those of characters alone. What is refused has a first run of surrogates, which its
fault tells. -/
namespace AccessFix.Text

def Encodable (cs : Letters) : Prop := ∀ c ∈ cs, Codec.utf8.knows c = true

instance (cs : Letters) : Decidable (Encodable cs) := decidable_of_iff (cs.all Codec.utf8.knows = true) List.all_eq_true

variable {cs ds : Letters} {codec : Codec}

theorem lowKnown {c : Letter} (low : c.code < 0xD800) : Codec.utf8.knows c = true := by
  cases c with
  | char c => rfl
  | surrogate i => exact absurd low (Nat.not_lt.mpr (Nat.le_add_right _ _))

theorem unknownHigh {c : Letter} (unknown : Codec.utf8.knows c = false) : 0xD800 ≤ c.code := by
  by_contra low
  rw [lowKnown (not_le.mp low)] at unknown
  cases unknown

theorem encodableAppend : Encodable (cs ++ ds) ↔ Encodable cs ∧ Encodable ds := by simp [Encodable, or_imp, forall_and]

theorem encodableOf (t : List Char) : Encodable (.ofChars t) := by
  intro c mem
  obtain ⟨d, _, rfl⟩ := List.mem_map.mp mem
  rfl

theorem encodableText (s : String) : Encodable s := encodableOf _

theorem encodableChars (plain : Encodable cs) : .ofChars cs.chars = cs := by
  induction cs with
  | nil => rfl
  | cons c cs ih =>
    obtain ⟨first, others⟩ := List.forall_mem_cons.mp plain
    cases c with
    | char c => exact congrArg (Letter.char c :: ·) (ih others)
    | surrogate i => cases first

theorem refusalNone : codec.refusal? cs = none ↔ ∀ c ∈ cs, codec.knows c = true := by
  have whole : cs.drop (cs.takeWhile codec.knows).length = cs.dropWhile codec.knows := by
    conv_lhs => rw [← List.takeWhile_append_dropWhile (p := codec.knows) (l := cs)]
    rw [List.drop_left']
    simp
  rw [← List.dropWhile_eq_nil_iff, ← whole, Codec.refusal?]
  cases cs.drop (cs.takeWhile codec.knows).length <;> simp

theorem encodeOk {octets : List UInt8} :
    codec.encode cs = .ok octets ↔ (∀ c ∈ cs, codec.knows c = true) ∧ octets = codec.octets cs := by
  rw [← refusalNone, Codec.encode]
  cases codec.refusal? cs <;> simp [eq_comm]

theorem encodeError {f : Unencodable} : codec.encode cs = .error f ↔ codec.refusal? cs = some f := by
  rw [Codec.encode]
  cases codec.refusal? cs <;> simp

theorem encodeFails {f : Unencodable} (failed : Codec.utf8.encode cs = .error f) : ¬Encodable cs := by
  intro plain
  rw [encodeError, refusalNone.mpr plain] at failed
  cases failed

/-! Showing surrogates by their numbers. -/

theorem shownAppend : shown (cs ++ ds) = shown cs ++ shown ds := by simp [shown]

theorem shownLetters (s : String) : shown s = s := by
  rw [shown, letters, Letters.ofChars, List.flatMap_map, List.flatMap_singleton', String.ofList_toList]

end AccessFix.Text
