import AccessFix.Proofs.Text.Encoding
import AccessFix.Text.ControlSequence

/-! Leaving out control sequences. A start of a text without an escape character stays as it is, and so does every surrogate:
the letters of a sequence are characters. -/
namespace AccessFix.Text
open Letter (char)

theorem plainFromBare {bare : Letters} (noEscape : ∀ c ∈ bare, c.code ≠ 27) (rest : Letters) (fuel : Nat) :
    plainFrom (bare.length + fuel) (bare ++ rest) = bare ++ plainFrom fuel rest := by
  induction bare with
  | nil => simp
  | cons c bare ih =>
    obtain ⟨first, noEscape⟩ := List.forall_mem_cons.mp noEscape
    have none : afterControlSequence? (c :: (bare ++ rest)) = none := by
      unfold afterControlSequence?
      split
      · rename_i same
        obtain rfl := (List.cons.inj same).1
        exact if_neg first
      · rfl
    rw [List.length_cons, Nat.succ_add, List.cons_append, plainFrom, none]
    exact congrArg (c :: ·) (ih noEscape)

theorem plainBare {bare : Letters} (noEscape : ∀ c ∈ bare, c.code ≠ 27) (rest : Letters) :
    plain (bare ++ rest) = bare ++ plain rest := by
  rw [plain, List.length_append, plainFromBare noEscape]
  rfl

theorem lowerKnown {c : Letter} {d : Char} (below : c ≤ char d) (low : d.toNat < 0xD800) : Codec.utf8.knows c = true :=
  lowKnown (Nat.lt_of_le_of_lt below low)

theorem parameterKnown {c : Letter} (parameter : isParameterLetter c = true) : Codec.utf8.knows c = true := by
  simp only [isParameterLetter, Bool.or_eq_true, Bool.and_eq_true, decide_eq_true_eq] at parameter
  rcases parameter with (⟨_, digit⟩ | rfl) | rfl
  · exact lowerKnown digit (by decide)
  · rfl
  · rfl

theorem finalKnown {c : Letter} (final : isFinalLetter c = true) : Codec.utf8.knows c = true := by
  simp only [isFinalLetter, Bool.or_eq_true, Bool.and_eq_true, decide_eq_true_eq] at final
  rcases final with ⟨_, upper⟩ | ⟨_, lower⟩
  · exact lowerKnown upper (by decide)
  · exact lowerKnown lower (by decide)

theorem encodableDropWhile {p : Letter → Bool} (known : ∀ c, p c = true → Codec.utf8.knows c = true) (cs : Letters) :
    Encodable (cs.dropWhile p) ↔ Encodable cs := by
  have taken : Encodable (cs.takeWhile p) := fun c mem => known c (List.mem_takeWhile_imp mem)
  conv_rhs => rw [← List.takeWhile_append_dropWhile (p := p) (l := cs), encodableAppend]
  exact (and_iff_right taken).symm

theorem sequenceEncodable {cs rest : Letters} (ended : afterControlSequence? cs = some rest) :
    Encodable cs ↔ Encodable rest := by
  unfold afterControlSequence? at ended
  split at ended
  · rename_i escape body
    split at ended
    · rename_i marks
      split at ended
      · rename_i final others stops
        split at ended
        · rename_i closes
          cases ended
          have begins : Codec.utf8.knows escape = true := lowKnown (by rw [marks]; decide)
          have body := encodableDropWhile (fun c => parameterKnown) body
          rw [stops] at body
          simp only [Encodable, List.forall_mem_cons, begins, finalKnown closes, true_and] at body ⊢
          rw [← body]
          simp [Codec.knows, Letter.char?]
        · cases ended
      · cases ended
    · cases ended
  · cases ended

theorem plainFromEncodable (fuel : Nat) (cs : Letters) : Encodable (plainFrom fuel cs) ↔ Encodable cs := by
  fun_induction plainFrom fuel cs with
  | case1 => rfl
  | case2 fuel cs rest ended ih => exact ih.trans (sequenceEncodable ended).symm
  | case3 => rfl
  | case4 fuel c rest _ ih => simp only [Encodable, List.forall_mem_cons] at ih ⊢; rw [ih]

theorem plainEncodable (cs : Letters) : Encodable (plain cs) ↔ Encodable cs := plainFromEncodable _ cs

end AccessFix.Text
