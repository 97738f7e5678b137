import AccessFix.Json.Printer
import AccessFix.Proofs.Json.Read
import AccessFix.Proofs.Letter

/-! Numbers in a text. A reader of a number stops at what can follow one, and so takes the same number from a longer text; and
the digits of an integer are read back, unless there are too many of them. -/
namespace AccessFix.Json

def isNumeral (c : Letter) : Bool := isDigit c || (['.', 'e', 'E', '+', '-'] : Letters).contains c

def Stops (rest : Letters) : Prop := ∀ c ∈ rest.head?, isNumeral c = false

variable {cs r rest : Letters} {c : Letter}

theorem stopsNil : Stops [] := fun _ mem => nomatch mem

theorem stopsCons : Stops (c :: rest) ↔ isNumeral c = false := by simp [Stops]

theorem stopDigit (stop : isNumeral c = false) : isDigit c = false := (Bool.or_eq_false_iff.mp stop).1

theorem stopOther (stop : isNumeral c = false) : c ≠ '.' ∧ (c ≠ 'e' ∧ c ≠ 'E') ∧ c ≠ '+' ∧ c ≠ '-' := by
  have other := (Bool.or_eq_false_iff.mp stop).2
  simp_all

/-! Parts of a number. -/

theorem digitsStop (stops : Stops rest) (cs : Letters) :
    (cs ++ rest).takeWhile isDigit = cs.takeWhile isDigit ∧ (cs ++ rest).dropWhile isDigit = cs.dropWhile isDigit ++ rest := by
  induction cs with
  | nil =>
    cases rest with
    | nil => simp
    | cons c rest => simp [stopDigit (stopsCons.mp stops)]
  | cons c cs ih =>
    cases digit : isDigit c with
    | false => simp [digit]
    | true => simp [digit, ih]

theorem wholeStop (stops : Stops rest) {whole : Letters} (taken : takeWhole cs = some (whole, r)) :
    takeWhole (cs ++ rest) = some (whole, r ++ rest) := by
  cases cs with
  | nil => cases taken
  | cons c cs =>
    obtain ⟨same, left⟩ := digitsStop stops cs
    simp only [takeWhole, List.cons_append, same, left] at taken ⊢
    split at taken
    · cases taken
      simp_all
    · split at taken
      · cases taken
        simp_all
      · cases taken

theorem fractionTaken (cs : Letters) : takeFraction (c :: cs) =
    if c = '.' ∧ cs.takeWhile isDigit ≠ [] then (cs.takeWhile isDigit, cs.dropWhile isDigit) else ([], c :: cs) := by
  by_cases point : c = '.'
  · subst point
    cases cs with
    | nil => rfl
    | cons d cs => cases digit : isDigit d <;> simp [takeFraction, digit]
  · unfold takeFraction
    split
    · rename_i same
      exact absurd (List.cons.inj same).1 point
    · simp [point]

theorem fractionStop (stops : Stops rest) (cs : Letters) :
    takeFraction (cs ++ rest) = ((takeFraction cs).1, (takeFraction cs).2 ++ rest) := by
  cases cs with
  | nil =>
    cases rest with
    | nil => rfl
    | cons c rest => simp [(stopOther (stopsCons.mp stops)).1, takeFraction]
  | cons c cs =>
    obtain ⟨same, left⟩ := digitsStop stops cs
    rw [List.cons_append, fractionTaken, fractionTaken, same, left]
    split <;> rfl

def takeSign : Letters → Bool × Letters
  | '-' :: cs => (true, cs)
  | '+' :: cs => (false, cs)
  | cs => (false, cs)

theorem exponentTaken (cs : Letters) : takeExponent (c :: cs) =
    let (negative, digits) := takeSign cs
    if (c = 'e' ∨ c = 'E') ∧ digits.takeWhile isDigit ≠ [] then
      let n : Int := natOfDigits (digits.takeWhile isDigit)
      (some (if negative then -n else n), digits.dropWhile isDigit)
    else (none, c :: cs) := by
  unfold takeExponent takeSign
  by_cases mark : c = 'e' ∨ c = 'E'
  · simp only [mark, if_true, true_and]
    split <;> simp only [List.isEmpty_iff, ne_eq, ite_not, Bool.false_eq_true, if_true, if_false]
  · simp [mark]

theorem signStop (stops : Stops rest) (cs : Letters) :
    takeSign (cs ++ rest) = ((takeSign cs).1, (takeSign cs).2 ++ rest) := by
  cases cs with
  | nil =>
    cases rest with
    | nil => rfl
    | cons c rest =>
      obtain ⟨-, -, plus, minus⟩ := stopOther (stopsCons.mp stops)
      simp [takeSign, plus, minus]
  | cons c cs =>
    unfold takeSign
    split <;> simp_all

theorem exponentStop (stops : Stops rest) (cs : Letters) :
    takeExponent (cs ++ rest) = ((takeExponent cs).1, (takeExponent cs).2 ++ rest) := by
  cases cs with
  | nil =>
    cases rest with
    | nil => rfl
    | cons c rest => simp [(stopOther (stopsCons.mp stops)).2.1, takeExponent]
  | cons c cs =>
    obtain ⟨same, left⟩ := digitsStop stops (takeSign cs).2
    rw [List.cons_append, exponentTaken, exponentTaken, signStop stops]
    simp only [same, left]
    split <;> rfl

def takeMinus : Letters → Bool × Letters
  | '-' :: cs => (true, cs)
  | cs => (false, cs)

theorem minusStop (given : cs ≠ []) (rest : Letters) :
    takeMinus (cs ++ rest) = ((takeMinus cs).1, (takeMinus cs).2 ++ rest) := by
  cases cs with
  | nil => exact absurd rfl given
  | cons c cs =>
    unfold takeMinus
    split <;> simp_all

def ofParts? (negative : Bool) (whole fraction : Letters) (exponent : Option Int) : Option Number :=
  if fraction.isEmpty && exponent.isNone then
    if Text.digitLimit < whole.length then none
    else
      let n : Int := natOfDigits whole
      some (.int (if negative then -n else n))
  else some (.real (Double.ofDecimal negative (natOfDigits (whole ++ fraction)) (exponent.getD 0 - (fraction.length : Int))))

theorem numberTaken (cs : Letters) : readNumber cs = match takeWhole (takeMinus cs).2 with
    | none => .error ⟨.value, cs⟩
    | some (whole, rest) =>
      let (fraction, rest) := takeFraction rest
      let (exponent, rest) := takeExponent rest
      match ofParts? (takeMinus cs).1 whole fraction exponent with
      | some n => .ok (n, rest)
      | none => .error ⟨.tooManyDigits whole.length, cs⟩ := by
  change (match takeWhole (takeMinus cs).2 with
    | none => _
    | some (whole, rest) => _) = _
  cases takeWhole (takeMinus cs).2 with
  | none => rfl
  | some taken =>
    simp only [ofParts?]
    split
    · split <;> rfl
    · rfl

theorem numberOk {n : Number} : readNumber cs = .ok (n, r) ↔ ∃ whole rest, takeWhole (takeMinus cs).2 = some (whole, rest) ∧
    ofParts? (takeMinus cs).1 whole (takeFraction rest).1 (takeExponent (takeFraction rest).2).1 = some n ∧
    (takeExponent (takeFraction rest).2).2 = r := by
  rw [numberTaken]
  cases takeWhole (takeMinus cs).2 with
  | none => simp
  | some taken =>
    obtain ⟨whole, rest⟩ := taken
    simp only [Option.some.injEq, Prod.mk.injEq, exists_and_left, exists_eq_left', and_assoc]
    split
    · rename_i valued
      simp [valued]
    · rename_i none
      simp [none]

theorem numberStop (stops : Stops rest) {n : Number} (read : readNumber cs = .ok (n, r)) :
    readNumber (cs ++ rest) = .ok (n, r ++ rest) := by
  have given : cs ≠ [] := by
    rintro rfl
    cases read
  obtain ⟨whole, after, taken, valued, rfl⟩ := numberOk.mp read
  refine numberOk.mpr ⟨whole, after ++ rest, ?_⟩
  rw [minusStop given, fractionStop stops, exponentStop stops]
  exact ⟨wholeStop stops taken, valued, rfl⟩

/-! Characters of a number. -/

theorem digitNumeral (digit : isDigit c = true) : isNumeral c = true := by rw [isNumeral, digit, Bool.true_or]

theorem numberHead {n : Number} (read : readNumber cs = .ok (n, r)) :
    ∃ d t, isDigit d = true ∧ (cs = d :: t ∨ cs = .char '-' :: d :: t) := by
  obtain ⟨whole, rest, taken, -⟩ := numberOk.mp read
  have first : ∃ d t, isDigit d = true ∧ (takeMinus cs).2 = d :: t := by
    cases body : (takeMinus cs).2 with
    | nil =>
      rw [body] at taken
      cases taken
    | cons d t =>
      refine ⟨d, t, ?_, rfl⟩
      rw [body, takeWhole] at taken
      split at taken
      · rename_i zero
        rw [zero]
        rfl
      · split at taken
        · assumption
        · cases taken
  obtain ⟨d, t, digit, body⟩ := first
  refine ⟨d, t, digit, ?_⟩
  unfold takeMinus at body
  split at body
  · exact .inr (congrArg _ body)
  · exact .inl body

theorem numberWordless {n : Number} (read : readNumber cs = .ok (n, r)) (rest : Letters) : readWord? (cs ++ rest) = none := by
  obtain ⟨d, t, digit, same⟩ := numberHead read
  have other : ∀ c ∈ ['n', 't', 'f', 'N', 'I', '-'], .char c ≠ d := by
    rintro c mem rfl
    fin_cases mem <;> cases digit
  simp only [List.forall_mem_cons] at other
  rcases same with rfl | rfl <;> simp [readWord?, letters, List.isPrefixOf, other]

/-! A reader of a part leaves no character of the text that is not one of a number. -/

theorem digitsNumeral (mem : c ∈ cs) : c ∈ cs.dropWhile isDigit ∨ isNumeral c = true := by
  rw [← List.takeWhile_append_dropWhile (p := isDigit) (l := cs)] at mem
  rcases List.mem_append.mp mem with taken | left
  · exact .inr (digitNumeral (List.mem_takeWhile_imp taken))
  · exact .inl left

theorem minusNumeral (mem : c ∈ cs) : c ∈ (takeMinus cs).2 ∨ isNumeral c = true := by
  unfold takeMinus
  split
  · rcases List.mem_cons.mp mem with rfl | mem
    · exact .inr rfl
    · exact .inl mem
  · exact .inl mem

theorem wholeNumeral {whole : Letters} (taken : takeWhole cs = some (whole, r)) (mem : c ∈ cs) :
    c ∈ r ∨ isNumeral c = true := by
  cases cs with
  | nil => cases mem
  | cons d cs =>
    rw [takeWhole] at taken
    split at taken
    · rename_i zero
      cases taken
      rcases List.mem_cons.mp mem with rfl | mem
      · exact .inr (by rw [zero]; rfl)
      · exact .inl mem
    · split at taken
      · rename_i digit
        cases taken
        rcases List.mem_cons.mp mem with rfl | mem
        · exact .inr (digitNumeral digit)
        · exact digitsNumeral mem
      · cases taken

theorem fractionNumeral (mem : c ∈ cs) : c ∈ (takeFraction cs).2 ∨ isNumeral c = true := by
  cases cs with
  | nil => cases mem
  | cons d cs =>
    rw [fractionTaken]
    split
    · rename_i point
      rcases List.mem_cons.mp mem with rfl | mem
      · exact .inr (by rw [point.1]; rfl)
      · exact digitsNumeral mem
    · exact .inl mem

theorem signNumeral (mem : c ∈ cs) : c ∈ (takeSign cs).2 ∨ isNumeral c = true := by
  unfold takeSign
  split
  · exact (List.mem_cons.mp mem).symm.imp_right fun same => by rw [same]; rfl
  · exact (List.mem_cons.mp mem).symm.imp_right fun same => by rw [same]; rfl
  · exact .inl mem

theorem exponentNumeral (mem : c ∈ cs) : c ∈ (takeExponent cs).2 ∨ isNumeral c = true := by
  cases cs with
  | nil => cases mem
  | cons d cs =>
    rw [exponentTaken]
    dsimp only
    split
    · rename_i marked
      rcases List.mem_cons.mp mem with rfl | mem
      · rcases marked.1 with rfl | rfl <;> exact .inr rfl
      · rcases signNumeral mem with mem | numeral
        · exact digitsNumeral mem
        · exact .inr numeral
    · exact .inl mem

theorem numberNumeral {n : Number} (read : readNumber cs = .ok (n, [])) : ∀ c ∈ cs, isNumeral c = true := by
  intro c mem
  obtain ⟨whole, rest, taken, -, none⟩ := numberOk.mp read
  rcases minusNumeral mem with mem | numeral
  · rcases wholeNumeral taken mem with mem | numeral
    · rcases fractionNumeral mem with mem | numeral
      · have left := exponentNumeral mem
        rw [none] at left
        exact left.resolve_left (List.not_mem_nil)
      · exact numeral
    · exact numeral
  · exact numeral

theorem natDigits {m : Nat} : ∀ c ∈ Letters.ofChars (Nat.toDigits 10 m), isDigit c = true := by
  intro c mem
  obtain ⟨d, there, rfl⟩ := List.mem_map.mp mem
  have digit := Nat.isDigit_of_mem_toDigits (by decide) (by decide) there
  simpa [isDigit, Char.isDigit, Char.le_def] using digit

theorem natRead (m : Nat) : natOfDigits (.ofChars (Nat.toDigits 10 m)) = m := by
  rw [natOfDigits, Letters.ofChars, List.foldl_map]
  exact Nat.ofDigitChars_toDigits (by decide) (by decide)

theorem natHead {m : Nat} (positive : 0 < m) : ∃ c t, Nat.toDigits 10 m = c :: t ∧ c ≠ '0' := by
  induction m using Nat.strong_induction_on with
  | h m ih =>
    by_cases single : m < 10
    · refine ⟨m.digitChar, [], Nat.toDigits_of_lt_base single, ?_⟩
      interval_cases m <;> decide
    · obtain ⟨c, t, same, nonzero⟩ := ih (m / 10) (by omega) (by omega)
      exact ⟨c, t ++ [(m % 10).digitChar], by rw [Nat.toDigits_of_base_le (by decide) (by omega), same]; rfl, nonzero⟩

theorem natWhole (m : Nat) : takeWhole (.ofChars (Nat.toDigits 10 m)) = some (.ofChars (Nat.toDigits 10 m), []) := by
  rcases Nat.eq_zero_or_pos m with rfl | positive
  · rfl
  · obtain ⟨c, t, same, nonzero⟩ := natHead positive
    have digits := natDigits (m := m)
    rw [same, Letters.ofCharsCons] at digits ⊢
    obtain ⟨first, rest⟩ := List.forall_mem_cons.mp digits
    have other : Letter.char c ≠ '0' := fun same => nonzero (Letter.char.inj same)
    rw [takeWhole, if_neg other, if_pos first, List.takeWhile_eq_self_iff.mpr rest, List.dropWhile_eq_nil_iff.mpr rest]

theorem minusNone (digits : ∀ c ∈ cs, isDigit c = true) : takeMinus cs = (false, cs) := by
  unfold takeMinus
  split
  · have minus := digits '-' List.mem_cons_self
    cases minus
  · rfl

theorem intText (n : Int) : takeMinus (letters (toString n)) = (decide (n < 0), .ofChars (Nat.toDigits 10 n.natAbs)) := by
  rw [Int.toString_eq_repr, Int.repr_eq_if, Nat.repr_eq_ofList_toDigits, Nat.repr_eq_ofList_toDigits]
  split
  · rename_i positive
    rw [lettersOf, minusNone natDigits, decide_eq_false (not_lt.mpr positive), ← Int.toNat_of_nonneg positive]
    rfl
  · rename_i negative
    rw [decide_eq_true (not_le.mp negative), show (-n).toNat = n.natAbs by omega, lettersAppend,
      lettersOf (Nat.toDigits 10 n.natAbs)]
    rfl

theorem intRead {n : Int} : readNumber (letters (toString n)) = .ok (.int n, []) ↔ Text.isWritable n = true := by
  have short : (Letters.ofChars (Nat.toDigits 10 n.natAbs)).length ≤ Text.digitLimit ↔ n.natAbs < 10 ^ Text.digitLimit := by
    rw [Letters.ofCharsLength]
    exact Nat.length_toDigits_le_iff (by decide) (by decide)
  have signed : (if n < 0 then -(n.natAbs : Int) else n.natAbs) = n := by
    split <;> omega
  rw [numberOk, Text.writableBelow, ← short, intText]
  constructor
  · rintro ⟨whole, rest, taken, valued, -⟩
    rw [natWhole] at taken
    cases taken
    by_contra long
    simp only [ofParts?, takeFraction, takeExponent, List.isEmpty_nil, Option.isNone_none, Bool.and_self, if_true,
      not_le.mp long, reduceCtorEq] at valued
  · intro short
    refine ⟨_, _, natWhole _, ?_, rfl⟩
    simp only [ofParts?, takeFraction, takeExponent, List.isEmpty_nil, Option.isNone_none, Bool.and_self, if_true,
      not_lt.mpr short, if_false, natRead, decide_eq_true_eq, signed]

end AccessFix.Json
