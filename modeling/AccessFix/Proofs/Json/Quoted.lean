import AccessFix.Json.Printer
import AccessFix.Json.Reader
import AccessFix.Proofs.Fallible
import AccessFix.Proofs.Text.Encoding

/-! Quoted texts are read back, whether they are written in ASCII alone or not. A character is read back from what stands for
it: itself, its letter after a backslash, or its UTF-16 units, of which a character outside the basic plane has two. Surrogates
that stand alone are left out, as two of them would be read as one character. -/
namespace AccessFix.Json

variable {high low : Nat} {c : Char} {rest : Letters}

theorem hexRead {n : Nat} (short : n < 16) : hexValue? (hexDigit n) = some n := by
  have all : ∀ n : Fin 16, hexValue? (hexDigit n) = some n.val := by decide
  exact all ⟨n, short⟩

theorem fourHexRead {n : Nat} (unit : n < 0x10000) (rest : Letters) :
    readFourHex (.ofChars (fourHex n) ++ rest) = some (n, rest) := by
  have place (k : Nat) : hexValue? (hexDigit (k % 16)) = some (k % 16) := hexRead (Nat.mod_lt _ (by decide))
  have whole : ((n / 4096 % 16 * 16 + n / 256 % 16) * 16 + n / 16 % 16) * 16 + n % 16 = n := by omega
  simp only [fourHex, Letters.ofCharsCons, Letters.ofCharsNil, List.cons_append, List.nil_append, readFourHex, place, Option.bind_eq_bind, Option.bind_some, whole]

theorem fourHexLong (n : Nat) (more : rest ≠ []) : ¬(Letters.ofChars (fourHex n) ++ rest).length < 5 := by
  have := List.length_pos_iff.mpr more
  simp only [List.length_append, Letters.ofCharsLength, fourHex, List.length_cons, List.length_nil]
  omega

theorem unitRead (basic : c.toNat < 0x10000) (more : rest ≠ []) :
    readUnitEscape (.ofChars (fourHex c.toNat) ++ rest) = .ok (.char c, rest) := by
  have high : isHighUnit c.toNat = false := by
    simp only [isHighUnit, Bool.and_eq_false_iff, decide_eq_false_iff_not]
    rcases Letter.scalar c with below | above <;> omega
  rw [readUnitEscape, if_neg (fourHexLong _ more), fourHexRead basic]
  simp [high, Letter.ofCodeChar]

theorem lowUnitRead (unit : isLowUnit low = true) (more : rest ≠ []) :
    readLowUnit (unitEscape low ++ rest) = .ok (some (low, rest)) := by
  have short : low < 0x10000 := by
    simp only [isLowUnit, Bool.and_eq_true, decide_eq_true_eq] at unit
    omega
  simp only [unitEscape, List.cons_append, readLowUnit]
  rw [if_neg (fourHexLong _ more), fourHexRead short]
  simp only [unit, if_true]

theorem unitsPairRead (first : isHighUnit high = true) (second : isLowUnit low = true) (more : rest ≠ []) :
    readUnitEscape (.ofChars (fourHex high) ++ (unitEscape low ++ rest)) = .ok (pairLetter high low, rest) := by
  have short : high < 0x10000 := by
    simp only [isHighUnit, Bool.and_eq_true, decide_eq_true_eq] at first
    omega
  rw [readUnitEscape, if_neg (fourHexLong _ (by simp [unitEscape])), fourHexRead short]
  simp only [first, if_true, lowUnitRead second more, Fallible.okBind]

theorem pairRead (beyond : 0x10000 ≤ c.toNat) (more : rest ≠ []) :
    readUnitEscape (.ofChars (fourHex (0xD800 + (c.toNat - 0x10000) / 1024)) ++
      (unitEscape (0xDC00 + (c.toNat - 0x10000) % 1024) ++ rest)) = .ok (.char c, rest) := by
  have last : c.toNat - 0x10000 < 0x100000 := by rcases Letter.scalar c with below | above <;> omega
  have point : 0x10000 + (c.toNat - 0x10000) = c.toNat := by omega
  generalize c.toNat - 0x10000 = n at last point
  have high : isHighUnit (0xD800 + n / 1024) = true := by
    simp only [isHighUnit, Bool.and_eq_true, decide_eq_true_eq]
    omega
  have low : isLowUnit (0xDC00 + n % 1024) = true := by
    simp only [isLowUnit, Bool.and_eq_true, decide_eq_true_eq]
    omega
  have joined : 0x10000 + (0xD800 + n / 1024 - 0xD800) * 1024 + (0xDC00 + n % 1024 - 0xDC00) = c.toNat := by omega
  rw [unitsPairRead high low more, pairLetter, joined, Letter.ofCodeChar]

variable {fuel : Nat} {start acc : Letters} {d e : Letter}

theorem unitStep {cs : Letters} (read : readUnitEscape cs = .ok (d, rest)) :
    readChars (fuel + 1) start acc ('\\' :: 'u' :: cs) = readChars fuel start (d :: acc) rest := by
  simp [readChars, read]

theorem letterStep (letter : simpleEscape? d = some e) (other : d ≠ 'u') :
    readChars (fuel + 1) start acc ('\\' :: d :: rest) = readChars fuel start (e :: acc) rest := by
  simp [readChars, letter, other]

theorem bareStep (quote : d ≠ '"') (slash : d ≠ '\\') (shown : ¬d.code < 32) :
    readChars (fuel + 1) start acc (d :: rest) = readChars fuel start (d :: acc) rest := by
  simp only [readChars, quote, slash, shown, if_false]

theorem charRead (ascii : Bool) (c : Char) (more : rest ≠ []) :
    readChars (fuel + 1) start acc (escape ascii c ++ rest) = readChars fuel start (.char c :: acc) rest := by
  have numbered {k : Nat} (same : c.toNat = k) : c = Char.ofNat k := by rw [← same, Char.ofNat_toNat]
  by_cases quote : Letter.char c = '"'
  · rw [quote]
    exact letterStep rfl (by decide)
  by_cases slash : Letter.char c = '\\'
  · rw [slash]
    exact letterStep rfl (by decide)
  by_cases feed : Letter.char c = '\n'
  · rw [feed]
    exact letterStep rfl (by decide)
  by_cases back : Letter.char c = '\r'
  · rw [back]
    exact letterStep rfl (by decide)
  by_cases tab : Letter.char c = '\t'
  · rw [tab]
    exact letterStep rfl (by decide)
  by_cases eight : c.toNat = 8
  · rw [numbered eight]
    exact letterStep rfl (by decide)
  by_cases twelve : c.toNat = 12
  · rw [numbered twelve]
    exact letterStep rfl (by decide)
  simp only [escape, quote, slash, feed, back, tab, Letter.charCode, eight, twelve, if_false]
  by_cases control : c.toNat < 32
  · rw [if_pos control]
    exact unitStep (unitRead (by omega) more)
  rw [if_neg control]
  cases coded : ascii && decide (126 < c.toNat) with
  | false => exact bareStep quote slash control
  | true =>
    rw [if_pos rfl, unitsEscape]
    by_cases basic : c.toNat < 0x10000
    · rw [if_pos basic]
      exact unitStep (unitRead basic more)
    · rw [if_neg basic, List.append_assoc]
      exact unitStep (pairRead (not_lt.mp basic) more)

theorem letterWritten (ascii : Bool) (d : Letter) : escape ascii d ≠ [] := by
  unfold escape unitsEscape unitEscape
  repeat' split
  all_goals simp

theorem charsRead (ascii : Bool) (t : List Char) (acc : Letters) {fuel : Nat} (enough : t.length < fuel) :
    readChars fuel start acc ((Letters.ofChars t).flatMap (escape ascii) ++ Letter.char '"' :: rest) =
      .ok (acc.reverse ++ .ofChars t, rest) := by
  induction t generalizing fuel acc with
  | nil =>
    cases fuel with
    | zero => cases enough
    | succ fuel => simp [readChars]
  | cons c t ih =>
    cases fuel with
    | zero => cases enough
    | succ fuel =>
      rw [Letters.ofCharsCons, List.flatMap_cons, List.append_assoc, charRead ascii c (by simp),
        ih (.char c :: acc) (Nat.lt_of_succ_lt_succ enough)]
      simp

theorem lettersLength (ascii : Bool) (cs : Letters) : cs.length ≤ (cs.flatMap (escape ascii)).length := by
  induction cs with
  | nil => simp
  | cons c cs ih =>
    have some := List.length_pos_iff.mpr (letterWritten ascii c)
    simp only [List.flatMap_cons, List.length_append, List.length_cons]
    omega

/-- A text without surrogates is read back from behind its first quote. -/
theorem quoteRead (ascii : Bool) {s : Letters} (plain : Text.Encodable s) (rest : Letters) :
    readString (s.flatMap (escape ascii) ++ Letter.char '"' :: rest) = .ok (s, rest) := by
  have long := lettersLength ascii s
  rw [← Text.encodableChars plain] at long ⊢
  rw [readString, charsRead ascii s.chars [] (by simp only [List.length_append, Letters.ofCharsLength] at long ⊢; omega)]
  simp

/-! Letters of what is quoted. -/

structure Shown (ascii : Bool) (d : Letter) : Prop where
  visible : 32 ≤ d.code
  known : Text.Codec.utf8.knows d = true
  low : ascii = true → d.code ≤ 126

theorem shownPlain {ascii : Bool} (visible : 32 ≤ d.code) (low : d.code ≤ 126) : Shown ascii d :=
  ⟨visible, Text.lowKnown (low.trans_lt (by decide)), fun _ => low⟩

theorem fourHexShown (ascii : Bool) (n : Nat) : ∀ d ∈ Letters.ofChars (fourHex n), Shown ascii d := by
  have digit (k : Nat) : Shown ascii (hexDigit (k % 16)) := by
    have all : ∀ k : Fin 16, 32 ≤ (hexDigit k).toNat ∧ (hexDigit k).toNat ≤ 126 := by decide
    obtain ⟨low, high⟩ := all ⟨k % 16, Nat.mod_lt _ (by decide)⟩
    exact shownPlain low high
  simp [fourHex, digit]

theorem unitShown (ascii : Bool) (n : Nat) : ∀ d ∈ unitEscape n, Shown ascii d := by
  refine List.forall_mem_cons.mpr ⟨shownPlain (by decide) (by decide), ?_⟩
  exact List.forall_mem_cons.mpr ⟨shownPlain (by decide) (by decide), fourHexShown ascii n⟩

theorem unitsShown (ascii : Bool) (n : Nat) : ∀ d ∈ unitsEscape n, Shown ascii d := by
  unfold unitsEscape
  split
  · exact unitShown ascii _
  · exact List.forall_mem_append.mpr ⟨unitShown ascii _, unitShown ascii _⟩

theorem escapeShown (ascii : Bool) (known : Text.Codec.utf8.knows d = true) : ∀ e ∈ escape ascii d, Shown ascii e := by
  have slash : Shown ascii '\\' := shownPlain (by decide) (by decide)
  have letter (d : Letter) (low : 32 ≤ d.code) (high : d.code ≤ 126) : ∀ e ∈ [.char '\\', d], Shown ascii e := by
    simp [shownPlain low high, slash]
  unfold escape
  repeat' split
  all_goals first
    | exact letter _ (by decide) (by decide)
    | exact unitShown ascii _
    | exact unitsShown ascii _
    | skip
  rename_i shown unescaped
  simp only [Bool.and_eq_true, decide_eq_true_eq, not_and, not_lt] at unescaped
  have itself : Shown ascii d := ⟨not_lt.mp shown, known, unescaped⟩
  simpa only [List.forall_mem_singleton] using itself

theorem quoteShown (ascii : Bool) {s : Letters} (plain : Text.Encodable s) : ∀ d ∈ quote ascii s, Shown ascii d := by
  have mark : Shown ascii '"' := shownPlain (by decide) (by decide)
  refine List.forall_mem_cons.mpr ⟨mark, List.forall_mem_append.mpr ⟨fun d mem => ?_, by simpa using mark⟩⟩
  obtain ⟨c, there, escaped⟩ := List.mem_flatMap.mp mem
  exact escapeShown ascii (plain c there) d escaped

theorem quoteBare {s : Letters} (bare : ∀ d ∈ s, d ≠ '"' ∧ d ≠ '\\' ∧ 32 ≤ d.code) :
    quote false s = Letter.char '"' :: s ++ [.char '"'] := by
  have same : s.flatMap (escape false) = s.flatMap fun c => [c] := by
    refine List.flatMap_congr fun d mem => ?_
    obtain ⟨quote, slash, shown⟩ := bare d mem
    have control {e : Letter} (low : e.code < 32) : d ≠ e := by
      rintro rfl
      omega
    have feed := control (e := '\n') (by decide)
    have back := control (e := '\r') (by decide)
    have tab := control (e := '\t') (by decide)
    simp [escape, quote, slash, feed, back, tab, show d.code ≠ 8 by omega, show d.code ≠ 12 by omega, shown]
  rw [quote, same, List.flatMap_singleton']

theorem quoteUnknown {s : Letters} (uncoded : ¬Text.Encodable s) : ¬Text.Encodable (quote false s) := by
  intro plain
  refine uncoded fun d mem => ?_
  by_contra unknown
  have high := Text.unknownHigh (Bool.eq_false_iff.mpr unknown)
  have other {e : Letter} (low : e.code < 0xD800) : d ≠ e := by
    rintro rfl
    omega
  have itself : escape false d = [d] := by
    simp [escape, other (e := '"') (by decide), other (e := '\\') (by decide), other (e := '\n') (by decide),
      other (e := '\r') (by decide), other (e := '\t') (by decide), show d.code ≠ 8 by omega, show d.code ≠ 12 by omega,
      show ¬d.code < 32 by omega]
  have there : d ∈ quote false s := by
    simp only [quote, List.cons_append, List.mem_cons, List.mem_append, List.mem_flatMap]
    exact .inr (.inl ⟨d, mem, by simp [itself]⟩)
  exact unknown (plain d there)

end AccessFix.Json
