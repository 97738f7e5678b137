import AccessFix.Proofs.Json.Numeral
import AccessFix.Proofs.Json.Quoted

/-! Values are read back from their texts. A text is written compact or indented, and what the indented form adds are blanks
before a value, a name or the end of a collection, where the reader skips them. -/
namespace AccessFix.Json
open Letter (char)

/-- Values of numbers that are read back from their texts and of texts that have an encoding, with no name twice in an object and
with collections nested at most `room` deep. -/
inductive Legible : (room : Nat) → Json → Prop where
  | null {room : Nat} : Legible room .null
  | bool {room : Nat} (b : Bool) : Legible room (.bool b)
  | number {room : Nat} {n : Number} (read : readNumber (letters (numberText n)) = .ok (n, [])) : Legible room (.number n)
  | string {room : Nat} {s : Letters} (plain : Text.Encodable s) : Legible room (.string s)
  | array {room : Nat} {items : List Json} (each : ∀ v ∈ items, Legible room v) : Legible (room + 1) (.array items)
  | object {room : Nat} {members : List (Letters × Json)} (once : (members.map Prod.fst).Nodup)
      (plain : ∀ m ∈ members, Text.Encodable m.1) (each : ∀ m ∈ members, Legible room m.2) : Legible (room + 1) (.object members)

variable {l : Layout} {depth room fuel : Nat} {v x : Json} {items xs acc : List Json} {name : Letters}
  {members ms before : List (Letters × Json)} {c : Letter} {cs gap rest : Letters}

def Blank (gap : Letters) : Prop := ∀ c ∈ gap, isBlank c = true

theorem skipBlank (blank : Blank gap) (cs : Letters) : skip (gap ++ cs) = skip cs := by
  induction gap with
  | nil => rfl
  | cons c gap ih =>
    obtain ⟨first, blank⟩ := List.forall_mem_cons.mp blank
    rw [List.cons_append, skip, List.dropWhile_cons_of_pos first]
    exact ih blank

theorem skipNone (solid : isBlank c = false) (cs : Letters) : skip (c :: cs) = c :: cs := by simp [skip, solid]

theorem openBlank (l : Layout) (depth : Nat) : Blank (l.open depth) := by
  unfold Layout.open
  split
  · refine List.forall_mem_cons.mpr ⟨rfl, fun c mem => ?_⟩
    rw [List.eq_of_mem_replicate mem]
    rfl
  · exact fun _ mem => nomatch mem

theorem betweenBlank (l : Layout) (depth : Nat) : ∃ gap, Blank gap ∧ l.between depth = char ',' :: gap := by
  unfold Layout.between
  split
  · exact ⟨_, openBlank l depth, rfl⟩
  · exact ⟨[char ' '], by simp [Blank, isBlank], rfl⟩

theorem blankStops (blank : Blank gap) (stop : isNumeral c = false) : Stops (gap ++ c :: cs) := by
  cases gap with
  | nil => exact stopsCons.mpr stop
  | cons b gap =>
    have first : isBlank b = true := blank b List.mem_cons_self
    simp only [isBlank, Bool.or_eq_true, decide_eq_true_eq] at first
    refine stopsCons.mpr ?_
    rcases first with ((rfl | rfl) | rfl) | rfl <;> rfl

/-! What a text starts with. -/

def isFirst (c : Letter) : Bool := isNumeral c || [char 'n', char 't', char 'f', char '"', char '[', char '\x7b'].contains c

theorem firstOpens (first : isFirst c = true) : isBlank c = false ∧ c ≠ ']' ∧ c.code ≠ 0xFEFF := by
  have other {d : Letter} (blank : isFirst d = false) : c ≠ d := by
    rintro rfl
    simp [first] at blank
  refine ⟨?_, other rfl, fun mark => ?_⟩
  · simp [isBlank, other (d := ' ') rfl, other (d := '\t') rfl, other (d := '\n') rfl, other (d := '\r') rfl]
  · exact other (d := .ofCode 0xFEFF) rfl (by rw [← mark, Letter.ofCodeOf])

theorem writtenHead (legible : Legible room v) (l : Layout) (depth : Nat) :
    ∃ c cs, write l depth v = c :: cs ∧ isFirst c = true := by
  cases legible with
  | null => exact ⟨'n', letters "ull", rfl, rfl⟩
  | bool b =>
    cases b
    · exact ⟨'f', letters "alse", rfl, rfl⟩
    · exact ⟨'t', letters "rue", rfl, rfl⟩
  | number read =>
    have first {d : Letter} (numeral : isNumeral d = true) : isFirst d = true := by rw [isFirst, numeral, Bool.true_or]
    obtain ⟨d, t, digit, same | same⟩ := numberHead read
    · exact ⟨d, t, same, first (digitNumeral digit)⟩
    · exact ⟨'-', d :: t, same, first rfl⟩
  | string s => exact ⟨'"', _, rfl, rfl⟩
  | @array _ items =>
    cases items
    · exact ⟨'[', [char ']'], rfl, rfl⟩
    · exact ⟨'[', _, rfl, rfl⟩
  | @object _ members =>
    cases members
    · exact ⟨'\x7b', [char '\x7d'], rfl, rfl⟩
    · exact ⟨'\x7b', _, rfl, rfl⟩

/-! Steps of the reader. -/

def Reads (room : Nat) (v : Json) : Prop :=
  ∀ (l : Layout) (depth : Nat) {rest : Letters} {fuel : Nat}, Stops rest → (write l depth v).length < fuel →
    readValue fuel room (write l depth v ++ rest) = .ok (v, rest)

theorem plainValue (quote : c ≠ '"') (brace : c ≠ '\x7b') (bracket : c ≠ '[') (room : Nat) (cs : Letters) :
    readValue (fuel + 1) room (c :: cs) = match readWord? (c :: cs) with
      | some r => .ok r
      | none => (readNumber (c :: cs)).map fun r => (.number r.1, r.2) := by
  rw [readValue.eq_def]
  dsimp only
  split
  · rename_i none
    cases none
  · exact absurd (List.cons.inj ‹_›).1 quote
  · exact absurd (List.cons.inj ‹_›).1 brace
  · exact absurd (List.cons.inj ‹_›).1 bracket
  · rename_i same
    cases same
    rfl

theorem arrayValue (cs : Letters) (stop : (skip cs).head? ≠ some (char ']')) : readValue (fuel + 1) (room + 1) (char '[' :: cs) =
    (readItems fuel room [] (skip cs)).map fun r => (.array r.1, r.2) := by
  simp only [readValue]
  split
  · rename_i same
    simp [same] at stop
  · rfl

theorem objectValue (cs : Letters) (stop : (skip cs).head? ≠ some (char '\x7d')) : readValue (fuel + 1) (room + 1) (char '\x7b' :: cs) =
    (readMembers fuel room [] (skip cs)).map fun r => (.object r.1, r.2) := by
  simp only [readValue]
  split
  · rename_i same
    simp [same] at stop
  · rfl

theorem nullReads : Reads room .null := by
  intro l depth rest fuel _ enough
  cases fuel with
  | zero => cases enough
  | succ fuel => exact (plainValue (by decide) (by decide) (by decide) room _).trans rfl

theorem boolReads (b : Bool) : Reads room (.bool b) := by
  intro l depth rest fuel _ enough
  cases fuel with
  | zero => cases enough
  | succ fuel => cases b <;> exact (plainValue (by decide) (by decide) (by decide) room _).trans rfl

theorem numberReads {n : Number} (read : readNumber (letters (numberText n)) = .ok (n, [])) : Reads room (.number n) := by
  intro l depth rest fuel stops enough
  cases fuel with
  | zero => cases enough
  | succ fuel =>
    have wordless := numberWordless read rest
    have taken := numberStop stops read
    have head : ∃ c t, isNumeral c = true ∧ letters (numberText n) = c :: t := by
      obtain ⟨d, t, digit, same | same⟩ := numberHead read
      · exact ⟨d, t, digitNumeral digit, same⟩
      · exact ⟨'-', d :: t, rfl, same⟩
    obtain ⟨c, t, numeral, same⟩ := head
    have other {d : Letter} (none : isNumeral d = false) : c ≠ d := by
      rintro rfl
      simp [numeral] at none
    rw [same, List.cons_append] at wordless taken
    rw [write, same, List.cons_append]
    rw [plainValue (other rfl) (other rfl) (other rfl), wordless, taken]
    rfl

theorem stringReads {s : Letters} (plain : Text.Encodable s) : Reads room (.string s) := by
  intro l depth rest fuel _ enough
  cases fuel with
  | zero => cases enough
  | succ fuel =>
    simp only [write, quote, List.cons_append, List.append_assoc, readValue, quoteRead l.ascii plain]
    rfl

/-! Collections, item by item and member by member. -/

theorem writtenSolid (legible : Legible room v) (l : Layout) (depth : Nat) (cs : Letters) :
    skip (write l depth v ++ cs) = write l depth v ++ cs := by
  obtain ⟨c, t, same, first⟩ := writtenHead legible l depth
  rw [same]
  exact skipNone (firstOpens first).1 _

theorem betweenStops (l : Layout) (depth : Nat) (cs : Letters) : Stops (l.between depth ++ cs) := by
  obtain ⟨gap, -, same⟩ := betweenBlank l depth
  rw [same]
  exact stopsCons.mpr rfl

theorem betweenSkipped (l : Layout) (depth : Nat) (cs : Letters) :
    ∃ gap, Blank gap ∧ skip (l.between depth ++ cs) = char ',' :: (gap ++ cs) := by
  obtain ⟨gap, blank, same⟩ := betweenBlank l depth
  exact ⟨gap, blank, by rw [same]; exact skipNone rfl _⟩

theorem betweenFills (l : Layout) (depth : Nat) : 0 < (l.between depth).length := by
  obtain ⟨gap, -, same⟩ := betweenBlank l depth
  simp [same]

theorem lastItemRead (reads : Reads room x) {tail : Letters} (stops : Stops tail) (ended : skip tail = char ']' :: rest)
    (enough : (write l depth x).length < fuel) :
    readItems (fuel + 1) room acc (write l depth x ++ tail) = .ok ((x :: acc).reverse, rest) := by
  simp only [readItems, reads l depth stops enough, ended]

theorem nextItemRead (reads : Reads room x) {tail : Letters} (stops : Stops tail) (onward : skip tail = char ',' :: rest)
    (enough : (write l depth x).length < fuel) :
    readItems (fuel + 1) room acc (write l depth x ++ tail) = readItems fuel room (x :: acc) (skip rest) := by
  simp only [readItems, reads l depth stops enough, onward]

theorem itemsRead (each : ∀ v ∈ x :: xs, Legible room v ∧ Reads room v) (blank : Blank gap)
    (enough : (write l depth x).length + (writeItems l depth xs).length + 1 < fuel) :
    readItems fuel room acc (write l depth x ++ (writeItems l depth xs ++ (gap ++ char ']' :: rest))) =
      .ok (acc.reverse ++ x :: xs, rest) := by
  induction xs generalizing x acc fuel with
  | nil =>
    obtain ⟨-, reads⟩ := each x List.mem_cons_self
    cases fuel with
    | zero => cases enough
    | succ fuel =>
      have ended : skip (gap ++ char ']' :: rest) = char ']' :: rest := (skipBlank blank _).trans (skipNone rfl rest)
      rw [writeItems, List.nil_append, lastItemRead reads (blankStops blank rfl) ended (by omega)]
      simp
  | cons y ys ih =>
    obtain ⟨⟨-, reads⟩, later⟩ := List.forall_mem_cons.mp each
    have next := (later y List.mem_cons_self).1
    cases fuel with
    | zero => cases enough
    | succ fuel =>
      have fills := betweenFills l depth
      simp only [writeItems, List.length_append] at enough
      obtain ⟨between, blank', skipped⟩ := betweenSkipped l depth
        (write l depth y ++ (writeItems l depth ys ++ (gap ++ char ']' :: rest)))
      simp only [writeItems, List.append_assoc]
      rw [nextItemRead reads (betweenStops l depth _) skipped (by omega), skipBlank blank', writtenSolid next,
        ih later (by omega)]
      simp

theorem setMemberNew {α : Type} {name : Letters} {value : α} {members : List (Letters × α)}
    (new : name ∉ members.map Prod.fst) : setMember name value members = members ++ [(name, value)] := by
  induction members with
  | nil => rfl
  | cons m members ih =>
    simp only [List.map_cons, List.mem_cons, not_or] at new
    rw [setMember, if_neg (Ne.symm new.1), ih new.2]
    rfl

theorem afterName (legible : Legible room v) (l : Layout) (depth : Nat) (tail : Letters) :
    skip (char ' ' :: (write l depth v ++ tail)) = write l depth v ++ tail :=
  (skipBlank (show Blank [char ' '] by simp [Blank, isBlank]) _).trans (writtenSolid legible l depth tail)

theorem lastMemberRead (plain : Text.Encodable name) (legible : Legible room v) (reads : Reads room v) (new : name ∉ before.map Prod.fst)
    {tail : Letters} (stops : Stops tail) (ended : skip tail = char '\x7d' :: rest) (enough : (write l depth v).length < fuel) :
    readMembers (fuel + 1) room before (quote l.ascii name ++ (char ':' :: char ' ' :: (write l depth v ++ tail))) =
      .ok (before ++ [(name, v)], rest) := by
  have colon (cs : Letters) : skip (char ':' :: cs) = char ':' :: cs := skipNone rfl cs
  simp only [quote, List.cons_append, List.append_assoc, List.nil_append, readMembers, quoteRead l.ascii plain, colon,
    afterName legible l depth tail, reads l depth stops enough, setMemberNew new, ended]

theorem nextMemberRead (plain : Text.Encodable name) (legible : Legible room v) (reads : Reads room v) (new : name ∉ before.map Prod.fst)
    {tail : Letters} (stops : Stops tail) (onward : skip tail = char ',' :: rest) (enough : (write l depth v).length < fuel) :
    readMembers (fuel + 1) room before (quote l.ascii name ++ (char ':' :: char ' ' :: (write l depth v ++ tail))) =
      readMembers fuel room (before ++ [(name, v)]) (skip rest) := by
  have colon (cs : Letters) : skip (char ':' :: cs) = char ':' :: cs := skipNone rfl cs
  simp only [quote, List.cons_append, List.append_assoc, List.nil_append, readMembers, quoteRead l.ascii plain, colon,
    afterName legible l depth tail, reads l depth stops enough, setMemberNew new, onward]

theorem nameNew (once : ((before ++ (name, v) :: ms).map Prod.fst).Nodup) : name ∉ before.map Prod.fst := by
  rw [List.map_append, List.map_cons] at once
  exact fun old => (List.nodup_append.mp once).2.2 name old name List.mem_cons_self rfl

theorem membersRead (each : ∀ m ∈ (name, v) :: ms, Text.Encodable m.1 ∧ Legible room m.2 ∧ Reads room m.2) (blank : Blank gap)
    (once : ((before ++ (name, v) :: ms).map Prod.fst).Nodup)
    (enough : (write l depth v).length + (writeMembers l depth ms).length + 1 < fuel) :
    readMembers fuel room before (quote l.ascii name ++ (char ':' :: char ' ' :: (write l depth v ++
      (writeMembers l depth ms ++ (gap ++ char '\x7d' :: rest))))) = .ok (before ++ (name, v) :: ms, rest) := by
  induction ms generalizing name v before fuel with
  | nil =>
    obtain ⟨plain, legible, reads⟩ : Text.Encodable name ∧ Legible room v ∧ Reads room v := each (name, v) List.mem_cons_self
    cases fuel with
    | zero => cases enough
    | succ fuel =>
      have ended : skip (gap ++ char '\x7d' :: rest) = char '\x7d' :: rest := (skipBlank blank _).trans (skipNone rfl rest)
      rw [writeMembers, List.nil_append, lastMemberRead plain legible reads (nameNew once) (blankStops blank rfl) ended (by omega)]
  | cons m ms ih =>
    obtain ⟨here, later⟩ := List.forall_mem_cons.mp each
    obtain ⟨plain, legible, reads⟩ : Text.Encodable name ∧ Legible room v ∧ Reads room v := here
    obtain ⟨name', v'⟩ := m
    cases fuel with
    | zero => cases enough
    | succ fuel =>
      have fills := betweenFills l depth
      simp only [writeMembers, List.length_append, List.length_cons] at enough
      have rejoined : before ++ (name, v) :: (name', v') :: ms = (before ++ [(name, v)]) ++ (name', v') :: ms := by simp
      obtain ⟨between, blank', skipped⟩ := betweenSkipped l depth
        (quote l.ascii name' ++ (char ':' :: char ' ' :: (write l depth v' ++ (writeMembers l depth ms ++ (gap ++ char '\x7d' :: rest)))))
      simp only [writeMembers, List.append_assoc, List.cons_append]
      rw [nextMemberRead plain legible reads (nameNew once) (betweenStops l depth _) skipped (by omega)]
      have quoted (cs : Letters) : skip (quote l.ascii name' ++ cs) = quote l.ascii name' ++ cs := skipNone rfl _
      rw [skipBlank blank', quoted, rejoined, ih later (by rwa [← rejoined]) (by omega)]

theorem arrayReads (each : ∀ v ∈ items, Legible room v ∧ Reads room v) : Reads (room + 1) (.array items) := by
  intro l depth rest fuel _ enough
  cases fuel with
  | zero => cases enough
  | succ fuel =>
    cases items with
    | nil => rfl
    | cons x xs =>
      obtain ⟨legible, -⟩ := each x List.mem_cons_self
      obtain ⟨c, t, same, first⟩ := writtenHead legible l (depth + 1)
      have stop : (write l (depth + 1) x ++ (writeItems l (depth + 1) xs ++ (l.open depth ++ char ']' :: rest))).head? ≠ some (char ']') := by
        rw [same]
        simpa using (firstOpens first).2.1
      simp only [write, List.length_append, List.length_cons] at enough
      simp only [write, List.cons_append, List.append_assoc, List.nil_append]
      rw [arrayValue _ (by rwa [skipBlank (openBlank l _), writtenSolid legible]), skipBlank (openBlank l _), writtenSolid legible,
        itemsRead each (openBlank l depth) (by omega)]
      rfl

theorem objectReads (once : (members.map Prod.fst).Nodup) 
    (each : ∀ m ∈ members, Text.Encodable m.1 ∧ Legible room m.2 ∧ Reads room m.2) :
    Reads (room + 1) (.object members) := by
  intro l depth rest fuel _ enough
  cases fuel with
  | zero => cases enough
  | succ fuel =>
    cases members with
    | nil => rfl
    | cons m ms =>
      obtain ⟨name, v⟩ := m
      have quoted (cs : Letters) : skip (quote l.ascii name ++ cs) = quote l.ascii name ++ cs := skipNone rfl _
      simp only [write, List.length_append, List.length_cons] at enough
      simp only [write, List.cons_append, List.append_assoc, List.nil_append]
      rw [objectValue _ (by rw [skipBlank (openBlank l _), quoted]; simp [quote]), skipBlank (openBlank l _), quoted,
        membersRead each (openBlank l depth) once (by omega)]
      rfl

theorem legibleReads (legible : Legible room v) : Reads room v := by
  induction legible with
  | null => exact nullReads
  | bool b => exact boolReads b
  | number read => exact numberReads read
  | string plain => exact stringReads plain
  | array each ih => exact arrayReads fun v mem => ⟨each v mem, ih v mem⟩
  | object once plain each ih => exact objectReads once fun m mem => ⟨plain m mem, each m mem, ih m mem⟩

theorem printRead (legible : Legible nestingLimit v) (l : Layout) : read (print l v) = .ok v := by
  obtain ⟨c, t, same, first⟩ := writtenHead legible l 0
  obtain ⟨solid, -, unmarked⟩ := firstOpens first
  have enough : (write l 0 v).length < 2 * (write l 0 v).length + 2 := by omega
  have taken := legibleReads legible l 0 stopsNil enough
  rw [List.append_nil] at taken
  rw [print]
  rw [same] at taken ⊢
  rw [read.eq_def]
  simp only [if_neg unmarked, skipNone solid, taken]
  rfl

/-! Characters of a text. -/

def Layout.Admits (l : Layout) (c : Letter) : Prop := c = '\n' ∧ l.indented = true ∨ Shown l.ascii c

theorem numeralShown (ascii : Bool) (numeral : isNumeral c = true) : Shown ascii c := by
  simp only [isNumeral, Bool.or_eq_true, List.contains_iff_mem, List.mem_cons, List.not_mem_nil, or_false] at numeral
  rcases numeral with digit | other
  · simp only [isDigit, Bool.and_eq_true, decide_eq_true_eq] at digit
    have low : 48 ≤ c.code := digit.1
    have high : c.code ≤ 57 := digit.2
    exact shownPlain (by omega) (by omega)
  · rcases other with rfl | rfl | rfl | rfl | rfl <;> exact shownPlain (by decide) (by decide)

def isPlain (c : Letter) : Bool := decide (32 ≤ c.code) && decide (c.code ≤ 126)

theorem plainAdmits (word : Letters) (plain : word.all isPlain = true) (l : Layout) : ∀ c ∈ word, l.Admits c := by
  intro c mem
  have both := List.all_eq_true.mp plain c mem
  simp only [isPlain, Bool.and_eq_true, decide_eq_true_eq] at both
  exact .inr (shownPlain both.1 both.2)

theorem openAdmits (l : Layout) (depth : Nat) : ∀ c ∈ l.open depth, l.Admits c := by
  unfold Layout.open
  split
  · rename_i indented
    refine List.forall_mem_cons.mpr ⟨.inl ⟨rfl, indented⟩, fun c mem => .inr ?_⟩
    rw [List.eq_of_mem_replicate mem]
    exact shownPlain (by decide) (by decide)
  · exact fun _ mem => nomatch mem

theorem betweenAdmits (l : Layout) (depth : Nat) : ∀ c ∈ l.between depth, l.Admits c := by
  unfold Layout.between
  split
  · exact List.forall_mem_cons.mpr ⟨.inr (shownPlain (by decide) (by decide)), openAdmits l depth⟩
  · exact plainAdmits [char ',', char ' '] rfl l

theorem itemsAdmit (each : ∀ v ∈ items, ∀ c ∈ write l depth v, l.Admits c) : ∀ c ∈ writeItems l depth items, l.Admits c := by
  induction items with
  | nil => exact fun _ mem => nomatch mem
  | cons x xs ih =>
    obtain ⟨first, later⟩ := List.forall_mem_cons.mp each
    simp only [writeItems, List.forall_mem_append]
    exact ⟨⟨betweenAdmits l depth, first⟩, ih later⟩

theorem memberAdmits (plain : Text.Encodable name) (admits : ∀ c ∈ write l depth v, l.Admits c) :
    ∀ c ∈ quote l.ascii name ++ char ':' :: char ' ' :: write l depth v, l.Admits c := by
  refine List.forall_mem_append.mpr ⟨fun c mem => .inr (quoteShown l.ascii plain c mem), ?_⟩
  exact List.forall_mem_append.mpr ⟨plainAdmits [char ':', char ' '] rfl l, admits⟩

theorem membersAdmit (plain : ∀ m ∈ members, Text.Encodable m.1)
    (each : ∀ m ∈ members, ∀ c ∈ write l depth m.2, l.Admits c) : ∀ c ∈ writeMembers l depth members, l.Admits c := by
  induction members with
  | nil => exact fun _ mem => nomatch mem
  | cons m ms ih =>
    obtain ⟨first, later⟩ := List.forall_mem_cons.mp each
    obtain ⟨named, others⟩ := List.forall_mem_cons.mp plain
    obtain ⟨name, v⟩ := m
    have here := memberAdmits named first
    rw [List.forall_mem_append] at here
    simp only [writeMembers, List.forall_mem_append]
    exact ⟨⟨⟨betweenAdmits l depth, here.1⟩, here.2⟩, ih others later⟩

theorem writtenAdmits (legible : Legible room v) (l : Layout) (depth : Nat) : ∀ c ∈ write l depth v, l.Admits c := by
  induction legible generalizing depth with
  | null => exact plainAdmits (letters "null") rfl l
  | bool b =>
    cases b
    · exact plainAdmits (letters "false") rfl l
    · exact plainAdmits (letters "true") rfl l
  | number read => exact fun c mem => .inr (numeralShown l.ascii (numberNumeral read c mem))
  | string plain => exact fun c mem => .inr (quoteShown l.ascii plain c mem)
  | @array room items each ih =>
    cases items with
    | nil => exact plainAdmits (letters "[]") rfl l
    | cons x xs =>
      obtain ⟨first, later⟩ := List.forall_mem_cons.mp fun v mem => ih v mem (depth + 1)
      have opened := List.forall_mem_append.mpr ⟨plainAdmits [char '['] rfl l, openAdmits l (depth + 1)⟩
      have closed := List.forall_mem_append.mpr ⟨openAdmits l depth, plainAdmits [char ']'] rfl l⟩
      have inner := List.forall_mem_append.mpr ⟨first, itemsAdmit later⟩
      have whole := List.forall_mem_append.mpr ⟨opened, List.forall_mem_append.mpr ⟨inner, closed⟩⟩
      simpa only [write, List.append_assoc, List.cons_append, List.nil_append] using whole
  | @object room members once plain each ih =>
    cases members with
    | nil => exact plainAdmits (letters "\x7b\x7d") rfl l
    | cons m ms =>
      obtain ⟨first, later⟩ := List.forall_mem_cons.mp fun m mem => ih m mem (depth + 1)
      obtain ⟨named, others⟩ := List.forall_mem_cons.mp plain
      obtain ⟨name, v⟩ := m
      have opened := List.forall_mem_append.mpr ⟨plainAdmits [char '\x7b'] rfl l, openAdmits l (depth + 1)⟩
      have closed := List.forall_mem_append.mpr ⟨openAdmits l depth, plainAdmits [char '\x7d'] rfl l⟩
      have inner := List.forall_mem_append.mpr ⟨memberAdmits named first, membersAdmit others later⟩
      have whole := List.forall_mem_append.mpr ⟨opened, List.forall_mem_append.mpr ⟨inner, closed⟩⟩
      simpa only [write, List.append_assoc, List.cons_append, List.nil_append] using whole

theorem printEncodable (legible : Legible nestingLimit v) (l : Layout) : Text.Encodable (print l v) := by
  intro c mem
  rcases writtenAdmits legible l 0 c mem with ⟨rfl, -⟩ | shown
  · rfl
  · exact shown.known

inductive Within (v : Json) : Json → Prop where
  | itself : Within v v
  | item {x : Json} {items : List Json} (mem : x ∈ items) (inner : Within v x) : Within v (.array items)
  | member {m : Letters × Json} {members : List (Letters × Json)} (mem : m ∈ members) (inner : Within v m.2) :
    Within v (.object members)

theorem itemWritten (mem : x ∈ items) (l : Layout) (depth : Nat) : write l depth x <:+: writeItems l depth items := by
  induction items with
  | nil => cases mem
  | cons y ys ih =>
    rw [writeItems]
    rcases List.mem_cons.mp mem with rfl | later
    · exact ⟨l.between depth, writeItems l depth ys, rfl⟩
    · exact (ih later).trans (List.suffix_append _ _).isInfix

theorem memberWritten {m : Letters × Json} (mem : m ∈ members) (l : Layout) (depth : Nat) :
    write l depth m.2 <:+: writeMembers l depth members := by
  induction members with
  | nil => cases mem
  | cons first ms ih =>
    obtain ⟨name, v⟩ := first
    rw [writeMembers]
    rcases List.mem_cons.mp mem with rfl | later
    · exact ⟨l.between depth ++ quote l.ascii name ++ [char ':', char ' '], writeMembers l depth ms, by simp⟩
    · exact (ih later).trans (List.suffix_append _ _).isInfix

theorem withinWritten (within : Within x v) (l : Layout) (depth : Nat) :
    ∃ inner, write l inner x <:+: write l depth v := by
  induction within generalizing depth with
  | itself => exact ⟨depth, List.infix_rfl⟩
  | @item y items mem _ ih =>
    obtain ⟨inner, found⟩ := ih (depth + 1)
    refine ⟨inner, found.trans ?_⟩
    cases items with
    | nil => cases mem
    | cons first ys =>
      rw [write]
      rcases List.mem_cons.mp mem with rfl | later
      · exact ⟨char '[' :: l.open (depth + 1), writeItems l (depth + 1) ys ++ l.open depth ++ [char ']'], by simp⟩
      · refine (itemWritten later l (depth + 1)).trans ?_
        exact ⟨char '[' :: l.open (depth + 1) ++ write l (depth + 1) first, l.open depth ++ [char ']'], by simp⟩
  | @member m members mem _ ih =>
    obtain ⟨inner, found⟩ := ih (depth + 1)
    refine ⟨inner, found.trans ?_⟩
    cases members with
    | nil => cases mem
    | cons first ms =>
      obtain ⟨name, w⟩ := first
      rw [write]
      rcases List.mem_cons.mp mem with rfl | later
      · exact ⟨char '\x7b' :: l.open (depth + 1) ++ quote l.ascii name ++ [char ':', char ' '],
          writeMembers l (depth + 1) ms ++ l.open depth ++ [char '\x7d'], by simp⟩
      · refine (memberWritten later l (depth + 1)).trans ?_
        exact ⟨char '\x7b' :: l.open (depth + 1) ++ quote l.ascii name ++ char ':' :: char ' ' :: write l (depth + 1) w,
          l.open depth ++ [char '\x7d'], by simp⟩

theorem unknownWritten {s : Letters} (within : Within (.string s) v) (uncoded : ¬Text.Encodable s) (l : Layout)
    (script : l.ascii = false) : ¬Text.Encodable (print l v) := by
  obtain ⟨inner, found⟩ := withinWritten within l 0
  rw [write, script] at found
  exact fun plain => quoteUnknown uncoded fun c mem => plain c (found.subset mem)

end AccessFix.Json
