import AccessFix.Proofs.Letter
import AccessFix.Proofs.Pattern
import AccessFix.Reply

/-! What is read of a reply, told by places in it: where the first fence stands, where the inside of its block begins, where the
next fence stands, and where the mark does. -/
namespace AccessFix.Reply
open Pattern

def tick : Letter := .ofCode 96

def dropFence? (cs : Letters) : Option Letters := if fence <+: cs then some (cs.drop 3) else none

def FenceAt (text : Letters) (i : Nat) : Prop := fence <+: text.drop i

theorem splitFenceScan (cs : Letters) : splitFence? cs = scan dropFence? cs := by
  induction cs with
  | nil => rfl
  | cons c rest ih =>
    rw [splitFence?, scan, dropFence?, ih]
    by_cases here : fence <+: c :: rest
    · simp [here]
    · have other : fence.isPrefixOf (c :: rest) = false := by
        rwa [← Bool.not_eq_true, List.isPrefixOf_iff_prefix]
      simp [here, other]

theorem dropFenceSome {cs rest : Letters} : dropFence? cs = some rest ↔ cs = fence ++ rest := by
  rw [dropFence?]
  constructor
  · intro ok
    split at ok
    · rename_i here
      cases ok
      obtain ⟨rest, rfl⟩ := here
      rfl
    · contradiction
  · rintro rfl
    simp [fence]

theorem dropFenceNone {cs : Letters} : dropFence? cs = none ↔ ¬fence <+: cs := by simp [dropFence?]

theorem fenceRead (text : Letters) (k : Nat) : FenceAt text k ↔ dropFence? (text.drop k) ≠ none := by
  rw [Ne, dropFenceNone, not_not, FenceAt]

theorem fenceSomewhere {cs : Letters} : fence <:+: cs ↔ ∃ k, FenceAt cs k := by
  rw [List.infix_iff_prefix_suffix]
  constructor
  · rintro ⟨tail, here, later⟩
    exact ⟨_, by rwa [FenceAt, ← List.suffix_iff_eq_drop.mp later]⟩
  · rintro ⟨k, here⟩
    exact ⟨_, here, List.drop_suffix k cs⟩

theorem splitFenceNone {cs : Letters} : splitFence? cs = none ↔ ¬fence <:+: cs := by
  rw [splitFenceScan, scanNone, fenceSomewhere, not_exists]
  exact forall_congr' fun k => by rw [fenceRead, not_not]

theorem fenceAfter {front rest : Letters} (free : tick ∉ front) (there : fence <:+: front ++ rest) : fence <:+: rest := by
  induction front with
  | nil => exact there
  | cons c front ih =>
    rw [List.mem_cons, not_or] at free
    rcases List.infix_cons_iff.mp there with here | later
    · exact absurd (List.cons_prefix_cons.mp here).1 free.1
    · exact ih free.2 later

/-! The line with a tag that may follow an opening fence. -/

def TagLine (line : Letters) : Prop :=
  ∃ tag newline, line = tag ++ newline ∧ (∀ c ∈ tag, isTagLetter c = true) ∧ (newline = ['\n'] ∨ newline = ['\r', '\n'])

theorem tagLineFree {line : Letters} (tagged : TagLine line) : tick ∉ line := by
  obtain ⟨tag, newline, rfl, all, ends⟩ := tagged
  rw [List.mem_append, not_or]
  refine ⟨fun there => absurd (all tick there) (by decide), ?_⟩
  rcases ends with rfl | rfl <;> decide

theorem tagLineDropped {line : Letters} (tagged : TagLine line) (rest : Letters) : dropTagLine (line ++ rest) = rest := by
  obtain ⟨tag, newline, rfl, all, ends⟩ := tagged
  have feed : isTagLetter '\n' = false := by decide
  have return_ : isTagLetter '\r' = false := by decide
  rw [dropTagLine, List.append_assoc, List.dropWhile_append_of_pos all]
  rcases ends with rfl | rfl
  · simp [feed]
  · simp [return_]

theorem untaggedKept {cs : Letters} (untagged : ∀ line rest, cs = line ++ rest → ¬TagLine line) : dropTagLine cs = cs := by
  have parts : cs = cs.takeWhile isTagLetter ++ cs.dropWhile isTagLetter := List.takeWhile_append_dropWhile.symm
  have all : ∀ c ∈ cs.takeWhile isTagLetter, isTagLetter c = true := fun c mem => List.mem_takeWhile_imp mem
  rw [dropTagLine]
  split
  · rename_i rest same
    rw [same] at parts
    exact absurd ⟨_, [.char '\n'], rfl, all, .inl rfl⟩ (untagged (cs.takeWhile isTagLetter ++ [.char '\n']) rest (by simpa using parts))
  · rename_i rest same
    rw [same] at parts
    exact absurd ⟨_, [.char '\r', .char '\n'], rfl, all, .inr rfl⟩
      (untagged (cs.takeWhile isTagLetter ++ [.char '\r', .char '\n']) rest (by simpa using parts))
  · rfl

theorem tagLineOrNone (cs : Letters) :
    (∃ line, TagLine line ∧ cs = line ++ dropTagLine cs) ∨ ∀ line rest, cs = line ++ rest → ¬TagLine line := by
  by_cases tagged : ∃ line rest, cs = line ++ rest ∧ TagLine line
  · obtain ⟨line, rest, rfl, tagged⟩ := tagged
    exact .inl ⟨line, tagged, by rw [tagLineDropped tagged]⟩
  · exact .inr fun line rest same there => tagged ⟨line, rest, same, there⟩

theorem fenceAfterTag {cs : Letters} (there : fence <:+: cs) : fence <:+: dropTagLine cs := by
  rcases tagLineOrNone cs with ⟨line, tagged, same⟩ | untagged
  · rw [same] at there
    exact fenceAfter (tagLineFree tagged) there
  · rwa [untaggedKept untagged]

theorem dropTagLineSuffix (cs : Letters) : dropTagLine cs <:+ cs := by
  rcases tagLineOrNone cs with ⟨line, _, same⟩ | untagged
  · exact ⟨line, same.symm⟩
  · rw [untaggedKept untagged]

def SpellsMark (cs : Letters) : Prop := Spells (mark.map matchesLetter) cs

def MarkAt (text : Letters) (k : Nat) : Prop := ∃ word rest, text.drop k = word ++ rest ∧ SpellsMark word

theorem dropWordSome {wanted cs rest : Letters} :
    dropWord? wanted cs = some rest ↔ ∃ word, cs = word ++ rest ∧ Spells (wanted.map matchesLetter) word := by
  induction wanted generalizing cs with
  | nil => simp [dropWord?, Spells]
  | cons l wanted ih =>
    simp only [Spells, List.map_cons, List.forall₂_cons_left_iff] at ih ⊢
    cases cs with
    | nil => simp [dropWord?]
    | cons c cs =>
      rw [dropWord?]
      by_cases fit : matchesLetter l c = true
      · rw [if_pos fit, ih]
        constructor
        · rintro ⟨word, rfl, spelled⟩
          exact ⟨c :: word, rfl, c, word, fit, spelled, rfl⟩
        · rintro ⟨_, same, _, word, _, spelled, rfl⟩
          obtain ⟨rfl, rfl⟩ := List.cons.inj same
          exact ⟨word, rfl, spelled⟩
      · rw [if_neg fit]
        refine iff_of_false (by simp) ?_
        rintro ⟨_, same, _, word, fits, _, rfl⟩
        obtain ⟨rfl, _⟩ := List.cons.inj same
        exact fit fits

theorem markRead (text : Letters) (k : Nat) : MarkAt text k ↔ dropWord? mark (text.drop k) ≠ none := by
  rw [Option.ne_none_iff_exists']
  simp only [dropWordSome, MarkAt, SpellsMark]
  exact exists_comm

theorem afterMarkScan (cs : Letters) : afterMark? cs = (scan (dropWord? mark) cs).map Prod.snd := by
  induction cs with
  | nil => rfl
  | cons c rest ih =>
    rw [afterMark?, scan]
    cases dropWord? mark (c :: rest) with
    | some after => rfl
    | none => simp [ih, Function.comp_def]

theorem markDropped {text rest : Letters} {k : Nat} (dropped : dropWord? mark (text.drop k) = some rest) :
    rest = text.drop (k + mark.length) := by
  obtain ⟨word, same, spelled⟩ := dropWordSome.mp dropped
  have length := spelled.length_eq
  rw [List.length_map] at length
  rw [length, ← List.drop_drop, same, List.drop_left]

/-! What a reply says, told by places in it. -/

inductive Inside (text : Letters) (start : Nat) : Nat → Prop where
  | tagged {line rest : Letters} (begins : text.drop start = line ++ rest) (tag : TagLine line) :
      Inside text start (start + line.length)
  | untagged (none : ∀ line rest, text.drop start = line ++ rest → ¬TagLine line) : Inside text start start

inductive CodeOf (text : Letters) : Letters → Prop where
  | unopened (none : ∀ k, ¬FenceAt text k) : CodeOf text []
  | unclosed {i : Nat} (opens : First (FenceAt text) 0 i) (none : ∀ k, i + 3 ≤ k → ¬FenceAt text k) : CodeOf text []
  | fenced {i b j : Nat} (opens : First (FenceAt text) 0 i) (inside : Inside text (i + 3) b)
      (closes : First (FenceAt text) b j) : CodeOf text (Text.trim (text.extract b j))

inductive ExplanationOf (text : Letters) : Letters → Prop where
  | unmarked (none : ∀ k, ¬MarkAt text k) : ExplanationOf text []
  | marked {k : Nat} (marks : First (MarkAt text) 0 k) :
      ExplanationOf text (Text.trim (text.drop (k + mark.length)))

theorem insideDrop {text : Letters} {start b : Nat} (inside : Inside text start b) :
    dropTagLine (text.drop start) = text.drop b := by
  cases inside with
  | tagged begins tag => rw [begins, tagLineDropped tag, ← List.drop_drop, begins, List.drop_left]
  | untagged none => exact untaggedKept none

theorem insideSome (text : Letters) (start : Nat) : ∃ b, Inside text start b := by
  rcases tagLineOrNone (text.drop start) with ⟨line, tag, begins⟩ | none
  · exact ⟨_, .tagged begins tag⟩
  · exact ⟨start, .untagged none⟩

theorem splitFenceFirst {text : Letters} {start : Nat} {before after : Letters} :
    splitFence? (text.drop start) = some (before, after) ↔
      ∃ i, First (FenceAt text) start i ∧ before = text.extract start i ∧ after = text.drop (i + 3) := by
  rw [splitFenceScan, scanFirst (fenceRead text)]
  refine exists_congr fun i => and_congr_right fun first => and_congr_right fun _ => ?_
  obtain ⟨rest, same⟩ := first.here
  rw [← same, dropFenceSome, List.append_cancel_left_eq, ← List.drop_drop, ← same]
  exact eq_comm

theorem splitFenceNowhere {text : Letters} {start : Nat} :
    splitFence? (text.drop start) = none ↔ ∀ k, start ≤ k → ¬FenceAt text k := by
  rw [splitFenceScan, scanNowhere (fenceRead text)]

theorem insideOnward {text : Letters} {start b : Nat} (inside : Inside text start b) : start ≤ b := by
  cases inside with
  | tagged => exact Nat.le_add_right _ _
  | untagged => exact le_refl _

theorem insideFence {text : Letters} {start b : Nat} (inside : Inside text start b) {k : Nat} (onward : start ≤ k)
    (here : FenceAt text k) : b ≤ k := by
  by_contra before
  cases inside with
  | untagged => exact before onward
  | @tagged front rest begins tag =>
    have free := tagLineFree tag
    rw [FenceAt, ← Nat.add_sub_cancel' onward, ← List.drop_drop, begins] at here
    have short : k - start < front.length := by omega
    rw [List.drop_append_of_le_length (by omega), List.drop_eq_getElem_cons short] at here
    have first : tick = front[k - start] := (List.cons_prefix_cons.mp here).1
    exact free (first ▸ List.getElem_mem short)

theorem splitFenceStart {text before after : Letters} :
    splitFence? text = some (before, after) ↔
      ∃ i, First (FenceAt text) 0 i ∧ before = text.extract 0 i ∧ after = text.drop (i + 3) :=
  @splitFenceFirst text 0 before after

theorem splitFenceAbsent {text : Letters} : splitFence? text = none ↔ ∀ k, ¬FenceAt text k := by
  have nowhere := @splitFenceNowhere text 0
  simpa using nowhere

theorem blockOpened {text before inside : Letters} (opened : splitFence? text = some (before, inside)) :
    block? text = (splitFence? (dropTagLine inside)).map Prod.fst := by
  simp only [block?, opened, bind, Option.bind]
  cases splitFence? (dropTagLine inside) <;> rfl

theorem blockUnopened {text : Letters} (unopened : splitFence? text = none) : block? text = none := by
  simp only [block?, unopened, bind, Option.bind]

theorem codeOfBlock (text : Letters) : CodeOf text (Text.trim ((block? text).getD [])) := by
  cases opened : splitFence? text with
  | none =>
    rw [blockUnopened opened]
    exact .unopened (splitFenceAbsent.mp opened)
  | some r =>
    obtain ⟨i, opens, _, begins⟩ := splitFenceStart.mp opened
    obtain ⟨b, inside⟩ := insideSome text (i + 3)
    rw [blockOpened opened, begins, insideDrop inside]
    cases closed : splitFence? (text.drop b) with
    | none =>
      refine .unclosed opens fun k onward here => ?_
      exact splitFenceNowhere.mp closed k (insideFence inside onward here) here
    | some r =>
      obtain ⟨j, closes, same, _⟩ := splitFenceFirst.mp closed
      have code : r.1 = text.extract b j := same
      rw [Option.map_some, Option.getD_some, code]
      exact .fenced opens inside closes

theorem codeRead {text code : Letters} : CodeOf text code ↔ code = Text.trim ((block? text).getD []) := by
  refine ⟨fun told => ?_, fun same => same ▸ codeOfBlock text⟩
  cases told with
  | unopened none =>
    rw [blockUnopened (splitFenceAbsent.mpr none)]
    rfl
  | @unclosed i opens none =>
    obtain ⟨b, inside⟩ := insideSome text (i + 3)
    have open_ : splitFence? (text.drop b) = Option.none :=
      splitFenceNowhere.mpr fun k onward => none k (le_trans (insideOnward inside) onward)
    rw [blockOpened (splitFenceStart.mpr ⟨i, opens, rfl, rfl⟩), insideDrop inside, open_]
    rfl
  | @fenced i b j opens inside closes =>
    rw [blockOpened (splitFenceStart.mpr ⟨i, opens, rfl, rfl⟩), insideDrop inside, splitFenceFirst.mpr ⟨j, closes, rfl, rfl⟩]
    rfl

theorem explanationRead {text explanation : Letters} :
    ExplanationOf text explanation ↔ explanation = Text.trim ((afterMark? text).getD []) := by
  have found := @scanFirst _ (dropWord? mark) _ text (markRead text) 0
  have nowhere := @scanNowhere _ (dropWord? mark) _ text (markRead text) 0
  rw [List.drop_zero] at found nowhere
  rw [afterMarkScan]
  constructor
  · intro told
    cases told with
    | unmarked none =>
      rw [nowhere.mpr fun k _ => none k]
      rfl
    | marked marks =>
      obtain ⟨rest, read⟩ := Option.ne_none_iff_exists'.mp ((markRead text _).mp marks.here)
      rw [found.mpr ⟨_, marks, rfl, read⟩, ← markDropped read]
      rfl
  · rintro rfl
    cases scanned : scan (dropWord? mark) text with
    | none => exact .unmarked fun k => nowhere.mp scanned k (Nat.zero_le k)
    | some r =>
      obtain ⟨k, marks, _, read⟩ := found.mp scanned
      rw [Option.map_some, Option.getD_some, markDropped read]
      exact .marked marks

theorem trimInfix (cs : Letters) : Text.trim cs <:+: cs := by
  have right : Text.trim cs <+: Text.trimLeft cs := by
    have suffix_ := @List.dropWhile_suffix _ (Text.trimLeft cs).reverse Text.isBlank
    rwa [← List.reverse_prefix, List.reverse_reverse] at suffix_
  exact right.isInfix.trans (List.dropWhile_suffix Text.isBlank).isInfix

theorem splitFenceFree {cs before after : Letters} (split_ : splitFence? cs = some (before, after)) : ¬fence <:+: before := by
  rw [splitFenceScan] at split_
  obtain ⟨rest, rfl, _, none⟩ := scanSome.mp split_
  intro there
  obtain ⟨k, here⟩ := fenceSomewhere.mp there
  have inside : k < before.length := by
    by_contra beyond
    rw [FenceAt, List.drop_of_length_le (by omega)] at here
    exact absurd here (by decide)
  refine dropFenceNone.mp (none k inside) ?_
  rw [List.drop_append_of_le_length (by omega)]
  exact here.trans (List.prefix_append _ _)

theorem codeUnfenced (text : Letters) : ¬fence <:+: (ofText text).code := by
  intro there
  have inside : fence <:+: (block? text).getD [] := there.trans (trimInfix _)
  cases opened : splitFence? text with
  | none =>
    rw [blockUnopened opened] at inside
    exact absurd inside (by decide)
  | some r =>
    rw [blockOpened opened] at inside
    cases closed : splitFence? (dropTagLine r.2) with
    | none =>
      rw [closed] at inside
      exact absurd inside (by decide)
    | some r =>
      rw [closed] at inside
      exact splitFenceFree closed inside

end AccessFix.Reply
