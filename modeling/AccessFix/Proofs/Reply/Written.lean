import AccessFix.Proofs.Fallible
import AccessFix.Proofs.Reply

/-! Replies as they are written: some prose, a block with a tag line, a gap, the mark and an explanation. Both parts are read
back, whatever the explanation holds. -/
namespace AccessFix.Reply
open Pattern Fallible

def heading : Letters := "Explanation:".toList

structure Unfenced (cs : Letters) : Prop where
  none : ¬fence <:+: cs
  apart : cs.getLast? ≠ some tick

def Marked (cs : Letters) : Prop := ∃ k, MarkAt cs k

/-! Fences behind a text. -/

theorem fenceInside {cs rest : Letters} (filled : cs ≠ []) (apart : cs.getLast? ≠ some tick) (here : fence <+: cs ++ rest) :
    fence <+: cs := by
  rcases List.prefix_or_prefix_of_prefix here (List.prefix_append cs rest) with inside | short
  · exact inside
  · -- a beginning of a fence ends in a tick
    have ticks : ∀ c ∈ cs, c = tick := fun c mem => List.eq_of_mem_replicate (short.subset mem)
    have last := List.getLast_mem filled
    rw [List.getLast?_eq_some_getLast filled, ticks _ last] at apart
    exact absurd rfl apart

theorem splitFenceWritten {cs : Letters} (free : Unfenced cs) (rest : Letters) :
    splitFence? (cs ++ (fence ++ rest)) = some (cs, rest) := by
  rw [splitFenceScan]
  refine scanSome.mpr ⟨fence ++ rest, rfl, dropFenceSome.mpr rfl, fun k inside => dropFenceNone.mpr fun here => ?_⟩
  rw [List.drop_append_of_le_length (by omega)] at here
  have filled : cs.drop k ≠ [] := by simpa using inside
  have apart : (cs.drop k).getLast? ≠ some tick := by
    rw [List.getLast?_drop, if_neg (by omega)]
    exact free.apart
  exact free.none ((fenceInside filled apart here).isInfix.trans (List.drop_suffix k cs).isInfix)

/-! Marks before, across and behind a character that is in none. -/

theorem markLetters : mark = ['e', 'x', 'p', 'l', 'a', 'n', 'a', 't', 'i', 'o', 'n', ':'] := rfl

def Foreign (c : Letter) : Prop := ∀ l ∈ mark, matchesLetter l c = false

theorem tickForeign : Foreign tick := by
  unfold Foreign
  decide

theorem feedForeign : Foreign '\n' := by simp [Foreign, markLetters, matchesLetter]

theorem returnForeign : Foreign '\r' := by simp [Foreign, markLetters, matchesLetter]

theorem spelledLetter {word : Letters} (spelled : SpellsMark word) {c : Letter} (mem : c ∈ word) : ¬Foreign c := by
  obtain ⟨f, there, fits⟩ := pairedLeft spelled mem
  obtain ⟨l, letter, rfl⟩ := List.mem_map.mp there
  intro foreign
  rw [foreign l letter] at fits
  contradiction

theorem spelledColon {word : Letters} (spelled : SpellsMark word) : ∃ front, word = front ++ [.char ':'] := by
  have last : mark.map matchesLetter = mark.dropLast.map matchesLetter ++ [matchesLetter ':'] := rfl
  rw [SpellsMark, last] at spelled
  obtain ⟨front, c, rfl, fits⟩ := spellsLast spelled
  obtain rfl : c = ':' := by simpa [matchesLetter] using fits
  exact ⟨front, rfl⟩

theorem headingLetters : heading = ['E', 'x', 'p', 'l', 'a', 'n', 'a', 't', 'i', 'o', 'n', ':'] := rfl

theorem headingSpelled : SpellsMark heading := by
  rw [SpellsMark, markLetters, headingLetters]
  simp [Spells, matchesLetter]

theorem emptyUnmarked : ¬Marked [] := by
  rintro ⟨k, word, rest, same, spelled⟩
  obtain ⟨front, rfl⟩ := spelledColon spelled
  simp at same

theorem unmarkedRead {cs : Letters} : afterMark? cs = none ↔ ¬Marked cs := by
  rw [afterMarkScan, Option.map_eq_none_iff, scanNone, Marked, not_exists]
  exact forall_congr' fun k => by rw [markRead, not_not]

theorem unmarkedTail {c : Letter} {cs : Letters} (unmarked : ¬Marked (c :: cs)) : ¬Marked cs :=
  fun ⟨k, there⟩ => unmarked ⟨k + 1, there⟩

theorem dropWordPast {cs rest : Letters} {x : Letter} (unmarked : ¬Marked cs) (foreign : Foreign x) :
    dropWord? mark (cs ++ x :: rest) = none := by
  rw [Option.eq_none_iff_forall_not_mem]
  intro after mem
  obtain ⟨word, same, spelled⟩ := dropWordSome.mp mem
  -- a mark within the front is excluded, and one that reaches past it would have to spell the foreign character
  rcases List.append_eq_append_iff.mp same with ⟨more, rfl, tail⟩ | ⟨more, rfl, _⟩
  · cases more with
    | nil => exact unmarked ⟨0, cs, [], by simp, by rwa [List.append_nil] at spelled⟩
    | cons y more =>
      obtain ⟨rfl, _⟩ := List.cons.inj tail
      exact spelledLetter spelled (by simp) foreign
  · exact unmarked ⟨0, word, more, rfl, spelled⟩

theorem afterMarkPast {cs : Letters} {x : Letter} (unmarked : ¬Marked cs) (foreign : Foreign x)
    (rest : Letters) : afterMark? (cs ++ x :: rest) = afterMark? rest := by
  induction cs with
  | nil =>
    rw [List.nil_append, afterMark?, show dropWord? mark (x :: rest) = none from dropWordPast unmarked foreign]
  | cons c cs ih =>
    rw [← ih (unmarkedTail unmarked), List.cons_append, afterMark?,
      show dropWord? mark (c :: (cs ++ x :: rest)) = none from dropWordPast unmarked foreign]

theorem afterMarkFence {cs : Letters} (unmarked : ¬Marked cs) (rest : Letters) :
    afterMark? (cs ++ (fence ++ rest)) = afterMark? rest := by
  calc afterMark? (cs ++ (fence ++ rest))
      = afterMark? (cs ++ tick :: ([] ++ tick :: ([] ++ tick :: rest))) := rfl
    _ = afterMark? ([] ++ tick :: ([] ++ tick :: rest)) := afterMarkPast unmarked tickForeign _
    _ = afterMark? ([] ++ tick :: rest) := afterMarkPast emptyUnmarked tickForeign _
    _ = afterMark? rest := afterMarkPast emptyUnmarked tickForeign rest

theorem tagUnmarked {tag : Letters} (all : ∀ c ∈ tag, isTagLetter c = true) : ¬Marked tag := by
  rintro ⟨k, word, rest, same, spelled⟩
  obtain ⟨front, rfl⟩ := spelledColon spelled
  have colon : .char ':' ∈ tag.drop k := by simp [same]
  exact absurd (all ':' (List.mem_of_mem_drop colon)) (by decide)

theorem afterMarkLine {line : Letters} (tagged : TagLine line) (rest : Letters) :
    afterMark? (line ++ rest) = afterMark? rest := by
  obtain ⟨tag, newline, rfl, all, ends⟩ := tagged
  have unmarked := tagUnmarked all
  rw [List.append_assoc]
  rcases ends with rfl | rfl
  · exact afterMarkPast unmarked feedForeign rest
  · exact (afterMarkPast unmarked returnForeign _).trans (afterMarkPast emptyUnmarked feedForeign rest)

theorem dropWordGap {gap : Letters} (unmarked : ¬Marked gap) (filled : gap ≠ []) (rest : Letters) :
    dropWord? mark (gap ++ (heading ++ rest)) = none := by
  rw [Option.eq_none_iff_forall_not_mem]
  intro after mem
  obtain ⟨word, same, spelled⟩ := dropWordSome.mp mem
  rcases List.append_eq_append_iff.mp same with ⟨more, rfl, tail⟩ | ⟨more, rfl, _⟩
  · by_cases none : more = []
    · exact unmarked ⟨0, gap, [], by simp, by rwa [none, List.append_nil] at spelled⟩
    · have length := spelled.length_eq
      have short : more.length ≤ heading.dropLast.length := by
        have some := List.length_pos_iff.mpr filled
        rw [List.length_map, List.length_append, show mark.length = 12 from rfl] at length
        rw [show heading.dropLast.length = 11 from rfl]
        omega
      have front : more <+: heading.dropLast :=
        List.prefix_of_prefix_length_le ⟨after, tail.symm⟩
          ((List.dropLast_prefix heading).trans (List.prefix_append heading rest)) short
      obtain ⟨body, ends⟩ := spelledColon spelled
      have colon : more.getLast? = some (.char ':') := by
        rw [← List.getLast?_append_of_ne_nil gap none, ends, List.getLast?_concat]
      have letter := front.subset (List.mem_of_getLast? colon)
      exact absurd letter (by decide)
  · exact unmarked ⟨0, word, more, rfl, spelled⟩

theorem afterMarkHeading {gap : Letters} (unmarked : ¬Marked gap) (rest : Letters) :
    afterMark? (gap ++ (heading ++ rest)) = some rest := by
  induction gap with
  | nil =>
    have here : dropWord? mark (heading ++ rest) = some rest := dropWordSome.mpr ⟨heading, rfl, headingSpelled⟩
    rw [List.nil_append, afterMark?.eq_def, here]
  | cons c gap ih =>
    rw [← ih (unmarkedTail unmarked), List.cons_append, afterMark?,
      show dropWord? mark (c :: (gap ++ (heading ++ rest))) = none from dropWordGap unmarked (by simp) rest]

theorem writtenRead {prose tag newline code gap explanation : Letters} (proseFree : Unfenced prose) (codeFree : Unfenced code)
    (tagged : ∀ c ∈ tag, isTagLetter c = true) (ends : newline = ['\n'] ∨ newline = ['\r', '\n'])
    (proseUnmarked : ¬Marked prose) (codeUnmarked : ¬Marked code) (gapUnmarked : ¬Marked gap) :
    ofText (prose ++ fence ++ tag ++ newline ++ code ++ fence ++ gap ++ heading ++ explanation) =
      ⟨Text.trim code, Text.trim explanation⟩ := by
  have line : TagLine (tag ++ newline) := ⟨tag, newline, rfl, tagged, ends⟩
  have whole : prose ++ fence ++ tag ++ newline ++ code ++ fence ++ gap ++ heading ++ explanation =
      prose ++ (fence ++ ((tag ++ newline) ++ (code ++ (fence ++ (gap ++ (heading ++ explanation)))))) := by
    simp only [List.append_assoc]
  have block : block? (prose ++ (fence ++ ((tag ++ newline) ++ (code ++ (fence ++ (gap ++ (heading ++ explanation))))))) =
      some code := by
    rw [blockOpened (splitFenceWritten proseFree _), tagLineDropped line, splitFenceWritten codeFree]
    rfl
  have marked : afterMark? (prose ++ (fence ++ ((tag ++ newline) ++ (code ++ (fence ++ (gap ++ (heading ++ explanation))))))) =
      some explanation := by
    rw [afterMarkFence proseUnmarked, afterMarkLine line, afterMarkFence codeUnmarked, afterMarkHeading gapUnmarked]
  rw [whole, ofText, block, marked]
  rfl

theorem noteRead : ofText ([tick, 'a', '\n'] ++ fence ++ "c++" ++ "\r\n" ++ [tick, tick, 'x', '\n'] ++ fence ++ "\neX" ++ heading ++
      Letter.char ' ' :: (fence ++ heading)) = ⟨[tick, tick, 'x'], fence ++ heading⟩ := by
  have unmarked : ∀ cs, afterMark? cs = none → ¬Marked cs := fun _ => unmarkedRead.mp
  exact writtenRead ⟨by decide, by decide⟩ ⟨by decide, by decide⟩ (by decide) (.inr rfl) (unmarked _ (by decide))
    (unmarked _ (by decide)) (unmarked _ (by decide))

end AccessFix.Reply
