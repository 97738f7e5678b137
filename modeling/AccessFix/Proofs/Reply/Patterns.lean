import AccessFix.Proofs.Reply

/-! Two patterns for replies, matched by trying. They find what scanning finds: where nothing closes the first block, neither
the same place without the tag line nor a later fence does better. -/
namespace AccessFix.Reply
open Pattern

def fencePattern : Pattern := literal fence

def newlinePattern : Pattern := .both (.perhaps (.one fun c => c == '\r')) (.one fun c => c == '\n')

def tagPattern : Pattern := .both (.most isTagLetter) newlinePattern

def closePattern : Pattern := .both (.group (.least fun _ => true)) fencePattern

def codePattern : Pattern := .both fencePattern (.both (.perhaps tagPattern) closePattern)

def markPattern : Pattern := word (mark.map matchesLetter)

def explanationPattern : Pattern := .both markPattern (.both (.most Text.isBlank) (.group (.most fun _ => true)))

def ofPatterns (text : Letters) : Reply where
  code := Text.trim ((codePattern.captured? text).getD [])
  explanation := Text.trim ((explanationPattern.captured? text).getD [])

theorem fenceTried (cs : Letters) :
    fencePattern.tries cs = (dropFence? cs).toList.map fun rest => ⟨fence, none, rest⟩ := by
  cases dropped : dropFence? cs with
  | some rest =>
    rw [dropFenceSome.mp dropped]
    exact wordSpelled (spellsLiteral.mpr rfl) rest
  | none =>
    refine wordUnspelled fun front rest same spelled => dropFenceNone.mp dropped ⟨rest, ?_⟩
    rw [same, spellsLiteral.mp spelled]

theorem closeFirst (cs : Letters) :
    (closePattern.tries cs).head? = (splitFence? cs).map fun r => ⟨r.1 ++ fence, some r.1, r.2⟩ := by
  have fences : ∀ cs, (fencePattern.tries cs).head? = (dropFence? cs).map fun rest => ⟨fence, none, rest⟩ := by
    intro cs
    rw [fenceTried]
    cases dropFence? cs <;> rfl
  rw [closePattern, leastFirst]
  simp only [fences, scanMap, splitFenceScan, Option.map_map]
  rfl

theorem newlineTried {cs : Letters} {m : Match} (mem : m ∈ newlinePattern.tries cs) :
    m.matched = ['\n'] ∨ m.matched = ['\r', '\n'] := by
  obtain ⟨first, there, mem⟩ := List.mem_flatMap.mp mem
  obtain ⟨second, next, rfl⟩ := List.mem_map.mp mem
  obtain ⟨c, feeds, feed⟩ := oneTried next
  obtain rfl : c = '\n' := by simpa using feed
  rcases List.mem_append.mp there with taken | skipped
  · obtain ⟨d, returns, return_⟩ := oneTried taken
    obtain rfl : d = '\r' := by simpa using return_
    exact .inr (by rw [Match.andThen, feeds, returns]; rfl)
  · obtain rfl := List.mem_singleton.mp skipped
    exact .inl (by rw [Match.andThen, feeds]; rfl)

theorem tagNewline (cs : Letters) : tagPattern.tries cs =
    (newlinePattern.tries (cs.dropWhile isTagLetter)).map
      (Match.andThen ⟨cs.takeWhile isTagLetter, none, cs.dropWhile isTagLetter⟩) := by
  obtain ⟨shorter, tried, next⟩ := mostFirst isTagLetter cs
  -- after less than all characters of a tag comes one more of them, and no line ends there
  have lost : ∀ m ∈ shorter, newlinePattern.tries m.rest = [] := by
    intro m mem
    obtain ⟨c, rest, same, tag⟩ := next m mem
    have feed : c ≠ '\n' := by
      rintro rfl
      cases tag
    have return_ : c ≠ '\r' := by
      rintro rfl
      cases tag
    simp [same, newlinePattern, tries, feed, return_]
  have others : shorter.flatMap (fun m => (newlinePattern.tries m.rest).map m.andThen) = [] :=
    List.flatMap_eq_nil_iff.mpr fun m mem => by rw [lost m mem, List.map_nil]
  rw [tagPattern, Pattern.tries, tried, List.flatMap_cons, others, List.append_nil]

theorem tagTried {line : Letters} (tag : TagLine line) (rest : Letters) :
    tagPattern.tries (line ++ rest) = [⟨line, none, rest⟩] := by
  obtain ⟨tag, newline, rfl, all, ends⟩ := tag
  have feed : isTagLetter '\n' = false := by decide
  have return_ : isTagLetter '\r' = false := by decide
  rw [tagNewline, List.append_assoc, List.dropWhile_append_of_pos all, List.takeWhile_append_of_pos all]
  rcases ends with rfl | rfl
  · simp [feed, newlinePattern, tries, Match.andThen]
  · simp [return_, newlinePattern, tries, Match.andThen]

theorem untaggedTried {cs : Letters} (untagged : ∀ line rest, cs = line ++ rest → ¬TagLine line) :
    tagPattern.tries cs = [] := by
  refine List.eq_nil_iff_forall_not_mem.mpr fun m mem => untagged m.matched m.rest (triesParts mem) ?_
  rw [tagNewline] at mem
  obtain ⟨ends, there, rfl⟩ := List.mem_map.mp mem
  exact ⟨_, ends.matched, rfl, fun c mem => List.mem_takeWhile_imp mem, newlineTried there⟩

theorem insideFirst (cs : Letters) :
    ((Pattern.both (.perhaps tagPattern) closePattern).tries cs).head?.map Match.group =
      (splitFence? (dropTagLine cs)).map fun r => some r.1 := by
  have bare : ((closePattern.tries cs).map (Match.andThen ⟨[], none, cs⟩)).head?.map Match.group =
      (splitFence? cs).map fun r => some r.1 := by
    rw [List.head?_map, closeFirst, Option.map_map, Option.map_map]
    rfl
  rcases tagLineOrNone cs with ⟨line, tag, same⟩ | untagged
  · have tried : (Pattern.both (.perhaps tagPattern) closePattern).tries cs =
        (closePattern.tries (dropTagLine cs)).map (Match.andThen ⟨line, none, dropTagLine cs⟩) ++
          (closePattern.tries cs).map (Match.andThen ⟨[], none, cs⟩) := by
      have tags := tagTried tag (dropTagLine cs)
      rw [← same] at tags
      simp [tries, tags]
    rw [tried, List.head?_append, Option.map_or, bare, List.head?_map, closeFirst]
    cases closed : splitFence? (dropTagLine cs) with
    | some r => rfl
    | none =>
      have open_ : splitFence? cs = none := splitFenceNone.mpr fun there => splitFenceNone.mp closed (fenceAfterTag there)
      rw [open_]
      rfl
  · rw [untaggedKept untagged, ← bare]
    simp [tries, untaggedTried untagged]

def blockAt? (cs : Letters) : Option (Letters) :=
  (dropFence? cs).bind fun inside => (splitFence? (dropTagLine inside)).map Prod.fst

theorem codeFirst (cs : Letters) : (codePattern.tries cs).head?.map Match.group = (blockAt? cs).map some := by
  rw [codePattern, Pattern.tries, fenceTried, blockAt?]
  cases dropFence? cs with
  | none => rfl
  | some inside =>
    have fenced : Match.group ∘ Match.andThen ⟨fence, none, inside⟩ = Match.group := funext fun m => by simp
    have first := insideFirst inside
    simp only [Option.toList_some, List.map_cons, List.map_nil, List.flatMap_cons, List.flatMap_nil, List.append_nil,
      List.head?_map, Option.map_map, Option.bind_some, fenced, first]
    rfl

theorem unclosedLast {c : Letter} {rest inside : Letters} (opened : dropFence? (c :: rest) = some inside)
    (unclosed : splitFence? (dropTagLine inside) = none) (k : Nat) : blockAt? (rest.drop k) = none := by
  rw [blockAt?]
  cases again : dropFence? (rest.drop k) with
  | none => rfl
  | some later =>
    have first := dropFenceSome.mp opened
    have suffix_ : later <:+ inside := by
      have place : later = rest.drop (k + 3) := by
        rw [← List.drop_drop, dropFenceSome.mp again]
        rfl
      have begins : inside = rest.drop 2 := by
        have tail := congrArg (List.drop 3) first
        exact tail.symm
      have order : k + 3 = 2 + (k + 1) := by omega
      rw [place, begins, order, ← List.drop_drop]
      exact List.drop_suffix _ _
    have none : splitFence? (dropTagLine later) = Option.none := by
      refine splitFenceNone.mpr fun there => splitFenceNone.mp unclosed (fenceAfterTag ?_)
      exact there.trans ((dropTagLineSuffix later).trans suffix_).isInfix
    rw [Option.bind_some, none]
    rfl

theorem blockScan (text : Letters) : (scan blockAt? text).map Prod.snd = block? text := by
  induction text with
  | nil => rfl
  | cons c rest ih =>
    have step := splitFenceScan (c :: rest)
    rw [scan, ← splitFenceScan] at step
    rw [scan]
    cases opened : dropFence? (c :: rest) with
    | none =>
      have absent : blockAt? (c :: rest) = none := by
        rw [blockAt?, opened]
        rfl
      have later : block? (c :: rest) = block? rest := by
        rw [opened] at step
        cases first : splitFence? rest with
        | none => rw [blockUnopened first, blockUnopened (by rw [step, first]; rfl)]
        | some r =>
          rw [blockOpened first]
          exact blockOpened (by rw [step, first]; rfl)
      rw [absent, Option.map_map, later]
      exact ih
    | some inside =>
      rw [opened] at step
      have here : blockAt? (c :: rest) = (splitFence? (dropTagLine inside)).map Prod.fst := by
        rw [blockAt?, opened]
        rfl
      rw [here, blockOpened step]
      cases closed : splitFence? (dropTagLine inside) with
      | some r => rfl
      | none =>
        have nowhere : scan blockAt? rest = none := scanNone.mpr (unclosedLast opened closed)
        rw [nowhere]
        rfl

theorem restFirst (cs : Letters) :
    ((Pattern.both (.most Text.isBlank) (.group (.most fun _ => true))).tries cs).head?.map Match.group =
      some (some (cs.dropWhile Text.isBlank)) := by
  obtain ⟨shorter, tried, _⟩ := mostFirst Text.isBlank cs
  obtain ⟨parts, all, _⟩ := mostFirst (fun _ => true) (cs.dropWhile Text.isBlank)
  have whole : (cs.dropWhile Text.isBlank).takeWhile (fun _ => true) = cs.dropWhile Text.isBlank :=
    List.takeWhile_eq_self_iff.mpr fun _ _ => rfl
  rw [Pattern.tries, tried, List.flatMap_cons, Pattern.tries, all, whole]
  rfl

theorem markFirst (cs : Letters) : (explanationPattern.tries cs).head?.map Match.group =
    ((dropWord? mark cs).map (List.dropWhile Text.isBlank)).map some := by
  rw [explanationPattern, Pattern.tries]
  cases dropped : dropWord? mark cs with
  | none =>
    have unspelled : ∀ front rest, cs = front ++ rest → ¬Spells (mark.map matchesLetter) front := by
      intro front rest same spelled
      rw [dropWordSome.mpr ⟨front, same, spelled⟩] at dropped
      contradiction
    rw [markPattern, wordUnspelled unspelled]
    rfl
  | some rest =>
    obtain ⟨front, rfl, spelled⟩ := dropWordSome.mp dropped
    have marked : Match.group ∘ Match.andThen ⟨front, none, rest⟩ = Match.group := funext fun m => by simp
    rw [markPattern, wordSpelled spelled, List.flatMap_singleton, List.head?_map, Option.map_map, marked, restFirst]
    rfl

theorem patternsRead (text : Letters) : ofPatterns text = ofText text := by
  have trimmed : ∀ cs, Text.trim (cs.dropWhile Text.isBlank) = Text.trim cs := by
    intro cs
    rw [Text.trim, Text.trim, Text.trimLeft, Text.trimLeft, List.dropWhile_idempotent]
  rw [ofPatterns, ofText, capturedScan codeFirst, blockScan, capturedScan markFirst, scanMap, afterMarkScan]
  cases scan (dropWord? mark) text with
  | none => rfl
  | some r => simp [trimmed]

/-- What is read of a reply is told by places in it, and found by matching two patterns. The code holds no fence. -/
theorem replyRead (text : Letters) :
    (∀ r : Reply, r = ofText text ↔ CodeOf text r.code ∧ ExplanationOf text r.explanation) ∧
      ofPatterns text = ofText text ∧ ¬fence <:+: (ofText text).code := by
  refine ⟨fun r => ?_, patternsRead text, codeUnfenced text⟩
  rw [codeRead, explanationRead]
  constructor
  · rintro rfl
    exact ⟨rfl, rfl⟩
  · rintro ⟨code, explanation⟩
    obtain ⟨_, _⟩ := r
    rw [ofText, ← code, ← explanation]

end AccessFix.Reply
