import AccessFix.Letter
import Mathlib

/-! Patterns of characters that are matched by trying. All that a pattern can match at a place is listed in the order in which
it is tried; what it finds in a text is what is tried first at the first place where anything is matched. -/
namespace AccessFix

def scan {α : Type} (read? : Letters → Option α) : Letters → Option (Letters × α)
  | [] => (read? []).map ([], ·)
  | c :: rest =>
    match read? (c :: rest) with
    | some a => some ([], a)
    | none => (scan read? rest).map fun r => (c :: r.1, r.2)

section Scan

variable {α : Type} {read? : Letters → Option α}

theorem scanNone {cs : Letters} : scan read? cs = none ↔ ∀ k, read? (cs.drop k) = none := by
  induction cs with
  | nil => simp [scan]
  | cons c rest ih =>
    have places : (∀ k, read? ((c :: rest).drop k) = none) ↔
        read? (c :: rest) = none ∧ ∀ k, read? (rest.drop k) = none :=
      ⟨fun all => ⟨all 0, fun k => all (k + 1)⟩, fun ⟨here, later⟩ k => by cases k <;> simp [here, later]⟩
    rw [places, ← ih, scan]
    cases read? (c :: rest) <;> simp

theorem scanSome {cs before : Letters} {a : α} : scan read? cs = some (before, a) ↔
    ∃ after, cs = before ++ after ∧ read? after = some a ∧ ∀ k < before.length, read? (cs.drop k) = none := by
  induction cs generalizing before with
  | nil =>
    simp only [scan, Option.map_eq_some_iff, Prod.mk.injEq]
    constructor
    · rintro ⟨_, here, rfl, rfl⟩
      exact ⟨[], rfl, here, by simp⟩
    · rintro ⟨after, same, here, _⟩
      obtain ⟨rfl, rfl⟩ := List.nil_eq_append_iff.mp same
      exact ⟨a, here, rfl, rfl⟩
  | cons c rest ih =>
    rw [scan]
    cases here : read? (c :: rest) with
    | some b =>
      constructor
      · intro found
        cases found
        exact ⟨c :: rest, rfl, here, by simp⟩
      · rintro ⟨after, same, read, none⟩
        cases before with
        | nil =>
          rw [List.nil_append] at same
          rw [← same, here] at read
          cases read
          rfl
        | cons d before =>
          have first := none 0 (by simp)
          rw [List.drop_zero, here] at first
          contradiction
    | none =>
      simp only [Option.map_eq_some_iff, Prod.mk.injEq]
      constructor
      · rintro ⟨⟨front, _⟩, found, rfl, rfl⟩
        obtain ⟨after, rfl, read, none⟩ := ih.mp found
        refine ⟨after, rfl, read, fun k less => ?_⟩
        cases k with
        | zero => exact here
        | succ k => exact none k (by simpa using less)
      · rintro ⟨after, same, read, none⟩
        cases before with
        | nil =>
          rw [List.nil_append] at same
          rw [← same, here] at read
          contradiction
        | cons d before =>
          rw [List.cons_append, List.cons.injEq] at same
          obtain ⟨rfl, rfl⟩ := same
          exact ⟨(before, a), ih.mpr ⟨after, rfl, read, fun k less => none (k + 1) (by simpa using less)⟩, rfl, rfl⟩

theorem scanMap {β : Type} (f : α → β) (cs : Letters) :
    scan (fun cs => (read? cs).map f) cs = (scan read? cs).map fun r => (r.1, f r.2) := by
  induction cs with
  | nil => simp [scan, Function.comp_def]
  | cons c rest ih =>
    rw [scan, scan, ih]
    cases read? (c :: rest) <;> simp [Function.comp_def]

structure First (P : Nat → Prop) (start i : Nat) : Prop where
  onward : start ≤ i
  here : P i
  sooner : ∀ k, start ≤ k → k < i → ¬P k

theorem scanFirst {P : Nat → Prop} {text : Letters} (reads : ∀ k, P k ↔ read? (text.drop k) ≠ none) {start : Nat}
    {before : Letters} {a : α} : scan read? (text.drop start) = some (before, a) ↔
      ∃ i, First P start i ∧ before = text.extract start i ∧ read? (text.drop i) = some a := by
  rw [scanSome]
  constructor
  · rintro ⟨after, same, read, none⟩
    have place : text.drop (start + before.length) = after := by
      rw [← List.drop_drop, same, List.drop_left]
    refine ⟨start + before.length, ⟨Nat.le_add_right _ _, (reads _).mpr (by simp [place, read]), fun k from_ less => ?_⟩, ?_,
      by rw [place, read]⟩
    · have early := none (k - start) (by omega)
      rw [List.drop_drop, Nat.add_sub_cancel' from_] at early
      exact fun holds => (reads k).mp holds early
    · rw [List.extract_eq_take_drop, Nat.add_sub_cancel_left, same, List.take_left]
  · rintro ⟨i, first, rfl, read⟩
    have place : (text.drop start).drop (i - start) = text.drop i := by
      rw [List.drop_drop, Nat.add_sub_cancel' first.onward]
    refine ⟨text.drop i, ?_, read, fun k less => ?_⟩
    · rw [List.extract_eq_take_drop, ← place, List.take_append_drop]
    · rw [List.extract_eq_take_drop, List.length_take] at less
      have early := first.sooner (start + k) (Nat.le_add_right _ _) (by omega)
      rw [List.drop_drop]
      exact not_not.mp fun some => early ((reads _).mpr some)

theorem scanNowhere {P : Nat → Prop} {text : Letters} (reads : ∀ k, P k ↔ read? (text.drop k) ≠ none) {start : Nat} :
    scan read? (text.drop start) = none ↔ ∀ k, start ≤ k → ¬P k := by
  rw [scanNone]
  constructor
  · intro none k from_ holds
    have early := none (k - start)
    rw [List.drop_drop, Nat.add_sub_cancel' from_] at early
    exact (reads k).mp holds early
  · intro none k
    rw [List.drop_drop]
    exact not_not.mp fun some => none (start + k) (Nat.le_add_right _ _) ((reads _).mpr some)

end Scan

inductive Pattern where
  | nothing
  | one (fits : Letter → Bool)
  | both (first second : Pattern)
  | perhaps (p : Pattern)
  | most (fits : Letter → Bool)
  | least (fits : Letter → Bool)
  | group (p : Pattern)

structure Match where
  matched : Letters
  group : Option (Letters)
  rest : Letters
  deriving DecidableEq, Repr

def Match.andThen (m n : Match) : Match := ⟨m.matched ++ n.matched, n.group.or m.group, n.rest⟩

@[simp] theorem Match.andThenBare (matched rest : Letters) (n : Match) :
    (Match.andThen ⟨matched, none, rest⟩ n).group = n.group := Option.or_none

namespace Pattern

def runs (fits : Letter → Bool) : Letters → List (Letters × Letters)
  | [] => [([], [])]
  | c :: rest => ([], c :: rest) :: if fits c then (runs fits rest).map fun r => (c :: r.1, r.2) else []

def tries : Pattern → Letters → List Match
  | .nothing, cs => [⟨[], none, cs⟩]
  | .one _, [] => []
  | .one fits, c :: rest => if fits c then [⟨[c], none, rest⟩] else []
  | .both p q, cs => (p.tries cs).flatMap fun m => (q.tries m.rest).map m.andThen
  | .perhaps p, cs => p.tries cs ++ [⟨[], none, cs⟩]
  | .most fits, cs => (runs fits cs).reverse.map fun r => ⟨r.1, none, r.2⟩
  | .least fits, cs => (runs fits cs).map fun r => ⟨r.1, none, r.2⟩
  | .group p, cs => (p.tries cs).map fun m => { m with group := some m.matched }

def find? (p : Pattern) (cs : Letters) : Option Match := (scan (fun cs => (p.tries cs).head?) cs).map Prod.snd

def captured? (p : Pattern) (cs : Letters) : Option (Letters) := (p.find? cs).bind Match.group

def word (fits : List (Letter → Bool)) : Pattern := fits.foldr (fun f p => .both (.one f) p) .nothing

def Spells (fits : List (Letter → Bool)) (cs : Letters) : Prop := List.Forall₂ (fun f c => f c = true) fits cs

theorem spellsLast {fits : List (Letter → Bool)} {f : Letter → Bool} {cs : Letters} (spelled : Spells (fits ++ [f]) cs) :
    ∃ front c, cs = front ++ [c] ∧ f c = true := by
  have backwards := List.rel_reverse spelled
  rw [List.reverse_append] at backwards
  obtain ⟨c, rest, fit, _, same⟩ := List.forall₂_cons_left_iff.mp backwards
  exact ⟨rest.reverse, c, by rw [← List.reverse_reverse cs, same, List.reverse_cons], fit⟩

def literal (cs : Letters) : Pattern := word (cs.map fun l c => c == l)

theorem spellsLiteral {text cs : Letters} : Spells (text.map fun l c => c == l) cs ↔ cs = text := by
  simp only [Spells, List.forall₂_map_left_iff, beq_iff_eq]
  rw [show (fun a c : Letter => c = a) = fun a c => a = c from funext₂ fun _ _ => propext eq_comm, List.forall₂_eq_eq_eq]
  exact eq_comm

theorem runsParts {fits : Letter → Bool} {cs : Letters} {r : Letters × Letters} (mem : r ∈ runs fits cs) :
    cs = r.1 ++ r.2 ∧ ∀ c ∈ r.1, fits c = true := by
  induction cs generalizing r with
  | nil =>
    obtain rfl := List.mem_singleton.mp mem
    simp
  | cons c rest ih =>
    rw [runs] at mem
    rcases List.mem_cons.mp mem with rfl | later
    · simp
    · split at later
      · rename_i fit
        obtain ⟨r, there, rfl⟩ := List.mem_map.mp later
        obtain ⟨same, all⟩ := ih there
        exact ⟨by rw [List.cons_append, ← same], List.forall_mem_cons.mpr ⟨fit, all⟩⟩
      · contradiction

theorem triesParts {p : Pattern} {cs : Letters} {m : Match} (mem : m ∈ p.tries cs) : cs = m.matched ++ m.rest := by
  induction p generalizing cs m with
  | nothing =>
    obtain rfl := List.mem_singleton.mp mem
    rfl
  | one fits =>
    cases cs with
    | nil => contradiction
    | cons c rest =>
      rw [tries] at mem
      split at mem
      · obtain rfl := List.mem_singleton.mp mem
        rfl
      · contradiction
  | both p q ihp ihq =>
    obtain ⟨first, there, mem⟩ := List.mem_flatMap.mp mem
    obtain ⟨second, next, rfl⟩ := List.mem_map.mp mem
    rw [Match.andThen, List.append_assoc, ← ihq next, ← ihp there]
  | perhaps p ih =>
    rcases List.mem_append.mp mem with there | none
    · exact ih there
    · obtain rfl := List.mem_singleton.mp none
      rfl
  | most fits =>
    obtain ⟨r, there, rfl⟩ := List.mem_map.mp mem
    exact (runsParts (List.mem_reverse.mp there)).1
  | least fits =>
    obtain ⟨r, there, rfl⟩ := List.mem_map.mp mem
    exact (runsParts there).1
  | group p ih =>
    obtain ⟨inner, there, rfl⟩ := List.mem_map.mp mem
    have parts := ih there
    exact parts

theorem oneTried {fits : Letter → Bool} {cs : Letters} {m : Match} (mem : m ∈ (one fits).tries cs) :
    ∃ c, m.matched = [c] ∧ fits c = true := by
  cases cs with
  | nil => contradiction
  | cons c rest =>
    rw [tries] at mem
    split at mem
    · rename_i fit
      obtain rfl := List.mem_singleton.mp mem
      exact ⟨c, rfl, fit⟩
    · contradiction

theorem wordSpelled {fits : List (Letter → Bool)} {cs : Letters} (spelled : Spells fits cs) (rest : Letters) :
    (word fits).tries (cs ++ rest) = [⟨cs, none, rest⟩] := by
  induction spelled with
  | nil => rfl
  | cons fit _ ih =>
    rw [word] at ih
    simp [word, tries, fit, ih, Match.andThen]

theorem wordTried {fits : List (Letter → Bool)} {cs : Letters} {m : Match} (mem : m ∈ (word fits).tries cs) :
    Spells fits m.matched := by
  induction fits generalizing cs m with
  | nil =>
    obtain rfl := List.mem_singleton.mp mem
    exact .nil
  | cons f fits ih =>
    obtain ⟨first, there, mem⟩ := List.mem_flatMap.mp mem
    obtain ⟨second, next, rfl⟩ := List.mem_map.mp mem
    obtain ⟨c, same, fit⟩ := oneTried there
    rw [Match.andThen, same]
    exact .cons fit (ih next)

theorem wordUnspelled {fits : List (Letter → Bool)} {cs : Letters}
    (unspelled : ∀ front rest, cs = front ++ rest → ¬Spells fits front) : (word fits).tries cs = [] :=
  List.eq_nil_iff_forall_not_mem.mpr fun _ mem => unspelled _ _ (triesParts mem) (wordTried mem)

theorem mostFirst (fits : Letter → Bool) (cs : Letters) :
    ∃ shorter, (most fits).tries cs = ⟨cs.takeWhile fits, none, cs.dropWhile fits⟩ :: shorter ∧
      ∀ m ∈ shorter, ∃ c rest, m.rest = c :: rest ∧ fits c = true := by
  -- the runs come from the shortest to the longest, and each shorter one has stopped in front of a fitting character
  have parts : ∃ shorter, runs fits cs = shorter ++ [(cs.takeWhile fits, cs.dropWhile fits)] ∧
      ∀ r ∈ shorter, ∃ c rest, r.2 = c :: rest ∧ fits c = true := by
    induction cs with
    | nil => exact ⟨[], rfl, by simp⟩
    | cons c rest ih =>
      by_cases fit : fits c = true
      · obtain ⟨shorter, same, next⟩ := ih
        refine ⟨([], c :: rest) :: shorter.map fun r => (c :: r.1, r.2), by simp [runs, fit, same], ?_⟩
        refine List.forall_mem_cons.mpr ⟨⟨c, rest, rfl, fit⟩, fun r mem => ?_⟩
        obtain ⟨r, there, rfl⟩ := List.mem_map.mp mem
        exact next r there
      · exact ⟨[], by simp [runs, fit], by simp⟩
  obtain ⟨shorter, same, next⟩ := parts
  refine ⟨shorter.reverse.map fun r => ⟨r.1, none, r.2⟩, by simp [tries, same], fun m mem => ?_⟩
  obtain ⟨r, there, rfl⟩ := List.mem_map.mp mem
  exact next r (List.mem_reverse.mp there)

theorem leastScans (q : Pattern) (front cs : Letters) :
    (runs (fun _ => true) cs).findSome? (fun r => (q.tries r.2).head?.map (Match.andThen ⟨front ++ r.1, some (front ++ r.1), r.2⟩)) =
      (scan (fun cs => (q.tries cs).head?) cs).map fun r => (⟨front ++ r.1, some (front ++ r.1), cs⟩ : Match).andThen r.2 := by
  induction cs generalizing front with
  | nil => simp [runs, scan, Function.comp_def]
  | cons c rest ih =>
    rw [runs, if_pos rfl, List.findSome?_cons, scan]
    cases (q.tries (c :: rest)).head? with
    | some m => rfl
    | none =>
      have next := ih (front ++ [c])
      simp only [List.append_assoc, List.singleton_append] at next
      simp only [Option.map_none, List.findSome?_map, Function.comp_def, next, Option.map_map]
      rfl

theorem capturedScan {p : Pattern} {read? : Letters → Option (Letters)}
    (first : ∀ cs, (p.tries cs).head?.map Match.group = (read? cs).map some) (text : Letters) :
    p.captured? text = (scan read? text).map Prod.snd := by
  have groups := @scanMap _ (fun cs => (p.tries cs).head?) _ Match.group text
  simp only [first, scanMap] at groups
  have found : p.captured? text = ((scan (fun cs => (p.tries cs).head?) text).map fun r => (r.1, r.2.group)).bind Prod.snd := by
    rw [captured?, find?, Option.bind_map, Option.bind_map]
    rfl
  rw [found, ← groups, Option.bind_map]
  cases scan read? text <;> rfl

theorem leastFirst (q : Pattern) (cs : Letters) :
    ((both (group (least fun _ => true)) q).tries cs).head? =
      (scan (fun cs => (q.tries cs).head?) cs).map fun r => (⟨r.1, some r.1, cs⟩ : Match).andThen r.2 := by
  have scans := leastScans q [] cs
  simp only [List.nil_append] at scans
  rw [← scans]
  simp [tries, List.head?_flatMap, List.findSome?_map, Function.comp_def]

end Pattern

end AccessFix
