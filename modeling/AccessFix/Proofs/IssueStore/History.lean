import AccessFix.Proofs.IssueStore

/-! The store over whole runs of calls. What it has for a file is what the last call that concerns the file gave it, and the
files stand in the order in which they last came to have issues. -/
namespace AccessFix

namespace IssueMap

variable {m : IssueMap} {p : Json}

theorem getAbsent (absent : ∀ f ∈ m.map Prod.fst, f.sameKey p = false) : m.get? p = none := by
  rw [get?, List.find?_eq_none.mpr fun e mem => by simp [absent e.1 (List.mem_map_of_mem mem)]]
  rfl

theorem getSome : (m.get? p).isSome = true ↔ ∃ f ∈ m.map Prod.fst, f.sameKey p = true := by
  simp [get?]

theorem getFilled (apart : (m.map Prod.fst).Pairwise fun a b => a.sameKey b = false) (key : p.isKey = true) :
    (get? (m.filter (!·.2.isEmpty)) p).getD [] = (m.get? p).getD [] := by
  induction m with
  | nil => rfl
  | cons e rest ih =>
    obtain ⟨here, later⟩ := List.pairwise_cons.mp apart
    have tail := ih later
    by_cases empty : e.2 = []
    · rw [List.filter_cons_of_neg (by simp [empty]), tail, getCons]
      split
      · rename_i first
        rw [empty, getAbsent fun f mem => ?_]
        · rfl
        · by_contra second
          have same := Json.sameKeyMeet key first (by simpa using second)
          rw [here f mem] at same
          cases same
      · rfl
    · rw [List.filter_cons_of_pos (by simpa using empty), getCons, getCons]
      split
      · rfl
      · exact tail

theorem eraseListed (listed : Listed m) (file : Json) : Listed (m.erase file) := by
  have sub : (m.erase file).Sublist m := List.filter_sublist
  have paths := sub.map Prod.fst
  exact ⟨listed.apart.sublist paths, fun f mem => listed.keys f (paths.subset mem),
    fun e mem => listed.filled e (sub.subset mem)⟩

theorem countListed (listed : Listed m) : (m.map Prod.fst).countP (·.sameKey p) = if (m.get? p).isSome then 1 else 0 := by
  have once : ((m.map Prod.fst).map Json.toClass?).Nodup := by
    rw [List.Nodup, List.pairwise_map]
    refine listed.apart.imp_of_mem fun {a b} mem _ apart same => ?_
    rw [(Json.sameKeyClass (listed.keys a mem)).mpr same] at apart
    cases apart
  have classes : (m.map Prod.fst).countP (·.sameKey p) = ((m.map Prod.fst).map Json.toClass?).count p.toClass? := by
    simp only [List.count, List.countP_map]
    exact List.countP_congr fun e mem => by simp [Json.sameKeyClass (listed.keys e.1 (List.mem_map_of_mem mem))]
  have member : p.toClass? ∈ (m.map Prod.fst).map Json.toClass? ↔ (m.get? p).isSome = true := by
    rw [getSome, List.mem_map]
    exact exists_congr fun f => and_congr_right fun mem => (Json.sameKeyClass (listed.keys f mem)).symm
  rw [classes, once.count]
  simp only [member]

end IssueMap

namespace IssueStore
open IssueMap

/-! Calls, the steps that they are made of, and what each gives to the files that it concerns. -/

abbrev Key := { v : Json // v.isKey = true }

structure Mapping where
  entries : List (Key × List Issue)
  apart : entries.Pairwise fun a b => a.1.val.sameKey b.1.val = false

def Mapping.toMap (m : Mapping) : IssueMap := m.entries.map fun e => (e.1.val, e.2)

inductive Step where
  | clear
  | set (file : Key) (issues : List Issue)

def Step.run (s : IssueStore) : Step → IssueStore
  | .clear => s.clear
  | .set file issues => s.set file issues

def Step.given? (p : Json) : Step → Option (List Issue)
  | .clear => some []
  | .set file issues => if file.val.sameKey p then some issues else none

inductive Call where
  | step (c : Step)
  | publish (m : Mapping)

def Call.run (s : IssueStore) : Call → IssueStore
  | .step c => c.run s
  | .publish m => s.publish m.toMap

def Call.given? (p : Json) : Call → Option (List Issue)
  | .step c => c.given? p
  | .publish m => some ((m.toMap.get? p).getD [])

def Call.steps : Call → List Step
  | .step c => [c]
  | .publish m => .clear :: m.entries.map fun e => .set e.1 e.2

def lastGiven {α : Type} (given? : α → Option (List Issue)) (calls : List α) : List Issue :=
  (calls.reverse.findSome? given?).getD []

theorem lastGivenSnoc {α : Type} (given? : α → Option (List Issue)) (calls : List α) (c : α) :
    lastGiven given? (calls ++ [c]) = (given? c).getD (lastGiven given? calls) := by
  simp only [lastGiven, List.reverse_concat, List.findSome?_cons]
  cases given? c <;> rfl

variable {s : IssueStore} {p q : Json} {c : Step} {steps : List Step}

theorem stepGet (s : IssueStore) (c : Step) (p : Key) : (c.run s).get p = (c.given? p).getD (s.get p) := by
  cases c with
  | clear => rfl
  | set file issues =>
    simp only [Step.run, Step.given?, get, set]
    split
    · rename_i none
      rw [getErase p.property, List.isEmpty_iff.mp none]
      split <;> rfl
    · rw [getInsert p.property]
      split <;> rfl

theorem stepListed (listed : Listed s.entries) (c : Step) : Listed (c.run s).entries := by
  cases c with
  | clear => exact ⟨.nil, by simp [Step.run, clear], by simp [Step.run, clear]⟩
  | set file issues =>
    simp only [Step.run, set]
    split
    · exact eraseListed listed _
    · rename_i some
      exact insertListed listed file.property (by simpa using some)

theorem mappingApart (m : Mapping) : (m.toMap.map Prod.fst).Pairwise fun a b => a.sameKey b = false := by
  rw [Mapping.toMap, List.map_map, List.pairwise_map]
  exact m.apart

theorem publishGet (s : IssueStore) (m : Mapping) (p : Key) : (s.publish m.toMap).get p = (m.toMap.get? p).getD [] := by
  rw [publishApart s (mappingApart m)]
  exact getFilled (mappingApart m) p.property

theorem callRun (s : IssueStore) (c : Call) : c.run s = c.steps.foldl Step.run s := by
  cases c with
  | step c => rfl
  | publish m =>
    rw [Call.run, publish, Mapping.toMap, Call.steps, List.foldl_cons, List.foldl_map, List.foldl_map]
    rfl

theorem callsRun (s : IssueStore) (calls : List Call) : calls.foldl Call.run s = (calls.flatMap Call.steps).foldl Step.run s := by
  induction calls generalizing s with
  | nil => rfl
  | cons c rest ih => rw [List.foldl_cons, ih, callRun, List.flatMap_cons, List.foldl_append]

/-! When a file comes to have issues. -/

def Fills (steps : List Step) (p : Json) (i : Nat) : Prop :=
  lastGiven (Step.given? p) (steps.take i) = [] ∧ lastGiven (Step.given? p) (steps.take (i + 1)) ≠ []

def LastFills (steps : List Step) (p : Json) (i : Nat) : Prop := IsGreatest { j | Fills steps p j } i

def Earlier (steps : List Step) (p q : Json) : Prop := ∃ i j, LastFills steps p i ∧ LastFills steps q j ∧ i < j

theorem fillsInside {i : Nat} (fills : Fills steps p i) : i < steps.length := by
  by_contra outside
  have short := Nat.le_of_not_lt outside
  rw [Fills, List.take_of_length_le short, List.take_of_length_le (Nat.le_succ_of_le short)] at fills
  exact fills.2 fills.1

theorem fillsSnoc {i : Nat} : Fills (steps ++ [c]) p i ↔ Fills steps p i ∨
    i = steps.length ∧ lastGiven (Step.given? p) steps = [] ∧ lastGiven (Step.given? p) (steps ++ [c]) ≠ [] := by
  rcases Nat.lt_trichotomy i steps.length with before | rfl | past
  · have other : i ≠ steps.length := Nat.ne_of_lt before
    simp only [Fills, List.take_append_of_le_length (Nat.le_of_lt before), List.take_append_of_le_length before, other,
      false_and, or_false]
  · have none : ¬Fills steps p steps.length := fun fills => absurd (fillsInside fills) (Nat.lt_irrefl _)
    simp only [none, false_or, true_and]
    rw [Fills, List.take_left, List.take_of_length_le (by simp)]
  · have none : ¬Fills steps p i := fun fills => absurd (fillsInside fills) (Nat.lt_asymm past)
    have none' : ¬Fills (steps ++ [c]) p i := fun fills => by
      have := fillsInside fills
      rw [List.length_append, List.length_singleton] at this
      omega
    have other : i ≠ steps.length := (Nat.ne_of_lt past).symm
    simp only [none, none', other, false_and, or_false]

theorem lastFillsKept (filled : lastGiven (Step.given? p) steps ≠ []) {i : Nat} :
    LastFills (steps ++ [c]) p i ↔ LastFills steps p i := by
  simp only [LastFills, fillsSnoc, filled, false_and, and_false, or_false]

theorem lastFillsNow (empty : lastGiven (Step.given? p) steps = []) (now : lastGiven (Step.given? p) (steps ++ [c]) ≠ []) :
    LastFills (steps ++ [c]) p steps.length := by
  refine ⟨fillsSnoc.mpr (.inr ⟨rfl, empty, now⟩), fun i fills => ?_⟩
  rcases fillsSnoc.mp fills with before | ⟨here, _⟩
  · exact Nat.le_of_lt (fillsInside before)
  · exact Nat.le_of_eq here

theorem filledOnce (filled : lastGiven (Step.given? p) steps ≠ []) : ∃ i, LastFills steps p i := by
  induction steps using List.reverseRecOn with
  | nil => exact absurd rfl filled
  | append_singleton steps c ih =>
    by_cases empty : lastGiven (Step.given? p) steps = []
    · exact ⟨_, lastFillsNow empty filled⟩
    · obtain ⟨i, last⟩ := ih empty
      exact ⟨i, (lastFillsKept empty).mpr last⟩

theorem earlierKept (filledP : lastGiven (Step.given? p) steps ≠ []) (filledQ : lastGiven (Step.given? q) steps ≠ [])
    (earlier : Earlier steps p q) : Earlier (steps ++ [c]) p q := by
  obtain ⟨i, j, lastP, lastQ, order⟩ := earlier
  exact ⟨i, j, (lastFillsKept filledP).mpr lastP, (lastFillsKept filledQ).mpr lastQ, order⟩

theorem earlierNow (filled : lastGiven (Step.given? p) steps ≠ []) (empty : lastGiven (Step.given? q) steps = [])
    (now : lastGiven (Step.given? q) (steps ++ [c]) ≠ []) : Earlier (steps ++ [c]) p q := by
  obtain ⟨i, last⟩ := filledOnce filled
  exact ⟨i, steps.length, (lastFillsKept filled).mpr last, lastFillsNow empty now, fillsInside last.1⟩

structure Follows (steps : List Step) (s : IssueStore) : Prop where
  listed : Listed s.entries
  gives : ∀ p : Key, s.get p = lastGiven (Step.given? p) steps
  ordered : s.paths.Pairwise (Earlier steps)

theorem followsNew (name : String) : Follows [] (new name) :=
  ⟨⟨.nil, by simp [new], by simp [new]⟩, fun _ => rfl, .nil⟩

theorem pathFilled (follows : Follows steps s) (mem : p ∈ s.paths) : lastGiven (Step.given? p) steps ≠ [] := by
  obtain ⟨e, there, rfl⟩ := List.mem_map.mp mem
  have gives : s.get e.1 = _ := follows.gives ⟨e.1, follows.listed.keys e.1 mem⟩
  rw [← gives, get, getListed follows.listed there]
  exact follows.listed.filled e there

theorem newFile (follows : Follows steps s) (file : Key) {issues : List Issue} (some : issues ≠ [])
    (new : ∀ f ∈ s.paths, f.sameKey file = false) :
    lastGiven (Step.given? file) steps = [] ∧ lastGiven (Step.given? file) (steps ++ [.set file issues]) ≠ [] := by
  constructor
  · rw [← follows.gives file, get, getAbsent new]
    rfl
  · rw [lastGivenSnoc, Step.given?, if_pos (Json.sameKeySelf file.property)]
    exact some

theorem followsStep (follows : Follows steps s) (c : Step) : Follows (steps ++ [c]) (c.run s) := by
  refine ⟨stepListed follows.listed c, fun p => by rw [stepGet, lastGivenSnoc, follows.gives], ?_⟩
  have kept : s.paths.Pairwise (Earlier (steps ++ [c])) :=
    follows.ordered.imp_of_mem fun memP memQ => earlierKept (pathFilled follows memP) (pathFilled follows memQ)
  cases c with
  | clear => exact .nil
  | set file issues =>
    by_cases none : issues = []
    · obtain rfl := none
      exact kept.sublist (List.filter_sublist.map _)
    · by_cases old : ∃ f ∈ s.paths, f.sameKey file = true
      · have same : (s.set file issues).paths = s.paths := by
          rw [paths, set, if_neg (by simpa using none)]
          exact insertOld old
        rwa [Step.run, same]
      · have new : ∀ f ∈ s.paths, f.sameKey file = false := by simpa using old
        have more : (s.set file issues).paths = s.paths ++ [file.val] := by
          rw [setNew none new, paths, List.map_append]
          rfl
        obtain ⟨empty, now⟩ := newFile follows file none new
        rw [Step.run, more, List.pairwise_append]
        refine ⟨kept, List.pairwise_singleton _ _, fun f mem g last => ?_⟩
        rw [List.mem_singleton.mp last]
        exact earlierNow (pathFilled follows mem) empty now

theorem stepsFollow (name : String) (steps : List Step) : Follows steps (steps.foldl Step.run (new name)) := by
  induction steps using List.reverseRecOn with
  | nil => exact followsNew name
  | append_singleton steps c ih =>
    rw [List.foldl_append]
    exact followsStep ih c

theorem callGet (s : IssueStore) (c : Call) (p : Key) : (c.run s).get p = (c.given? p).getD (s.get p) := by
  cases c with
  | step c => exact stepGet s c p
  | publish m => exact publishGet s m p

theorem callsGet (name : String) (calls : List Call) (p : Key) :
    (calls.foldl Call.run (new name)).get p = lastGiven (Call.given? p) calls := by
  induction calls using List.reverseRecOn with
  | nil => rfl
  | append_singleton calls c ih =>
    rw [List.foldl_append, lastGivenSnoc, ← ih]
    exact callGet _ c p

/-! What the store shows. -/

theorem containsGet (listed : Listed s.entries) : s.contains p = true ↔ s.get p ≠ [] := by
  rw [contains, get]
  cases found : s.entries.get? p with
  | none => simp
  | some issues =>
    obtain ⟨e, there, rfl⟩ := Option.map_eq_some_iff.mp found
    simpa using listed.filled e (List.mem_of_find?_eq_some there)

theorem countGet (listed : Listed s.entries) : s.paths.countP (·.sameKey p) = if s.get p = [] then 0 else 1 := by
  rw [paths, countListed listed]
  have holds : s.get p ≠ [] ↔ _ := (containsGet listed).symm
  rw [contains] at holds
  by_cases none : s.get p = []
  · rw [if_pos none, if_neg (mt holds.mpr (not_not.mpr none))]
  · rw [if_neg none, if_pos (holds.mp none)]

theorem allGet (listed : Listed s.entries) : s.all = s.paths.flatMap s.get := by
  rw [all, IssueMap.issues, paths, List.flatMap_map]
  refine List.flatMap_congr fun e mem => ?_
  rw [get, getListed listed mem]
  rfl

theorem sizeAll (s : IssueStore) : s.size = s.all.length := by
  rw [size, all, IssueMap.issues, List.length_flatMap, List.sum_eq_foldl, List.foldl_map]

/-- After any calls, the store gives for each file what the last call that concerns it gave; what it lists and counts agrees
with that; the files stand in the order of the steps that last gave them issues when they had none. -/
theorem lastCallsGiven (name : String) (calls : List Call) :
    let s := calls.foldl Call.run (new name)
    (∀ p : Key, s.get p = lastGiven (Call.given? p) calls ∧ (s.contains p = true ↔ s.get p ≠ []) ∧
      s.paths.countP (·.sameKey p) = if s.get p = [] then 0 else 1) ∧
    s.all = s.paths.flatMap s.get ∧ s.size = (s.paths.flatMap s.get).length ∧
    s.paths.Pairwise (Earlier (calls.flatMap Call.steps)) ∧
    ∀ m : Mapping, (s.publish m.toMap).entries = m.toMap.filter (!·.2.isEmpty) := by
  intro s
  have follows : Follows (calls.flatMap Call.steps) s := by
    rw [show s = _ from callsRun (new name) calls]
    exact stepsFollow name _
  have listed := follows.listed
  refine ⟨fun p => ⟨callsGet name calls p, containsGet listed, countGet listed⟩, allGet listed, ?_, follows.ordered,
    fun m => ?_⟩
  · rw [sizeAll, allGet listed]
  · rw [publishApart s (mappingApart m)]

end IssueStore

end AccessFix
