import AccessFix.Proofs.Document
import AccessFix.Proofs.Findings
import AccessFix.Proofs.Json.Read

/-! Issues of results as a linter writes them, and which of them are at a place. Lines and columns count from one, and what is
absent or zero counts as one; so a message at a place has no negative coordinate, whatever integers the linter wrote. -/
namespace AccessFix
open Fallible

namespace Findings

def counted : Json → Int
  | .number (.int n) => if n = 0 then 1 else n
  | _ => 1

def IsCoordinate (v : Json) : Prop := v = .null ∨ ∃ n, v = .ofInt n

theorem coordinateCounts {v : Json} (given : IsCoordinate v) : coordinate v = .ok (.int (counted v - 1)) := by
  rcases given with rfl | ⟨n, rfl⟩
  · rfl
  · by_cases zero : n = 0
    · subst zero
      rfl
    · simp [coordinate, Json.ofInt, Json.isPresent, Number.isZero, zero, Json.number?, Number.addInt, counted, sub_eq_add_neg]

theorem countedNonzero (v : Json) : counted v ≠ 0 := by
  unfold counted
  split
  · split
    · decide
    · assumption
  · decide

def membersOf : Json → List (Letters × Json)
  | .object members => members
  | _ => []

def lineOf (message : Json) : Int := counted (Json.member (membersOf message) "line")

def columnOf (message : Json) : Int := counted (Json.member (membersOf message) "column")

def textOf (message : Json) : Json := (Json.member? (membersOf message) "message").getD (.string "")

def codeOf (message : Json) : Json :=
  let rule := Json.member (membersOf message) "ruleId"
  if rule.isPresent then rule else .string fallbackCode

def reported (path : Letters) (message : Json) : Issue where
  file := .string path
  range := .single (.int (lineOf message - 1)) (.int (columnOf message - 1))
  message := textOf message
  severity := severityOf (Json.member (membersOf message) "severity")
  source := toolName
  code := codeOf message

structure IsMessage (message : Json) : Prop where
  object : message = .object (membersOf message)
  line : IsCoordinate (Json.member (membersOf message) "line")
  column : IsCoordinate (Json.member (membersOf message) "column")

theorem issueReported {path : Letters} {message : Json} (given : IsMessage message) :
    issue (.string path) message = .ok (reported path message) := by
  refine bindOk.mpr ⟨membersOf message, membersOk.mpr given.object, ?_⟩
  refine bindOk.mpr ⟨_, coordinateCounts given.line, ?_⟩
  exact bindOk.mpr ⟨_, coordinateCounts given.column, rfl⟩

/-! Results, of which no two are for one file. -/

def pathOf (result : Json) : Option Letters :=
  match Json.member (membersOf result) "filePath" with
  | .string path => some path
  | _ => none

def sentBy (result : Json) : List Json :=
  match Json.member (membersOf result) "messages" with
  | .array messages => messages
  | _ => []

structure IsResult (result : Json) : Prop where
  object : result = .object (membersOf result)
  path : ∃ path, pathOf result = some path
  listed : Json.member (membersOf result) "messages" = .null ∨
    Json.member (membersOf result) "messages" = .array (sentBy result)
  sent : ∀ message ∈ sentBy result, IsMessage message

def messagesFor (path : Letters) (listed : List Json) : List Json :=
  (listed.filter fun result => pathOf result = some path).flatMap sentBy

variable {found : IssueMap} {result : Json} {path : Letters} {listed : List Json}

def fileOf (result : Json) : Letters :=
  match Json.member? (membersOf result) "filePath" with
  | some (.string path) => path
  | _ => ""

structure IsEntry (result : Json) : Prop where
  object : result = .object (membersOf result)
  file : ∀ v, Json.member? (membersOf result) "filePath" = some v → ∃ path, v = .string path
  listed : (Json.member (membersOf result) "messages").isPresent = false ∨
    Json.member (membersOf result) "messages" = .array (sentBy result)
  sent : ∀ message ∈ sentBy result, IsMessage message

theorem fileEntry (given : IsEntry result) :
    (Json.member? (membersOf result) "filePath").getD (.string "") = .string (fileOf result) := by
  unfold fileOf
  cases named : Json.member? (membersOf result) "filePath" with
  | none => rfl
  | some v =>
    obtain ⟨path, rfl⟩ := given.file v named
    rfl

theorem messagesEntry (given : IsEntry result) : messages (membersOf result) = .ok (sentBy result) := by
  unfold messages
  rcases given.listed with absent | array
  · have none : sentBy result = [] := by
      unfold sentBy
      split
      · rename_i listed
        rw [listed] at absent
        simpa [Json.isPresent] using absent
      · rfl
    simp [absent, none]
  · rw [array]
    cases sentBy result <;> rfl

theorem addEntry (given : IsEntry result) : add found result = .ok (if sentBy result = [] then found
    else found.insert (.string (fileOf result)) ((sentBy result).map (reported (fileOf result)))) := by
  have mapped : (sentBy result).mapM (issue (.string (fileOf result))) = .ok ((sentBy result).map (reported (fileOf result))) := by
    rw [mapMOk, List.forall₂_map_right_iff, List.forall₂_same]
    exact fun message mem => issueReported (given.sent message mem)
  unfold add
  rw [membersOk.mpr given.object]
  simp only [okBind, fileEntry given, messagesEntry given, mapped]
  cases sentBy result <;> rfl

theorem fileNamed (named : pathOf result = some path) : fileOf result = path := by
  unfold pathOf Json.member at named
  unfold fileOf
  cases given : Json.member? (membersOf result) "filePath" with
  | none => simp [given] at named
  | some v => cases v <;> simp_all

theorem resultEntry (given : IsResult result) : IsEntry result where
  object := given.object
  file := by
    intro v there
    obtain ⟨path, named⟩ := given.path
    unfold pathOf Json.member at named
    rw [there] at named
    cases v <;> simp_all
  listed := by
    rcases given.listed with none | array
    · exact .inl (by rw [none]; rfl)
    · exact .inr array
  sent := given.sent

theorem addReported (given : IsResult result) (named : pathOf result = some path)
    (fresh : found.get? (.string path) = none) : ∃ more, add found result = .ok more ∧
      (more.get? (.string path)).getD [] = (sentBy result).map (reported path) ∧
      ∀ other ≠ path, more.get? (.string other) = found.get? (.string other) := by
  refine ⟨_, addEntry (resultEntry given), ?_⟩
  rw [fileNamed named]
  split
  · rename_i none
    exact ⟨by simp [fresh, none], fun _ _ => rfl⟩
  · refine ⟨by rw [IssueMap.getInserted rfl]; rfl, fun other differs => ?_⟩
    exact IssueMap.getInsertOther rfl (mt Json.sameKeyText.mp fun same => differs (Json.string.inj same).symm)

theorem foldReported (proper : ∀ result ∈ listed, IsResult result) (distinct : (listed.map pathOf).Nodup)
    (fresh : ∀ result ∈ listed, ∀ path, pathOf result = some path → found.get? (.string path) = none) :
    ∃ more, listed.foldlM add found = .ok more ∧ ∀ path, (more.get? (.string path)).getD [] =
      (found.get? (.string path)).getD [] ++ (messagesFor path listed).map (reported path) := by
  -- what is found so far has nothing for the files of the results that are left
  induction listed generalizing found with
  | nil => exact ⟨found, rfl, fun path => by simp [messagesFor]⟩
  | cons result rest ih =>
    obtain ⟨given, properRest⟩ := List.forall_mem_cons.mp proper
    obtain ⟨freshHere, freshRest⟩ := List.forall_mem_cons.mp fresh
    obtain ⟨apart, distinctRest⟩ := List.nodup_cons.mp distinct
    obtain ⟨path, named⟩ := given.path
    obtain ⟨next, added, here, others⟩ := addReported given named (freshHere path named)
    have freshNext : ∀ later ∈ rest, ∀ other, pathOf later = some other → next.get? (.string other) = none := by
      intro later mem other named'
      have differs : other ≠ path := by
        rintro rfl
        exact apart (by rw [named, ← named']; exact List.mem_map_of_mem mem)
      rw [others other differs]
      exact freshRest later mem other named'
    obtain ⟨more, folded, all⟩ := ih properRest distinctRest freshNext
    refine ⟨more, ?_, fun other => ?_⟩
    · rw [List.foldlM_cons]
      exact bindOk.mpr ⟨next, added, folded⟩
    · rw [all other]
      by_cases same : other = path
      · subst same
        have nothing : messagesFor other rest = [] := by
          rw [messagesFor, List.flatMap_eq_nil_iff]
          intro later mem
          obtain ⟨mem, same⟩ := List.mem_filter.mp mem
          exact absurd (List.mem_map.mpr ⟨later, mem, (of_decide_eq_true same).trans named.symm⟩) apart
        have first : messagesFor other (result :: rest) = sentBy result ++ messagesFor other rest := by
          simp [messagesFor, named]
        rw [here, freshHere other named, first, nothing]
        simp
      · rw [others other same]
        have skipped : messagesFor other (result :: rest) = messagesFor other rest := by
          simp [messagesFor, named, Ne.symm same]
        rw [skipped]

theorem resultsReported (proper : ∀ result ∈ listed, IsResult result) (distinct : (listed.map pathOf).Nodup) :
    ∃ found, ofResults (.array listed) = .ok found ∧
      ∀ path, (found.get? (.string path)).getD [] = (messagesFor path listed).map (reported path) := by
  have fresh : ∀ result ∈ listed, ∀ path, pathOf result = some path → IssueMap.get? [] (.string path) = none :=
    fun _ _ _ _ => rfl
  obtain ⟨found, folded, all⟩ := foldReported proper distinct fresh
  exact ⟨found, folded, fun path => (all path).trans (List.nil_append _)⟩

/-! Messages at a place. -/

def IsNear (line column : Int) (message : Json) : Prop :=
  lineOf message = max line 1 ∧ (columnOf message - max column 1).natAbs ≤ 1

instance (line column : Int) (message : Json) : Decidable (IsNear line column message) := by
  unfold IsNear
  infer_instance

theorem singleIntersects (line column line' column' : Int) :
    (Range.single (.int line) (.int column)).intersects (.single (.int line') (.int column')) =
      decide (line = line' ∧ (column - column').natAbs ≤ 1) := by
  change ((Position.ofInts line column).atMost (.ofInts line' (column' + 1)) &&
    (Position.ofInts line' column').atMost (.ofInts line (column + 1))) = _
  rw [Position.atMostInts, Position.atMostInts, ← Bool.decide_and]
  exact decide_eq_decide.mpr (by omega)

theorem reportedNear (path : Letters) (message : Json) (line column : Int) : (reported path message).range.intersects
    (.single (.int (max line 1 - 1)) (.int (max column 1 - 1))) = decide (IsNear line column message) := by
  unfold IsNear
  exact (singleIntersects _ _ _ _).trans (decide_eq_decide.mpr (by omega))

theorem nearCounts {line column : Int} {message : Json} (near : IsNear line column message) :
    1 ≤ lineOf message ∧ 1 ≤ columnOf message := by
  obtain ⟨same, close⟩ := near
  have nonzero : columnOf message ≠ 0 := countedNonzero _
  omega

/-! What can be written of messages that can. -/

theorem membersWritable {v : Json} (writable : v.isWritable = true) : Json.membersAre Json.hasText (membersOf v) = true := by
  cases v with
  | object members => exact writable
  | _ => rfl

theorem presentWritable {v : Json} (writable : v.isWritable = true) (name : String) :
    (Json.member (membersOf v) name).isWritable = true := by
  unfold Json.member
  cases given : Json.member? (membersOf v) name with
  | none => rfl
  | some w => exact Json.memberWritable (membersWritable writable) given

theorem countedWritable {v : Json} (writable : v.isWritable = true) : Text.isWritable (counted v) = true := by
  have one : Text.isWritable 1 = true := Text.writableDigit (by decide)
  unfold counted
  split
  · split
    · exact one
    · simpa only [Json.isWritable, Json.numbersAre, Json.hasText] using writable
  · exact one

theorem textWritable {message : Json} (writable : message.isWritable = true) : (textOf message).isWritable = true := by
  unfold textOf
  cases given : Json.member? (membersOf message) "message" with
  | none => rfl
  | some v => exact Json.memberWritable (membersWritable writable) given

theorem codeWritable {message : Json} (writable : message.isWritable = true) : (codeOf message).isWritable = true := by
  unfold codeOf
  dsimp only
  split
  · exact presentWritable writable _
  · rfl

theorem sentWritable {v : Json} (writable : v.isWritable = true) : ∀ message ∈ sentBy v, message.isWritable = true := by
  have listed := presentWritable writable "messages"
  unfold sentBy
  split
  · rename_i messages same
    rw [same] at listed
    exact Json.arrayWritable.mp listed
  · exact fun _ mem => nomatch mem

theorem messagesWritable {path : Letters} (writable : ∀ result ∈ listed, result.isWritable = true) :
    ∀ message ∈ messagesFor path listed, message.isWritable = true := by
  intro message mem
  obtain ⟨result, there, sent⟩ := List.mem_flatMap.mp mem
  exact sentWritable (writable result (List.mem_of_mem_filter there)) message sent

theorem issueWritable {i : Issue} : i.toJson.isWritable = true ↔ i.file.isWritable = true ∧ Json.hasText i.line = true ∧
    Json.hasText i.column = true ∧ Json.hasText i.endColumn = true ∧ i.code.isWritable = true ∧ i.message.isWritable = true := by
  simp [Issue.toJson, Json.isWritable, Json.numbersAre, Json.membersAre]

theorem reportedWritable (path : Letters) {message : Json} (writable : message.isWritable = true)
    (first : 1 ≤ lineOf message) (second : 1 ≤ columnOf message) : (reported path message).toJson.isWritable = true := by
  have line := Text.writableBelow.mp (countedWritable (presentWritable writable "line"))
  have column := Text.writableBelow.mp (countedWritable (presentWritable writable "column"))
  have less {n m : Int} (bound : n.natAbs < 10 ^ Text.digitLimit) (low : 0 ≤ m) (high : m ≤ n) : Text.isWritable m = true :=
    Text.writableBelow.mpr (lt_of_le_of_lt (by omega) bound)
  change (lineOf message).natAbs < _ at line
  change (columnOf message).natAbs < _ at column
  exact issueWritable.mpr ⟨rfl, less line (by omega) (by omega), less column (by omega) (by omega),
    less column (by omega) (by omega), codeWritable writable, textWritable writable⟩

theorem nearRead (d : Document) {line column : Int} {message : Json} (near : IsNear line column message) :
    ∃ snippet, d.read (reported path message).range = .ok snippet := by
  obtain ⟨first, second⟩ := nearCounts near
  exact Document.readInts.mpr ⟨⟨by omega, by omega⟩, by omega, by omega⟩

end Findings

end AccessFix
