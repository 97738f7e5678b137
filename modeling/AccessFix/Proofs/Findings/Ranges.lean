import AccessFix.Proofs.Findings.Places

/-! Ranges of mapped issues. A missing coordinate and a zero count as one, and a negative one is kept as it is; so the range of an
issue is one that documents can be asked for exactly where its message names no negative line or column. -/
namespace AccessFix
open Fallible

namespace Findings

/-! Where issues come from. -/

variable {found : IssueMap} {listed sent : List Json} {members : List (Letters × Json)}

theorem itemsTexts {v : Json} (other : ∀ items, v ≠ .array items) (ok : v.items = .ok sent) : ∀ item ∈ sent, ∃ s, item = .string s := by
  cases v with
  | array items => exact absurd rfl (other items)
  | string s =>
    obtain rfl := Except.ok.inj ok
    exact List.forall_mem_map.mpr fun c _ => ⟨_, rfl⟩
  | object members =>
    obtain rfl := Except.ok.inj ok
    exact List.forall_mem_map.mpr fun m _ => ⟨_, rfl⟩
  | _ => cases ok

theorem messagesSent (said : messages members = .ok sent) (objects : ∀ message ∈ sent, ∃ inner, message = .object inner) :
    sent = sentBy (.object members) := by
  unfold messages at said
  unfold sentBy membersOf
  split
  · rename_i items array
    rw [array] at said
    cases items <;> exact (Except.ok.inj said).symm
  · rename_i other
    simp only at said
    split at said
    · refine List.eq_nil_iff_forall_not_mem.mpr fun message mem => ?_
      obtain ⟨inner, rfl⟩ := objects message mem
      obtain ⟨s, never⟩ := itemsTexts other said _ mem
      cases never
    · exact (Except.ok.inj said).symm

def Made (listed : List Json) (issues : List Issue) : Prop :=
  ∃ result ∈ listed, List.Forall₂ (fun message i => ∃ file, issue file message = .ok i) (sentBy result) issues

theorem resultsMade (mapped : ofResults (.array listed) = .ok found) : ∀ entry ∈ found, Made listed entry.2 := by
  have folded : listed.foldlM add [] = .ok found := mapped
  refine foldlMKeeps (P := fun m => ∀ entry ∈ m, Made listed entry.2) ?_ (by simp) folded
  intro m result mem m' made added
  obtain ⟨members, sent, issues, rfl, said, paired, ⟨_, rfl⟩ | ⟨_, rfl⟩⟩ := addOk added
  · exact made
  · have objects : ∀ message ∈ sent, ∃ inner, message = .object inner := by
      intro message there
      obtain ⟨i, _, here⟩ := pairedRight paired there
      obtain ⟨inner, _, _, object, _⟩ := issuePlaced here
      exact ⟨inner, object⟩
    rw [messagesSent said objects] at paired
    exact IssueMap.insertEach (P := Made listed) ⟨_, mem, paired.imp fun _ _ here => ⟨_, here⟩⟩ made

def Backward (v : Json) : Prop := ∃ n < 0, v = .ofInt n

def Onward (message : Json) : Prop :=
  ¬Backward (Json.member (membersOf message) "line") ∧ ¬Backward (Json.member (membersOf message) "column")

theorem countedOnward {v : Json} (given : IsCoordinate v) : ¬Backward v ↔ 1 ≤ counted v := by
  rcases given with rfl | ⟨n, rfl⟩
  · simp [Backward, Json.ofInt, counted]
  · simp only [Backward, Json.ofInt, Json.number.injEq, Number.int.injEq, exists_eq_right', not_lt, counted]
    split <;> omega

theorem issueRange {file message : Json} {i : Issue} (made : issue file message = .ok i)
    (line : IsCoordinate (Json.member (membersOf message) "line"))
    (column : IsCoordinate (Json.member (membersOf message) "column")) :
    i.range = .single (.int (lineOf message - 1)) (.int (columnOf message - 1)) := by
  obtain ⟨members, first, second, rfl, here, there, range⟩ := issuePlaced made
  obtain rfl := Except.ok.inj ((coordinateCounts line).symm.trans here)
  obtain rfl := Except.ok.inj ((coordinateCounts column).symm.trans there)
  exact range

/-- The range of an issue has no negative coordinate, and every document can be asked for it, exactly where the message of the issue
has no negative line or column. -/
theorem rangesOnward (mapped : ofResults (.array listed) = .ok found)
    (given : ∀ result ∈ listed, ∀ message ∈ sentBy result, IsCoordinate (Json.member (membersOf message) "line") ∧
      IsCoordinate (Json.member (membersOf message) "column")) :
    ∀ entry ∈ found, ∃ result ∈ listed, List.Forall₂ (fun message i => (∃ file, issue file message = .ok i) ∧
      (¬i.range.start.Negative ∧ ¬i.range.stop.Negative ↔ Onward message) ∧
      ∀ d : Document, (∃ snippet, d.read i.range = .ok snippet) ↔ Onward message) (sentBy result) entry.2 := by
  intro entry mem
  obtain ⟨result, there, paired⟩ := resultsMade mapped entry mem
  refine ⟨result, there, ((List.forall₂_and_left _ _).mpr ⟨given result there, paired⟩).imp ?_⟩
  rintro message i ⟨⟨line, column⟩, file, made⟩
  have onward : Onward message ↔ 1 ≤ lineOf message ∧ 1 ≤ columnOf message :=
    and_congr (countedOnward line) (countedOnward column)
  have range : i.range = ⟨.ofInts (lineOf message - 1) (columnOf message - 1),
      .ofInts (lineOf message - 1) (columnOf message - 1 + 1)⟩ := issueRange made line column
  rw [range, onward, Document.negativeInts, Document.negativeInts]
  refine ⟨⟨file, made⟩, by omega, fun d => ?_⟩
  rw [Document.readInts]
  omega

theorem complaintOnward : ∃ found, ofResults (.array [complaint 3 0]) = .ok found ∧
    ∀ entry ∈ found, ∀ i ∈ entry.2, (¬i.range.start.Negative ∧ ¬i.range.stop.Negative) ∧
      ∀ d : Document, ∃ snippet, d.read i.range = .ok snippet := by
  have mapped : ofResults (.array [complaint 3 0]) = .ok [(.string "/p/A.jsx", [pageIssue 2 0])] := rfl
  have given : ∀ result ∈ [complaint 3 0], ∀ message ∈ sentBy result,
      IsCoordinate (Json.member (membersOf message) "line") ∧ IsCoordinate (Json.member (membersOf message) "column") := by
    intro result mem message there
    obtain rfl := List.mem_singleton.mp mem
    obtain rfl := List.mem_singleton.mp there
    exact ⟨.inr ⟨3, rfl⟩, .inr ⟨0, rfl⟩⟩
  refine ⟨_, mapped, fun entry mem i there => ?_⟩
  obtain ⟨result, listed, paired⟩ := rangesOnward mapped given entry mem
  obtain rfl := List.mem_singleton.mp listed
  obtain ⟨message, sent, _, forward, read⟩ := pairedLeft paired there
  obtain rfl := List.mem_singleton.mp sent
  have onward : Onward (.object [("line", .ofInt 3), ("column", .ofInt 0)]) := by
    constructor <;> rintro ⟨n, negative, same⟩ <;> cases same <;> omega
  exact ⟨forward.mpr onward, fun d => (read d).mpr onward⟩

theorem complaintBackward : ofResults (.array [complaint (-1) 1]) = .ok [(.string "/p/A.jsx", [pageIssue (-2) 0])] ∧
    (pageIssue (-2) 0).range.start.Negative ∧
    ∀ d : Document, d.read (pageIssue (-2) 0).range = .error (.negative (.ofInts (-2) 0) d.path) := by
  refine ⟨rfl, Document.negativeInts.mpr (by decide), fun d => ?_⟩
  have start : d.clampedOffset (.ofInts (-2) 0) = .error (.negative (.ofInts (-2) 0) d.path) :=
    bindError.mpr (.inl (Document.placeNegative (by decide)))
  exact bindError.mpr (.inl start)

end Findings

end AccessFix
