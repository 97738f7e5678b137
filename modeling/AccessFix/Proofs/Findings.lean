import AccessFix.Proofs.IssueStore
import AccessFix.Proofs.Location

/-! From results to issues: which result the issues of a path come from, and where they start in the document. -/
namespace AccessFix
open Fallible

namespace Findings

def Speaks (path : Letters) (result : Json) (sent : List Json) : Prop :=
  ∃ members, result = .object members ∧ (Json.member? members "filePath").getD (.string "") = .string path ∧
    messages members = .ok sent ∧ sent ≠ []

variable {found more : IssueMap} {path : Letters} {result : Json} {sent : List Json}

theorem membersOk {v : Json} {members : List (Letters × Json)} : v.members = .ok members ↔ v = .object members := by
  cases v <;> simp [Json.members]

theorem addOk (ok : add found result = .ok more) :
    ∃ members sent issues, result = .object members ∧ messages members = .ok sent ∧
      List.Forall₂ (fun m i => issue ((Json.member? members "filePath").getD (.string "")) m = .ok i) sent issues ∧
      (sent = [] ∧ more = found ∨
        sent ≠ [] ∧ more = found.insert ((Json.member? members "filePath").getD (.string "")) issues) := by
  obtain ⟨members, object, ok⟩ := bindOk.mp ok
  obtain ⟨sent, said, ok⟩ := bindOk.mp ok
  obtain ⟨issues, mapped, ok⟩ := bindOk.mp ok
  have paired := mapMOk.mp mapped
  refine ⟨members, sent, issues, membersOk.mp object, said, paired, ?_⟩
  cases paired with
  | nil => exact .inl ⟨rfl, (pureOk.mp ok).symm⟩
  | cons =>
    split at ok
    · rename_i none
      cases none
    · split at ok
      · exact absurd ok throwOk
      · exact .inr ⟨by simp, (pureOk.mp ok).symm⟩

theorem addSpeaks (speaks : Speaks path result sent) (ok : add found result = .ok more) :
    ∃ issues, more.get? (.string path) = some issues ∧
      List.Forall₂ (fun m i => issue (.string path) m = .ok i) sent issues := by
  obtain ⟨members, rfl, named, said, some⟩ := speaks
  obtain ⟨_, _, issues, object, said', paired, ended⟩ := addOk ok
  obtain rfl := Json.object.inj object
  obtain rfl := Except.ok.inj (said.symm.trans said')
  rw [named] at paired ended
  rcases ended with ⟨none, _⟩ | ⟨_, rfl⟩
  · exact absurd none some
  · exact ⟨issues, IssueMap.getInserted rfl, paired⟩

theorem addOther (silent : ∀ sent, ¬Speaks path result sent) (ok : add found result = .ok more) :
    more.get? (.string path) = found.get? (.string path) := by
  obtain ⟨members, sent, issues, object, said, _, ⟨_, rfl⟩ | ⟨some, rfl⟩⟩ := addOk ok
  · rfl
  · exact IssueMap.getInsertOther rfl (mt Json.sameKeyText.mp fun named => silent sent ⟨members, object, named, said, some⟩)

theorem foundLast {first later : List Json} (mapped : ofResults (.array (first ++ result :: later)) = .ok found)
    (speaks : Speaks path result sent) (last : ∀ r ∈ later, ∀ sent, ¬Speaks path r sent) :
    ∃ issues, found.get? (.string path) = some issues ∧
      List.Forall₂ (fun m i => issue (.string path) m = .ok i) sent issues := by
  have folded : (first ++ result :: later).foldlM add [] = .ok found := mapped
  rw [List.foldlM_append] at folded
  obtain ⟨before, _, folded⟩ := bindOk.mp folded
  rw [List.foldlM_cons] at folded
  obtain ⟨here, added, after⟩ := bindOk.mp folded
  obtain ⟨issues, listed, paired⟩ := addSpeaks speaks added
  refine ⟨issues, ?_, paired⟩
  refine foldlMKeeps (P := fun m => m.get? (.string path) = some issues) ?_ listed after
  intro m r mem m' holds ok
  rw [addOther (last r mem) ok, holds]

def Reports (text : Letters) (o : Nat) (message : Json) : Prop :=
  ∃ members, message = .object members ∧
    Json.member members "line" = .ofInt (Text.scriptBreaks (text.take o) + 1) ∧
    Json.member members "column" = .ofInt (Text.sinceBreak (text.take o) + 1)

theorem coordinateCounted (n : Nat) : coordinate (.ofInt (n + 1)) = .ok (.int n) := by
  have counted : ((n : Int) + 1 == 0) = false := by
    rw [beq_eq_false_iff_ne]
    omega
  simp [coordinate, Json.ofInt, Json.isPresent, Number.isZero, counted, Json.number?, Number.addInt]

theorem issuePlaced {file message : Json} {i : Issue} (made : issue file message = .ok i) :
    ∃ members line column, message = .object members ∧ coordinate (Json.member members "line") = .ok line ∧
      coordinate (Json.member members "column") = .ok column ∧ i.range = .single line column := by
  obtain ⟨members, object, made⟩ := bindOk.mp made
  obtain ⟨line, first, made⟩ := bindOk.mp made
  obtain ⟨column, second, made⟩ := bindOk.mp made
  exact ⟨members, line, column, membersOk.mp object, first, second, by rw [← pureOk.mp made]⟩

theorem issueReports {text : Letters} {o : Nat} {file message : Json} {i : Issue} (reports : Reports text o message)
    (made : issue file message = .ok i) :
    i.range.start = .ofInts (Text.scriptBreaks (text.take o)) (Text.sinceBreak (text.take o)) := by
  obtain ⟨members, rfl, line, column⟩ := reports
  obtain ⟨_, first, second, object, here, there, range⟩ := issuePlaced made
  obtain rfl := Json.object.inj object
  rw [line, coordinateCounted, Except.ok.injEq] at here
  rw [column, coordinateCounted, Except.ok.injEq] at there
  rw [range, ← here, ← there]
  rfl

/-- An issue starts in the document where its message says, exactly where documents and scripts agree about the place. -/
theorem reportedStart (d : Document) {o : Nat} (inside : o ≤ d.text.length)
    (whole : ¬Text.Splits (d.text.take o) (d.text.drop o)) {first later : List Json}
    (mapped : ofResults (.array (first ++ result :: later)) = .ok found) (speaks : Speaks path result sent)
    (last : ∀ r ∈ later, ∀ sent, ¬Speaks path r sent) :
    ∃ issues, found.get? (.string path) = some issues ∧
      List.Forall₂ (fun message issue => Reports d.text o message →
        (d.offsetAt issue.range.start = .ok (.int o) ↔ Document.Agreed d.text o)) sent issues := by
  obtain ⟨issues, listed, paired⟩ := foundLast mapped speaks last
  refine ⟨issues, listed, paired.imp fun message issue made reports => ?_⟩
  rw [issueReports reports made]
  exact Document.offsetReported d inside whole

def page (text : Letters) : Document := ⟨"/p/A.jsx", text, "javascriptreact", "file"⟩

def complaint (line column : Int) : Json :=
  .object [("filePath", .string "/p/A.jsx"),
    ("messages", .array [.object [("line", .ofInt line), ("column", .ofInt column)]])]

def pageIssue (line column : Int) : Issue where
  file := .string "/p/A.jsx"
  range := .single (.int line) (.int column)
  message := .string ""
  severity := .warning
  source := toolName
  code := .string fallbackCode

theorem pageFound : ofResults (.array [complaint 3 1]) = .ok [(.string "/p/A.jsx", [pageIssue 2 0])] ∧
    (page ['a', '\r', '\n', 'b', '\u2028', 'c']).offsetAt (pageIssue 2 0).range.start = .ok (.int 5) := by
  have mapped : ofResults (.array ([] ++ complaint 3 1 :: [])) = .ok [(.string "/p/A.jsx", [pageIssue 2 0])] := rfl
  have speaks : Speaks "/p/A.jsx" (complaint 3 1) [.object [("line", .ofInt 3), ("column", .ofInt 1)]] :=
    ⟨_, rfl, rfl, rfl, by simp⟩
  obtain ⟨issues, listed, paired⟩ := reportedStart (page ['a', '\r', '\n', 'b', '\u2028', 'c']) (o := 5) (by decide)
    (by simp [page, Text.Splits]) mapped speaks (by simp)
  obtain rfl : [pageIssue 2 0] = issues := Option.some.inj listed
  cases paired with
  | cons start _ =>
    have agreed : Document.Agreed ['a', '\r', '\n', 'b', '\u2028', 'c'] 5 :=
      ⟨by decide, fun ended => absurd ended.1 (by decide)⟩
    exact ⟨mapped, (start ⟨_, rfl, rfl, rfl⟩).mpr agreed⟩

theorem pageLost : Reports (page [.ofCode 12, 'a', 'b']).text 2 (.object [("line", .ofInt 1), ("column", .ofInt 3)]) ∧
    ofResults (.array [complaint 1 3]) = .ok [(.string "/p/A.jsx", [pageIssue 0 2])] ∧
    (page [.ofCode 12, 'a', 'b']).offsetAt (pageIssue 0 2).range.start = .ok (.int 1) :=
  ⟨⟨_, rfl, rfl, rfl⟩, rfl, by decide⟩

end Findings

end AccessFix
