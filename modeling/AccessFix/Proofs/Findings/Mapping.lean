import AccessFix.Proofs.Findings.Places

/-! The mapping of results as a whole. Its files are those with messages, in the order in which they come first; a file's issues are
those of the last result with messages for it, one for a message. A later result takes the place of an earlier one and leaves
the file where it was. -/
namespace AccessFix
open Fallible

/-! Files in the order in which they come first. -/

theorem eraseDupsConcat {α : Type} [BEq α] [LawfulBEq α] (xs : List α) (x : α) :
    (xs ++ [x]).eraseDups = if x ∈ xs then xs.eraseDups else xs.eraseDups ++ [x] := by
  rw [List.eraseDups_append]
  by_cases old : x ∈ xs <;> simp [List.removeAll, List.eraseDups_cons, old]

theorem eraseDupsNodup {α : Type} [BEq α] [LawfulBEq α] (xs : List α) : xs.eraseDups.Nodup := by
  induction xs using List.reverseRecOn with
  | nil => simp
  | append_singleton xs x ih =>
    rw [eraseDupsConcat]
    split
    · exact ih
    · rename_i new
      exact List.nodup_append.mpr ⟨ih, List.nodup_singleton x, by simpa [List.mem_eraseDups] using List.forall_mem_ne'.mpr new⟩

theorem IssueMap.insertPaths {paths : List Letters} (distinct : paths.Nodup) (path : Letters) (issues : List Issue)
    (f : Letters → List Issue) : IssueMap.insert (.string path) issues (paths.map fun p => (.string p, f p)) =
      (if path ∈ paths then paths else paths ++ [path]).map fun p => (.string p, if p = path then issues else f p) := by
  induction paths with
  | nil => simp [insert]
  | cons p rest ih =>
    obtain ⟨fresh, later⟩ := List.nodup_cons.mp distinct
    by_cases here : p = path
    · subst here
      have same : (Json.string p).sameKey (.string p) = true := Json.sameKeySelf rfl
      have others : ∀ q ∈ rest, (Json.string q, f q) = (.string q, if q = p then issues else f q) := by
        intro q mem
        rw [if_neg (ne_of_mem_of_not_mem mem fresh)]
      simp only [List.map_cons, insert, same, if_true, List.mem_cons_self]
      rw [List.map_congr_left others]
    · have other : ¬(Json.string p).sameKey (.string path) = true := by simpa [Json.sameKeyText] using here
      have both : (if path ∈ p :: rest then p :: rest else p :: rest ++ [path]) =
          p :: if path ∈ rest then rest else rest ++ [path] := by
        simp only [List.mem_cons, Ne.symm here, false_or, List.cons_append]
        split <;> rfl
      rw [List.map_cons, insert, if_neg other, ih later, both, List.map_cons, if_neg here]

namespace Findings

def spoken (listed : List Json) : List Letters := (listed.filter fun result => !(sentBy result).isEmpty).map fileOf

def lastSent (path : Letters) (listed : List Json) : List Json :=
  ((listed.filter fun result => fileOf result = path && !(sentBy result).isEmpty).getLast?.map sentBy).getD []

def entriesOf (listed : List Json) : IssueMap :=
  (spoken listed).eraseDups.map fun path => (.string path, (lastSent path listed).map (reported path))

variable {listed : List Json} {result : Json}

theorem spokenSilent (silent : sentBy result = []) : spoken (listed ++ [result]) = spoken listed := by
  simp [spoken, silent]

theorem spokenNext (speaks : sentBy result ≠ []) : spoken (listed ++ [result]) = spoken listed ++ [fileOf result] := by
  simp [spoken, speaks]

theorem lastSilent (silent : sentBy result = []) (path : Letters) : lastSent path (listed ++ [result]) = lastSent path listed := by
  simp [lastSent, silent]

theorem lastNext (speaks : sentBy result ≠ []) (path : Letters) : lastSent path (listed ++ [result]) =
    if path = fileOf result then sentBy result else lastSent path listed := by
  by_cases here : fileOf result = path
  · simp [lastSent, speaks, here]
  · simp [lastSent, here, Ne.symm here]

theorem entriesNext (listed : List Json) (result : Json) : entriesOf (listed ++ [result]) =
    if sentBy result = [] then entriesOf listed
    else (entriesOf listed).insert (.string (fileOf result)) ((sentBy result).map (reported (fileOf result))) := by
  split
  · rename_i silent
    simp only [entriesOf, spokenSilent silent, lastSilent silent]
  · rename_i speaks
    rw [entriesOf, entriesOf, IssueMap.insertPaths (eraseDupsNodup _), spokenNext speaks, eraseDupsConcat]
    simp only [List.mem_eraseDups, lastNext speaks]
    refine List.map_congr_left fun path _ => ?_
    split
    · rename_i here
      rw [here]
    · rfl

theorem foldEntries (proper : ∀ result ∈ listed, IsEntry result) : listed.foldlM add [] = .ok (entriesOf listed) := by
  induction listed using List.reverseRecOn with
  | nil => rfl
  | append_singleton listed result ih =>
    rw [List.forall_mem_append, List.forall_mem_singleton] at proper
    rw [List.foldlM_append, ih proper.1, okBind, List.foldlM_cons, addEntry proper.2, okBind, ← entriesNext]
    rfl

theorem resultsEntries (proper : ∀ result ∈ listed, IsEntry result) : ofResults (.array listed) = .ok (entriesOf listed) :=
  foldEntries proper

structure Final (path : Letters) (listed : List Json) (result : Json) : Prop where
  file : fileOf result = path
  speaks : sentBy result ≠ []
  last : ∃ first later, listed = first ++ result :: later ∧ ∀ other ∈ later, sentBy other ≠ [] → fileOf other ≠ path

theorem lastFinal {path : Letters} (mem : path ∈ spoken listed) :
    ∃ result, Final path listed result ∧ lastSent path listed = sentBy result := by
  induction listed using List.reverseRecOn with
  | nil => simp [spoken] at mem
  | append_singleton listed result ih =>
    have earlier (kept : path ∈ spoken listed) (silent : sentBy result ≠ [] → fileOf result ≠ path)
        (same : lastSent path (listed ++ [result]) = lastSent path listed) :
        ∃ final, Final path (listed ++ [result]) final ∧ lastSent path (listed ++ [result]) = sentBy final := by
      obtain ⟨final, ⟨file, speaks, first, later, rfl, last⟩, sent⟩ := ih kept
      refine ⟨final, ⟨file, speaks, first, later ++ [result], by simp, ?_⟩, same.trans sent⟩
      exact List.forall_mem_append.mpr ⟨last, List.forall_mem_singleton.mpr silent⟩
    by_cases speaks : sentBy result = []
    · rw [spokenSilent speaks] at mem
      exact earlier mem (absurd speaks) (lastSilent speaks path)
    · by_cases here : path = fileOf result
      · refine ⟨result, ⟨here.symm, speaks, listed, [], rfl, by simp⟩, ?_⟩
        rw [lastNext speaks, if_pos here]
      · rw [spokenNext speaks, List.mem_append, List.mem_singleton] at mem
        exact earlier (mem.resolve_right here) (fun _ => Ne.symm here) (by rw [lastNext speaks, if_neg here])

theorem entriesReported {i : Issue} (mem : i ∈ (entriesOf listed).issues) :
    ∃ result ∈ listed, ∃ message ∈ sentBy result, i = reported (fileOf result) message := by
  obtain ⟨entry, there, mem⟩ := List.mem_flatMap.mp mem
  obtain ⟨path, spoke, rfl⟩ := List.mem_map.mp there
  obtain ⟨result, final, sent⟩ := lastFinal (List.mem_eraseDups.mp spoke)
  obtain ⟨first, later, rfl, _⟩ := final.last
  rw [sent] at mem
  obtain ⟨message, said, rfl⟩ := List.mem_map.mp mem
  exact ⟨result, by simp, message, said, by rw [final.file]⟩

theorem entriesFiles (listed : List Json) : (entriesOf listed).map Prod.fst = (spoken listed).eraseDups.map .string := by
  rw [entriesOf, List.map_map]
  rfl

theorem issuesCount (distinct : (spoken listed).Nodup) :
    (entriesOf listed).issues.length = (listed.flatMap sentBy).length := by
  induction listed using List.reverseRecOn with
  | nil => rfl
  | append_singleton listed result ih =>
    rw [entriesNext, List.flatMap_append, List.length_append]
    by_cases silent : sentBy result = []
    · rw [spokenSilent silent] at distinct
      simp [silent, ih distinct]
    · rw [spokenNext silent, List.nodup_append] at distinct
      have new : ∀ file ∈ (entriesOf listed).map Prod.fst, file.sameKey (.string (fileOf result)) = false := by
        intro file mem
        rw [entriesFiles] at mem
        obtain ⟨path, there, rfl⟩ := List.mem_map.mp mem
        have other := distinct.2.2 path (List.mem_eraseDups.mp there) _ (List.mem_singleton_self _)
        simpa [Json.sameKey] using other
      rw [if_neg silent, IssueMap.insertNew new, IssueMap.issues, List.flatMap_append, List.length_append, ← IssueMap.issues, ih distinct.1]
      simp

/-! Issues and their messages. -/

theorem sameTwo {n : Number} : n.same (.int 2) = true ↔ n.value? = some (Extended.ofRat 2) := by
  rw [Number.sameClass, Number.valueClass]
  constructor
  · rintro ⟨v, left, right⟩
    exact left.trans right.symm
  · exact fun left => ⟨_, left, rfl⟩

theorem severityTwo {v : Json} : severityOf v = .error ↔ ∃ n, v = .number n ∧ n.value? = some (Extended.ofRat 2) := by
  have error : severityOf v = .error ↔ v.same (.number (.int 2)) = true := by
    unfold severityOf
    split <;> simp_all
  rw [error]
  cases v with
  | number n => simpa [Json.same] using sameTwo
  | bool b => cases b <;> simp [Json.same, Json.sameKey, Number.same, Number.order?]
  | _ => simp [Json.same, Json.sameKey]

structure Tells (path : Letters) (message : Json) (i : Issue) : Prop where
  file : i.file = .string path
  source : i.source = toolName
  severity : i.severity = .error ↔
    ∃ n, Json.member (membersOf message) "severity" = .number n ∧ n.value? = some (Extended.ofRat 2)
  filled : i.code.isPresent = true
  rule : (Json.member (membersOf message) "ruleId").isPresent = true → i.code = Json.member (membersOf message) "ruleId"
  unruled : (Json.member (membersOf message) "ruleId").isPresent = false → i.code = .string fallbackCode

theorem reportedTells (path : Letters) (message : Json) : Tells path message (reported path message) where
  file := rfl
  source := rfl
  severity := severityTwo
  filled := by
    simp only [reported, codeOf]
    split
    · assumption
    · rfl
  rule present := if_pos present
  unruled absent := if_neg (by simp [absent])

/-- Results are mapped to the files with messages, in the order in which these come first, and every file to the issues of the last
result with messages for it. -/
theorem resultsMapped (proper : ∀ result ∈ listed, IsEntry result) : ∃ found, ofResults (.array listed) = .ok found ∧
    found.map Prod.fst = (spoken listed).eraseDups.map .string ∧
    (∀ entry ∈ found, entry.2 ≠ [] ∧ ∃ path result, entry.1 = .string path ∧ Final path listed result ∧
      List.Forall₂ (Tells path) (sentBy result) entry.2) ∧
    ((spoken listed).Nodup → found.issues.length = (listed.flatMap sentBy).length) := by
  refine ⟨entriesOf listed, foldEntries proper, ?_, ?_, issuesCount⟩
  · exact entriesFiles listed
  · intro entry mem
    obtain ⟨path, there, rfl⟩ := List.mem_map.mp mem
    obtain ⟨result, final, sent⟩ := lastFinal (List.mem_eraseDups.mp there)
    rw [sent]
    refine ⟨by simpa using final.speaks, path, result, rfl, final, ?_⟩
    rw [List.forall₂_map_right_iff, List.forall₂_same]
    exact fun message _ => reportedTells path message

def ledger : List Json :=
  [complaint 1 1, .object [("messages", .array [.object [("severity", .ofInt 2)], .object [("ruleId", .string "r")]])],
    .object [("filePath", .string "/p/B.jsx"), ("messages", .null)], complaint 2 0]

theorem complaintEntry (line column : Int) : IsEntry (complaint line column) where
  object := rfl
  file _ there := ⟨"/p/A.jsx", (Option.some.inj there).symm⟩
  listed := .inr rfl
  sent message mem := by
    obtain rfl := List.mem_singleton.mp mem
    exact ⟨rfl, .inr ⟨line, rfl⟩, .inr ⟨column, rfl⟩⟩

theorem ledgerProper : ∀ result ∈ ledger, IsEntry result := by
  simp only [ledger, List.forall_mem_cons, List.not_mem_nil, false_imp_iff, forall_const, and_true]
  refine ⟨complaintEntry 1 1, ⟨rfl, nofun, .inr rfl, ?_⟩,
    ⟨rfl, fun _ there => ⟨"/p/B.jsx", (Option.some.inj there).symm⟩, .inl rfl, nofun⟩, complaintEntry 2 0⟩
  intro message mem
  rcases List.mem_pair.mp mem with rfl | rfl
  · exact ⟨rfl, .inl rfl, .inl rfl⟩
  · exact ⟨rfl, .inl rfl, .inl rfl⟩

theorem ledgerMapped : (∀ result ∈ ledger, IsEntry result) ∧ ∃ found, ofResults (.array ledger) = .ok found ∧
    found.map Prod.fst = [.string "/p/A.jsx", .string ""] ∧ ∀ entry ∈ found, entry.2 ≠ [] := by
  obtain ⟨found, mapped, files, entries, _⟩ := resultsMapped ledgerProper
  have order : (spoken ledger).eraseDups = ["/p/A.jsx", ""] := by decide
  exact ⟨ledgerProper, found, mapped, by rw [files, order]; rfl, fun entry mem => (entries entry mem).1⟩

end Findings

end AccessFix
