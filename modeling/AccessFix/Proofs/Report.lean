import AccessFix.Proofs.Findings.Mapping
import AccessFix.Proofs.Letter
import AccessFix.Proofs.Sorting
import AccessFix.Report

/-! Reports of mapped issues. The numbers of a report are counted in several ways and agree: every issue is of one severity, of one
rule and in one file. They depend on which issues there are, and not on the order of files and issues. -/
namespace AccessFix
open Fallible

namespace Report

/-! Rules and how often they are broken. -/

theorem tallyNext {names : List Letters} (distinct : names.Nodup) (name : Letters) {count : Letters → Nat}
    (fresh : name ∉ names → count name = 0) : tally (.string name) (names.map fun n => (.string n, count n)) =
      (if name ∈ names then names else names ++ [name]).map fun n => (.string n, count n + if n = name then 1 else 0) := by
  induction names with
  | nil => simp [tally, fresh]
  | cons n rest ih =>
    obtain ⟨first, later⟩ := List.nodup_cons.mp distinct
    by_cases here : n = name
    · subst here
      have same : (Json.string n).sameKey (.string n) = true := Json.sameKeySelf rfl
      have others : ∀ m ∈ rest, (Json.string m, count m) = (.string m, count m + if m = n then 1 else 0) := by
        intro m mem
        rw [if_neg (ne_of_mem_of_not_mem mem first), add_zero]
      simp only [List.map_cons, tally, same, if_true, List.mem_cons_self]
      rw [List.map_congr_left others]
    · have other : ¬(Json.string n).sameKey (.string name) = true := by simpa [Json.sameKeyText] using here
      have both : (if name ∈ n :: rest then n :: rest else n :: rest ++ [name]) =
          n :: if name ∈ rest then rest else rest ++ [name] := by
        simp only [List.mem_cons, Ne.symm here, false_or, List.cons_append]
        split <;> rfl
      have freshRest : name ∉ rest → count name = 0 := fun none => fresh (by simp [Ne.symm here, none])
      rw [List.map_cons, tally, if_neg other, ih later freshRest, both, List.map_cons, if_neg here, add_zero]

theorem tallyAll (names : List Letters) : (names.map Json.string).foldl (fun counts code => tally code counts) [] =
    names.eraseDups.map fun name => (.string name, names.count name) := by
  induction names using List.reverseRecOn with
  | nil => simp
  | append_singleton names name ih =>
    have fresh : name ∉ names.eraseDups → names.count name = 0 := by
      rw [List.mem_eraseDups]
      exact List.count_eq_zero_of_not_mem
    rw [List.map_append, List.foldl_append, ih, List.map_singleton, List.foldl_cons, List.foldl_nil,
      tallyNext (eraseDupsNodup names) name fresh, eraseDupsConcat]
    simp only [List.mem_eraseDups, List.count_append, List.count_singleton, beq_iff_eq, @eq_comm _ name]

def ruleNames (names : List Letters) : List Letters := Sorting.sort (fun a b => decide (a < b)) names.eraseDups

variable {names names' : List Letters}

theorem ruleMem {name : Letters} : name ∈ ruleNames names ↔ name ∈ names :=
  (Sorting.sortPerm _ _).mem_iff.trans List.mem_eraseDups

theorem ruleNodup : (ruleNames names).Nodup := (Sorting.sortPerm _ _).nodup_iff.mpr (eraseDupsNodup names)

theorem rulesRise : (ruleNames names).Pairwise (· < ·) :=
  (Sorting.sortRises (fun _ _ => decide_eq_true_iff) names.eraseDups).and ruleNodup |>.imp fun both => lt_of_le_of_ne both.1 both.2

theorem rulesReordered (same : names.Perm names') : ruleNames names = ruleNames names' := by
  refine List.Perm.eq_of_pairwise (fun _ _ _ _ less more => absurd more (lt_asymm less)) rulesRise rulesRise ?_
  exact (List.perm_ext_iff_of_nodup ruleNodup ruleNodup).mpr fun name => by rw [ruleMem, ruleMem, same.mem_iff]

theorem rulesSum (names : List Letters) : ((ruleNames names).map fun name => names.count name).sum = names.length := by
  have same : (ruleNames names).Perm names.dedup :=
    (List.perm_ext_iff_of_nodup ruleNodup (List.nodup_dedup names)).mpr fun name => by rw [ruleMem, List.mem_dedup]
  rw [(same.map _).sum_eq, lawful_beq_subsingleton List.instBEq instBEqOfDecidableEq, List.sum_map_count_dedup_eq_length]

variable {issues : List Issue} {found found' : IssueMap} {workspace : String} {now : DateTime}

def namesOf (issues : List Issue) : List Letters := issues.map fun i => codeName i.code

def Named (issues : List Issue) : Prop := ∀ i ∈ issues, i.code = .string (codeName i.code)

def rulesOf (names : List Letters) : List (Json × Nat) := (ruleNames names).map fun name => (.string name, names.count name)

theorem codesNamed (named : Named issues) : issues.map Issue.code = (namesOf issues).map .string := by
  rw [namesOf, List.map_map]
  exact List.map_congr_left named

theorem sortTallied (names : List Letters) :
    sortCodes (names.eraseDups.map fun name => (.string name, names.count name)) = .ok (rulesOf names) := by
  have texts : ((names.eraseDups.map fun name => (Json.string name, names.count name)).map Prod.fst).all isText = true := by
    simp [isText]
  simp only [sortCodes, texts, Bool.or_true, Bool.true_or, if_true, Sorting.sortMap]
  rfl

theorem buildNamed (named : Named found.issues) : build workspace now found = .ok {
    workspace := workspace
    created := now
    files := found.length
    errors := countSeverity .error found.issues
    warnings := countSeverity .warning found.issues
    rules := rulesOf (namesOf found.issues)
    issues := found.issues } := by
  have keys : found.issues.all (fun i => i.code.isKey) = true := by
    refine List.all_eq_true.mpr fun i mem => ?_
    rw [named i mem]
    rfl
  have counts : countCodes found.issues = .ok ((namesOf found.issues).eraseDups.map fun name =>
      (.string name, (namesOf found.issues).count name)) := by
    rw [countCodes, if_pos keys, ← tallyAll, ← codesNamed named, List.foldl_map]
  exact bindOk.mpr ⟨_, counts, bindOk.mpr ⟨_, sortTallied _, rfl⟩⟩

theorem severitiesSum (issues : List Issue) : countSeverity .error issues + countSeverity .warning issues = issues.length := by
  rw [List.length_eq_countP_add_countP fun i : Issue => decide (i.severity = .error)]
  refine congrArg (_ + ·) (List.countP_congr fun i _ => ?_)
  cases i.severity <;> simp

theorem filesCount (distinct : (found.map Prod.fst).Nodup)
    (filed : ∀ entry ∈ found, entry.2 ≠ [] ∧ ∀ i ∈ entry.2, i.file = entry.1) :
    {file | ∃ i ∈ found.issues, i.file = file}.ncard = found.length := by
  classical
  have same : {file | ∃ i ∈ found.issues, i.file = file} = ((found.map Prod.fst).toFinset : Set Json) := by
    ext file
    simp only [IssueMap.issues, List.mem_flatMap, Set.mem_ofPred_eq, List.coe_toFinset, List.mem_map]
    constructor
    · rintro ⟨i, ⟨entry, mem, there⟩, rfl⟩
      exact ⟨entry, mem, ((filed entry mem).2 i there).symm⟩
    · rintro ⟨entry, mem, rfl⟩
      obtain ⟨i, there⟩ := List.exists_mem_of_ne_nil _ (filed entry mem).1
      exact ⟨i, ⟨entry, mem, there⟩, (filed entry mem).2 i there⟩
  rw [same, Set.ncard_coe_finset, List.toFinset_card_of_nodup distinct, List.length_map]

open Findings

variable {listed : List Json}

def IsRule (v : Json) : Prop := v = .null ∨ ∃ name, v = .string name

theorem ruleNamed (path : Letters) {message : Json} (given : IsRule (Json.member (membersOf message) "ruleId")) :
    ∃ name, (reported path message).code = .string name := by
  simp only [reported, codeOf]
  rcases given with none | ⟨name, named⟩
  · exact ⟨fallbackCode, by rw [none]; rfl⟩
  · rw [named]
    split
    · exact ⟨name, rfl⟩
    · exact ⟨fallbackCode, rfl⟩

theorem entriesNamed (given : ∀ result ∈ listed, ∀ message ∈ sentBy result, IsRule (Json.member (membersOf message) "ruleId")) :
    Named (entriesOf listed).issues := by
  intro i mem
  obtain ⟨result, there, message, said, rfl⟩ := entriesReported mem
  obtain ⟨name, named⟩ := ruleNamed (fileOf result) (given result there message said)
  rw [named]
  rfl

theorem entriesFiled : ∀ entry ∈ entriesOf listed, entry.2 ≠ [] ∧ ∀ i ∈ entry.2, i.file = entry.1 := by
  intro entry mem
  obtain ⟨path, spoke, rfl⟩ := List.mem_map.mp mem
  obtain ⟨result, final, sent⟩ := lastFinal (List.mem_eraseDups.mp spoke)
  refine ⟨by simpa [sent] using final.speaks, fun i there => ?_⟩
  obtain ⟨message, _, rfl⟩ := List.mem_map.mp there
  rfl

theorem entriesDistinct (listed : List Json) : ((entriesOf listed).map Prod.fst).Nodup := by
  rw [entriesFiles]
  exact (eraseDupsNodup _).map fun _ _ same => Json.string.inj same

def Reordered (found found' : IssueMap) : Prop :=
  ∃ between, List.Forall₂ (fun e e' => e.1 = e'.1 ∧ e.2.Perm e'.2) found between ∧ between.Perm found'

theorem reorderedIssues (same : Reordered found found') : found.issues.Perm found'.issues ∧ found.length = found'.length := by
  obtain ⟨between, paired, turned⟩ := same
  refine ⟨List.Perm.trans ?_ (turned.flatMap_right _), paired.length_eq.trans turned.length_eq⟩
  clear turned
  induction paired with
  | nil => rfl
  | cons head _ ih => exact head.2.append ih

def summary (r : Report) : Json := Json.member (membersOf r.toJson) "summary"

theorem summaryShown (r : Report) : r.summary = .object [("total", ofCount r.total), ("files", ofCount r.files),
    ("by_severity", .object [("error", ofCount r.errors), ("warning", ofCount r.warnings)]),
    ("by_rule", .object (r.rules.map fun rule => (codeName rule.1, ofCount rule.2)))] := rfl

structure Adds (names : List Letters) (r : Report) : Prop where
  total : r.total = r.issues.length
  severities : r.errors + r.warnings = r.issues.length
  errors : r.errors = r.issues.countP fun i => i.severity = .error
  rules : (r.rules.map Prod.snd).sum = r.issues.length
  files : r.files = {file | ∃ i ∈ r.issues, i.file = file}.ncard
  ordered : names.Pairwise (· < ·)
  occurring : ∀ code, (∃ i ∈ r.issues, i.code = code) ↔ ∃ name ∈ names, code = .string name
  counted : r.rules = names.map fun name => (.string name, r.issues.countP fun i => i.code.sameKey (.string name))
  shown : r.summary = .object [("total", ofCount r.issues.length), ("files", ofCount r.files),
    ("by_severity", .object [("error", ofCount r.errors), ("warning", ofCount r.warnings)]),
    ("by_rule", .object (names.map fun name => (name, ofCount (r.issues.countP fun i => i.code.sameKey (.string name)))))]

theorem namesCount (named : Named issues) (name : Letters) :
    (namesOf issues).count name = issues.countP fun i => i.code.sameKey (.string name) := by
  rw [namesOf, List.count, List.countP_map]
  refine List.countP_congr fun i mem => ?_
  rw [Json.sameKeyText, Function.comp, beq_iff_eq, named i mem, Json.string.injEq]
  rfl

theorem buildAdds (workspace : String) (now : DateTime) (named : Named found.issues)
    (distinct : (found.map Prod.fst).Nodup) (filed : ∀ entry ∈ found, entry.2 ≠ [] ∧ ∀ i ∈ entry.2, i.file = entry.1) :
    ∃ r, build workspace now found = .ok r ∧ r.issues = found.issues ∧ Adds (ruleNames (namesOf found.issues)) r := by
  refine ⟨_, buildNamed named, rfl, ?_⟩
  constructor
  case total => exact severitiesSum _
  case severities => exact severitiesSum _
  case errors => rfl
  case rules =>
    rw [rulesOf, List.map_map]
    exact (rulesSum _).trans (by simp [namesOf])
  case files => exact (filesCount distinct filed).symm
  case ordered => exact rulesRise
  case occurring =>
    intro code
    simp only [ruleMem, namesOf, List.mem_map]
    constructor
    · rintro ⟨i, mem, rfl⟩
      exact ⟨_, ⟨i, mem, rfl⟩, named i mem⟩
    · rintro ⟨_, ⟨i, mem, rfl⟩, rfl⟩
      exact ⟨i, mem, named i mem⟩
  case counted => exact List.map_congr_left fun name _ => by rw [namesCount named]
  case shown =>
    simp only [← namesCount named]
    rw [summaryShown, rulesOf, List.map_map]
    exact congrArg (fun n => Json.object [("total", ofCount n), _, _, _]) (severitiesSum _)

theorem summaryReordered (workspace : String) (now : DateTime) (named : Named found.issues) (same : Reordered found found') :
    ∃ r r', build workspace now found = .ok r ∧ build workspace now found' = .ok r' ∧ r'.summary = r.summary := by
  obtain ⟨issues, files⟩ := reorderedIssues same
  have named' : Named found'.issues := fun i mem => named i (issues.mem_iff.mpr mem)
  have names : (namesOf found.issues).Perm (namesOf found'.issues) := issues.map _
  have rules : rulesOf (namesOf found'.issues) = rulesOf (namesOf found.issues) := by
    rw [rulesOf, rulesOf, rulesReordered names]
    exact List.map_congr_left fun name _ => by rw [names.count_eq]
  refine ⟨_, _, buildNamed named, buildNamed named', ?_⟩
  have errors : countSeverity .error found'.issues = countSeverity .error found.issues := issues.symm.countP_eq _
  have warnings : countSeverity .warning found'.issues = countSeverity .warning found.issues := issues.symm.countP_eq _
  rw [rules, errors, warnings, ← files]
  rfl

/-- The report of mapped results has all their issues in order, and its counts agree with these and with each other. Its summary is
that of the same issues in any order of files and of the issues of a file. -/
theorem reportAdds (workspace : String) (now : DateTime) (proper : ∀ result ∈ listed, IsEntry result)
    (given : ∀ result ∈ listed, ∀ message ∈ sentBy result, IsRule (Json.member (membersOf message) "ruleId")) :
    ∃ found r names, ofResults (.array listed) = .ok found ∧ build workspace now found = .ok r ∧ r.issues = found.issues ∧
      Adds names r ∧ ∀ found', Reordered found found' → ∃ r', build workspace now found' = .ok r' ∧ r'.summary = r.summary := by
  have named := entriesNamed given
  obtain ⟨r, built, issues, adds⟩ := buildAdds workspace now named (entriesDistinct listed) entriesFiled
  refine ⟨entriesOf listed, r, _, foldEntries proper, built, issues, adds, fun found' same => ?_⟩
  obtain ⟨first, second, built', again, summary⟩ := summaryReordered workspace now named same
  rw [built] at built'
  cases built'
  exact ⟨second, again, summary⟩

theorem ledgerRules : ∀ result ∈ ledger, ∀ message ∈ sentBy result, IsRule (Json.member (membersOf message) "ruleId") := by
  have unruled (line column : Int) : ∀ message ∈ sentBy (complaint line column),
      IsRule (Json.member (membersOf message) "ruleId") := by
    intro message mem
    obtain rfl := List.mem_singleton.mp mem
    exact .inl rfl
  simp only [ledger, List.forall_mem_cons, List.not_mem_nil, false_imp_iff, forall_const, and_true]
  refine ⟨unruled 1 1, fun message mem => ?_, fun _ mem => absurd mem List.not_mem_nil, unruled 2 0⟩
  rcases List.mem_pair.mp mem with rfl | rfl
  · exact .inl rfl
  · exact .inr ⟨"r", rfl⟩

theorem ledgerAdds : (∀ result ∈ ledger, IsEntry result) ∧
    (∀ result ∈ ledger, ∀ message ∈ sentBy result, IsRule (Json.member (membersOf message) "ruleId")) ∧
    ∃ found r names, ofResults (.array ledger) = .ok found ∧ build "/p" default found = .ok r ∧ Adds names r ∧ r.total = 3 := by
  obtain ⟨found, r, names, mapped, built, issues, adds, _⟩ := reportAdds "/p" default ledgerProper ledgerRules
  refine ⟨ledgerProper, ledgerRules, found, r, names, mapped, built, adds, ?_⟩
  have three : (entriesOf ledger).issues.length = 3 := by decide +kernel
  rw [adds.total, issues, ← three, Except.ok.inj (mapped.symm.trans (resultsEntries ledgerProper))]

end Report

end AccessFix
