import AccessFix.Findings
import AccessFix.IssueStore
import AccessFix.Proofs.Fallible
import AccessFix.Proofs.Keys

/-! Issues by file. What is collected from results lists no file twice and none without issues, so publishing it sets every
entry of a cleared store once, in the order of the mapping. -/
namespace AccessFix
open Fallible

namespace IssueMap

variable {m : IssueMap} {file p : Json} {issues : List Issue}

theorem getCons (e : Json × List Issue) : get? (e :: m) p = if e.1.sameKey p then some e.2 else m.get? p := by
  simp only [get?, List.find?_cons]
  cases e.1.sameKey p <;> rfl

theorem getInsert (key : p.isKey = true) : (m.insert file issues).get? p = if file.sameKey p then some issues else m.get? p := by
  induction m with
  | nil => rw [insert, getCons]
  | cons e rest ih =>
    simp only [insert]
    split
    · rename_i same
      rw [getCons, getCons, Json.sameKeyAlike key same]
      split <;> rfl
    · rename_i other
      rw [getCons, getCons, ih]
      by_cases first : e.1.sameKey p = true
      · have apart : ¬file.sameKey p = true := fun second => other (Json.sameKeyMeet key first second)
        rw [if_pos first, if_neg apart, if_pos first]
      · rw [if_neg first, if_neg first]

theorem getInserted (key : p.isKey = true) : (m.insert p issues).get? p = some issues := by
  rw [getInsert key, if_pos (Json.sameKeySelf key)]

theorem getInsertOther (key : p.isKey = true) (other : ¬file.sameKey p = true) : (m.insert file issues).get? p = m.get? p := by
  rw [getInsert key, if_neg other]

theorem getErase (key : p.isKey = true) : (m.erase file).get? p = if file.sameKey p then none else m.get? p := by
  induction m with
  | nil => simp [erase, get?]
  | cons e rest ih =>
    have tail : get? (List.filter (fun e => !e.1.sameKey file) rest) p = if file.sameKey p then none else get? rest p := ih
    rw [erase, List.filter_cons]
    split
    · rename_i other
      rw [getCons, getCons, tail]
      by_cases first : e.1.sameKey p = true
      · have apart : ¬file.sameKey p = true := fun second => by simp [Json.sameKeyMeet key first second] at other
        rw [if_pos first, if_neg apart, if_pos first]
      · rw [if_neg first, if_neg first]
    · rename_i same
      have alike : e.1.sameKey p = file.sameKey p := Json.sameKeyAlike key (by simpa using same)
      rw [tail, getCons, alike]
      split <;> rfl

structure Listed (m : IssueMap) : Prop where
  apart : (m.map Prod.fst).Pairwise fun a b => a.sameKey b = false
  keys : ∀ file ∈ m.map Prod.fst, file.isKey = true
  filled : ∀ entry ∈ m, entry.2 ≠ []

theorem insertNew (new : ∀ f ∈ m.map Prod.fst, f.sameKey file = false) : m.insert file issues = m ++ [(file, issues)] := by
  induction m with
  | nil => rfl
  | cons entry rest ih =>
    obtain ⟨here, later⟩ := List.forall_mem_cons.mp new
    simp only [insert, here, Bool.false_eq_true, if_false, ih later, List.cons_append]

theorem insertOld (old : ∃ f ∈ m.map Prod.fst, f.sameKey file = true) :
    (m.insert file issues).map Prod.fst = m.map Prod.fst := by
  induction m with
  | nil => simp at old
  | cons entry rest ih =>
    simp only [insert]
    split
    · rfl
    · rename_i other
      rw [List.map_cons, List.exists_mem_cons_iff] at old
      rw [List.map_cons, List.map_cons, ih (old.resolve_left other)]

theorem insertEach {P : List Issue → Prop} (new : P issues) (old : ∀ entry ∈ m, P entry.2) :
    ∀ entry ∈ m.insert file issues, P entry.2 := by
  induction m with
  | nil => simpa [insert] using new
  | cons entry rest ih =>
    obtain ⟨here, later⟩ := List.forall_mem_cons.mp old
    simp only [insert]
    split
    · exact List.forall_mem_cons.mpr ⟨new, later⟩
    · exact List.forall_mem_cons.mpr ⟨here, ih later⟩

theorem insertListed (listed : Listed m) (key : file.isKey = true) (some : issues ≠ []) :
    Listed (m.insert file issues) := by
  obtain ⟨apart, keys, filled⟩ := listed
  have filled' : ∀ entry ∈ m.insert file issues, entry.2 ≠ [] := insertEach (P := (· ≠ [])) some filled
  by_cases old : ∃ f ∈ m.map Prod.fst, f.sameKey file = true
  · have same : (m.insert file issues).map Prod.fst = m.map Prod.fst := insertOld old
    exact ⟨same ▸ apart, same ▸ keys, filled'⟩
  · have new : ∀ f ∈ m.map Prod.fst, f.sameKey file = false := by simpa using old
    have more : (m.insert file issues).map Prod.fst = m.map Prod.fst ++ [file] := by
      rw [insertNew new, List.map_append, List.map_singleton]
    refine ⟨?_, ?_, filled'⟩
    · rw [more, List.pairwise_append]
      exact ⟨apart, List.pairwise_singleton _ _, fun f mem g last => List.mem_singleton.mp last ▸ new f mem⟩
    · rw [more]
      exact List.forall_mem_append.mpr ⟨keys, List.forall_mem_singleton.mpr key⟩

theorem getListed (listed : Listed m) {entry : Json × List Issue} (mem : entry ∈ m) : m.get? entry.1 = some entry.2 := by
  obtain ⟨before, after, rfl⟩ := List.append_of_mem mem
  have self := Json.sameKeySelf (listed.keys entry.1 (by simp))
  have apart := listed.apart
  rw [List.map_append, List.map_cons, List.pairwise_append] at apart
  have earlier : before.find? (fun e => e.1.sameKey entry.1) = none :=
    List.find?_eq_none.mpr fun e there => by
      simp [apart.2.2 e.1 (List.mem_map_of_mem there) entry.1 (by simp)]
  rw [get?, List.find?_append, earlier, Option.none_or, List.find?_cons, self]
  rfl

end IssueMap

namespace Findings
open IssueMap

theorem addListed {found more : IssueMap} {result : Json} (listed : Listed found) (ok : add found result = .ok more) :
    Listed more := by
  obtain ⟨members, _, ok⟩ := bindOk.mp ok
  obtain ⟨messages, _, ok⟩ := bindOk.mp ok
  obtain ⟨issues, _, ok⟩ := bindOk.mp ok
  split at ok
  · rwa [← pureOk.mp ok]
  · rename_i some
    split at ok
    · exact absurd ok throwOk
    · rename_i key
      rw [← pureOk.mp ok]
      exact insertListed listed (by simpa using key) (by simpa using some)

theorem resultsListed {results : Json} {found : IssueMap} (ok : ofResults results = .ok found) : Listed found := by
  obtain ⟨items, _, ok⟩ := bindOk.mp ok
  exact foldlMKeeps (fun _ _ _ _ => addListed) ⟨by simp, by simp, by simp⟩ ok

end Findings

namespace IssueStore
open IssueMap

theorem setNew {s : IssueStore} {file : Json} {issues : List Issue} (some : issues ≠ [])
    (new : ∀ f ∈ s.paths, f.sameKey file = false) :
    s.set file issues = { s with entries := s.entries ++ [(file, issues)] } := by
  have filled : issues.isEmpty = false := by simpa using some
  simp only [set, filled, Bool.false_eq_true, if_false, insertNew new]

theorem setAbsent {s : IssueStore} {file : Json} (new : ∀ f ∈ s.paths, f.sameKey file = false) : s.set file [] = s := by
  have same : s.entries.erase file = s.entries :=
    List.filter_eq_self.mpr fun e mem => by simp [new e.1 (List.mem_map_of_mem mem)]
  simp only [set, List.isEmpty_nil, if_true, same]

theorem publishFrom (s : IssueStore) {rest : IssueMap}
    (apart : ((s.entries ++ rest).map Prod.fst).Pairwise fun a b => a.sameKey b = false) :
    rest.foldl (fun s e => s.set e.1 e.2) s = { s with entries := s.entries ++ rest.filter (!·.2.isEmpty) } := by
  -- on the entries left to set; those with issues that are set are the entries of the store
  induction rest generalizing s with
  | nil => simp
  | cons entry rest ih =>
    have parts := apart
    rw [List.map_append, List.map_cons, List.pairwise_append, List.pairwise_cons] at parts
    obtain ⟨before, ⟨_, after⟩, between⟩ := parts
    have new : ∀ f ∈ s.paths, f.sameKey entry.1 = false := fun f mem => between f mem entry.1 List.mem_cons_self
    rw [List.foldl_cons]
    by_cases none : entry.2 = []
    · have apart' : ((s.entries ++ rest).map Prod.fst).Pairwise fun a b => a.sameKey b = false := by
        rw [List.map_append, List.pairwise_append]
        exact ⟨before, after, fun f mem g later => between f mem g (List.mem_cons_of_mem _ later)⟩
      rw [none, setAbsent new, ih s apart', List.filter_cons_of_neg (by simp [none])]
    · rw [setNew none new, ih _ (by simpa using apart), List.filter_cons_of_pos (by simpa using none)]
      simp

theorem publishApart (s : IssueStore) {m : IssueMap} (apart : (m.map Prod.fst).Pairwise fun a b => a.sameKey b = false) :
    s.publish m = { s with entries := m.filter (!·.2.isEmpty) } :=
  publishFrom s.clear apart

theorem publishListed (s : IssueStore) {found : IssueMap} (listed : Listed found) :
    s.publish found = { s with entries := found } := by
  rw [publishApart s listed.apart, List.filter_eq_self.mpr fun e mem => by simpa using listed.filled e mem]

end IssueStore

end AccessFix
