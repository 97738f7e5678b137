import AccessFix.Extension
import AccessFix.Proofs.IssueStore

/-! How a check ends. The store is published to as the last thing, when the linter's answer has been understood as a whole;
until then it is as it was. -/
namespace AccessFix.Extension

variable {t : Surroundings} {w : Workspace} {e : Extension}

inductive CheckEnd (t : Surroundings) (w : Workspace) (e : Extension) : Ran (Option IssueMap) → Prop where
  | noFolder (closed : e.root? = none) : CheckEnd t w e ⟨.ok none, e.notify .error noFolderText, w, {}⟩
  | failed {root} (opened : e.root? = some root) (fault : CommandFault) (trace : Trace) :
      CheckEnd t w e ⟨.error fault, e, w, trace⟩
  | published {root results found} (opened : e.root? = some root)
      (answered : (Lint.run w.files t.lint e.config.lintSettings root).2 = .ok results)
      (understood : Findings.ofResults (.array results) = .ok found) (trace : Trace) :
      CheckEnd t w e ⟨.ok (some found), { e with store := { e.store with entries := found } }, w, trace⟩

theorem runCheckEnds (t : Surroundings) (w : Workspace) (e : Extension) : CheckEnd t w e (e.runCheck t w) := by
  simp only [runCheck]
  split
  · rename_i closed
    exact .noFolder closed
  · rename_i root opened
    split
    · exact .failed opened _ _
    · rename_i results answered
      split
      · exact .failed opened _ _
      · rename_i found understood
        rw [IssueStore.publishListed e.store (Findings.resultsListed understood)]
        exact .published opened answered understood _

theorem runCheckPublishes (t : Surroundings) (w : Workspace) (e : Extension) :
    (∀ found, (e.runCheck t w).result = .ok (some found) →
      (e.runCheck t w).extension.store = { e.store with entries := found } ∧
      (e.runCheck t w).extension.store.paths = found.map Prod.fst ∧
      ∀ entry ∈ found, entry.2 ≠ [] ∧ (e.runCheck t w).extension.store.get entry.1 = entry.2) ∧
    ((∀ found, (e.runCheck t w).result ≠ .ok (some found)) → (e.runCheck t w).extension.store = e.store) := by
  have ends := runCheckEnds t w e
  generalize e.runCheck t w = ran at ends
  cases ends with
  | noFolder closed => exact ⟨fun _ never => (nomatch never), fun _ => rfl⟩
  | failed opened fault trace => exact ⟨fun _ never => (nomatch never), fun _ => rfl⟩
  | @published root results found opened answered understood trace =>
    refine ⟨fun other same => ?_, fun never => absurd rfl (never found)⟩
    cases same
    have listed := Findings.resultsListed understood
    refine ⟨rfl, rfl, fun entry mem => ⟨listed.filled entry mem, ?_⟩⟩
    rw [IssueStore.get, IssueMap.getListed listed mem]
    rfl

end AccessFix.Extension
