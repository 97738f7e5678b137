import AccessFix.Lint
import AccessFix.Proofs.Files
import AccessFix.Proofs.Json.Read

/-! What a run of the linter comes to, by the status and the output of its process. -/
namespace AccessFix.Lint

inductive Failure : LintFault → Prop where
  | notStarted (command reason : Letters) : Failure (.notStarted command reason)
  | fatal (status : Int) (detail : Letters) : Failure (.fatal status detail)
  | notJson (reason : String) : Failure (.notJson reason)
  | notList : Failure .notList

inductive Lists : LintOutcome → List Json → Prop where
  | nothing {status : Int} {errors : Letters} (calm : status = 0 ∨ status = 1) : Lists (.ended status [] errors) []
  | array {status : Int} {output errors : Letters} {listed : List Json} (calm : status = 0 ∨ status = 1)
      (text : Json.read output = .ok (.array listed)) : Lists (.ended status output errors) listed

def Signalled : LintOutcome → Prop
  | .ended status _ _ => status < 0
  | _ => False

def Nested (output : Letters) : Prop := ∃ innermost rest, Json.read output = .error ⟨.tooDeep innermost, rest⟩

/-- What is no failure of the linter, although it gives no results: words that start nothing, output that is no text, and
output that is nested too deep. -/
inductive Unread : LintOutcome → Prop where
  | refused (reason : Letters) : Unread (.refused reason)
  | undecodable (fault : Text.Utf8.Fault) : Unread (.undecodable fault)
  | nested {status : Int} {output : Letters} (errors : Letters) (calm : status < fatalStatus) (deep : Nested output) :
      Unread (.ended status output errors)

theorem readNothing : Json.read [] = .error ⟨.value, []⟩ := rfl

theorem parseNothing : parse [] = .ok [] := rfl

theorem parseOk {output : Letters} {listed : List Json} :
    parse output = .ok listed ↔ output = [] ∧ listed = [] ∨ Json.read output = .ok (.array listed) := by
  by_cases none : output = []
  · subst none
    simp [parseNothing, readNothing, eq_comm]
  · simp only [parse, List.isEmpty_eq_false_iff.mpr none, none, Bool.false_eq_true, if_false]
    split <;> simp_all

theorem parseError {output : Letters} {f : LintFault} (failed : parse output = .error f) : Failure f ↔ ¬Nested output := by
  by_cases none : output = []
  · subst none
    cases failed
  · simp only [parse, List.isEmpty_eq_false_iff.mpr none, Bool.false_eq_true, if_false] at failed
    split at failed
    · rename_i innermost rest deep
      cases failed
      exact iff_of_false nofun (not_not.mpr ⟨innermost, rest, deep⟩)
    · rename_i other read
      cases failed
      refine iff_of_true (.notJson _) ?_
      rintro ⟨innermost, rest, deep⟩
      rw [read] at deep
      cases deep
      exact other innermost rest rfl
    · cases failed
    · rename_i read
      cases failed
      refine iff_of_true .notList ?_
      rintro ⟨innermost, rest, deep⟩
      rw [read] at deep
      cases deep

variable {s : LintSettings}

theorem resultsOk {outcome : LintOutcome} (ended : ¬Signalled outcome) {listed : List Json} :
    results s outcome = .ok listed ↔ Lists outcome listed := by
  constructor
  · intro ok
    cases outcome with
    | failed reason => cases ok
    | refused reason => cases ok
    | undecodable fault => cases ok
    | ended status output errors =>
      simp only [results] at ok
      split at ok
      · cases ok
      · rename_i calm
        have status : status = 0 ∨ status = 1 := by
          simp only [Signalled] at ended
          simp only [fatalStatus] at calm
          omega
        rcases parseOk.mp ok with ⟨rfl, rfl⟩ | text
        · exact .nothing status
        · exact .array status text
  · intro lists
    cases lists with
    | nothing calm =>
      rw [results, if_neg (by simp only [fatalStatus]; omega), parseNothing]
    | array calm text =>
      rw [results, if_neg (by simp only [fatalStatus]; omega), parseOk]
      exact .inr text

theorem resultsError {outcome : LintOutcome} {f : LintFault} (failed : results s outcome = .error f) :
    Failure f ↔ ¬Unread outcome := by
  cases outcome with
  | failed reason =>
    cases failed
    exact iff_of_true (.notStarted _ _) nofun
  | refused reason =>
    cases failed
    exact iff_of_false nofun (not_not.mpr (.refused reason))
  | undecodable fault =>
    cases failed
    exact iff_of_false nofun (not_not.mpr (.undecodable fault))
  | ended status output errors =>
    simp only [results] at failed
    split at failed
    · rename_i fatal
      cases failed
      refine iff_of_true (.fatal _ _) ?_
      rintro (_ | _ | ⟨_, calm, _⟩)
      exact absurd fatal (not_le.mpr calm)
    · rename_i calm
      rw [parseError failed, not_iff_not]
      refine ⟨.nested errors (not_le.mp calm), ?_⟩
      rintro (_ | _ | ⟨_, _, deep⟩)
      exact deep

theorem resultsWritable {outcome : LintOutcome} {listed : List Json} (ok : results s outcome = .ok listed) :
    ∀ v ∈ listed, v.isWritable = true := by
  cases outcome with
  | failed reason => cases ok
  | refused reason => cases ok
  | undecodable fault => cases ok
  | ended status output errors =>
    simp only [results] at ok
    split at ok
    · cases ok
    · rcases parseOk.mp ok with ⟨-, rfl⟩ | read
      · exact fun _ mem => nomatch mem
      · exact Json.arrayWritable.mp (Json.readWritable read)

theorem runWritable {files : Files} {answer : LintCall → LintOutcome} {root : String} {listed : List Json}
    (ok : (run files answer s root).2 = .ok listed) : ∀ v ∈ listed, v.isWritable = true := by
  unfold run at ok
  split at ok
  · cases ok
  · exact resultsWritable ok
  · cases ok

theorem runResults {files : Files} {root : String} (folder : files.find? (Path.normal root) = .ok (some .folder))
    (answer : LintCall → LintOutcome) (s : LintSettings) :
    (run files answer s root).2 = results s (answer (call s root)) := by
  rw [run, folder]

theorem unusableRefusal {files : Files} {answer : LintCall → LintOutcome} {root : String} {f : FileFault}
    (failed : (run files answer s root).2 = .error (.unusable f)) : f.fault.isRefusal = true := by
  unfold run at failed
  split at failed
  · rename_i found
    cases failed
    exact Files.findRefusal found
  · change results s _ = _ at failed
    unfold results at failed
    split at failed
    · cases failed
    · cases failed
    · cases failed
    · split at failed
      · cases failed
      · unfold parse at failed
        split at failed <;> cases failed
  · cases failed

/-- A linter that is started in an existing folder and ends by itself gives results exactly where it lists them, and those.
Without results it has failed, exactly unless it is left unread. -/
theorem runLists {files : Files} {root : String} (folder : files.find? (Path.normal root) = .ok (some .folder))
    (answer : LintCall → LintOutcome) (s : LintSettings) :
    let outcome := answer (call s root)
    let ran := (run files answer s root).2
    (¬Signalled outcome → ∀ listed, ran = .ok listed ↔ Lists outcome listed) ∧
      ∀ f, ran = .error f → (Failure f ↔ ¬Unread outcome) := by
  intro outcome result
  rw [show result = results s outcome from runResults folder answer s]
  exact ⟨fun ended listed => resultsOk ended, fun f failed => resultsError failed⟩

def ground : Files := { nodes := [(["p"], .folder)], here := ["p"] }

theorem groundListed : (run ground (fun _ => .ended 1 "[7]" []) {} "/p").2 = .ok [.ofInt 7] := by
  have folder : ground.find? (Path.normal "/p") = .ok (some .folder) := by decide
  have ended : ¬Signalled (.ended 1 "[7]" []) := by simp [Signalled]
  exact ((runLists folder _ _).1 ended _).mpr (.array (.inr rfl) rfl)

theorem groundSilent : ground.find? (Path.normal "/p") = .ok (some .folder) ∧
    (run ground (fun _ => .ended 0 [] []) {} "/p").2 = .ok [] ∧ ∀ listed, Json.read [] ≠ .ok (.array listed) :=
  ⟨by decide, rfl, fun _ => nofun⟩

end AccessFix.Lint
