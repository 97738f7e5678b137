import AccessFix.Proofs.Extension.Check

/-! What commands of an extension leave as it was: all but what is stored and told, and without arguments the workspace. An
extension that has been initialised answers the fix command by a run that writes, and offers fixes only. -/
namespace AccessFix.Extension

theorem runCheckWorkspace (t : Surroundings) (w : Workspace) (e : Extension) : (e.runCheck t w).workspace = w := by
  have ends := runCheckEnds t w e
  generalize e.runCheck t w = ran at ends
  cases ends <;> rfl

def Unmoved (e e' : Extension) : Prop := ∃ store notices, e' = { e with store := store, notices := notices }

theorem runCheckUnmoved (t : Surroundings) (w : Workspace) (e : Extension) : Unmoved e (e.runCheck t w).extension := by
  have ends := runCheckEnds t w e
  generalize e.runCheck t w = ran at ends
  cases ends with
  | noFolder closed => exact ⟨_, _, rfl⟩
  | failed opened fault trace => exact ⟨_, _, rfl⟩
  | published opened answered understood trace => exact ⟨_, _, rfl⟩

theorem executeUnmoved (t : Surroundings) (w : Workspace) (e : Extension) (name : String) (args : List Argument) :
    Unmoved e (execute t w e name args).extension := by
  simp only [execute]
  split
  · exact ⟨_, _, rfl⟩
  · split
    · exact runCheckUnmoved t w e
    · exact ⟨_, _, rfl⟩
  · simp only [Ran.map, executeFix]
    split
    · exact ⟨_, _, rfl⟩
    · split <;> exact ⟨_, _, rfl⟩
    · exact ⟨_, _, rfl⟩
  · exact ⟨_, _, rfl⟩

theorem executeBare (t : Surroundings) (w : Workspace) (e : Extension) (name : String) :
    (execute t w e name []).workspace = w := by
  simp only [execute]
  split
  · rfl
  · exact runCheckWorkspace t w e
  · rfl
  · rfl

structure Ready (e : Extension) : Prop where
  fixes : e.handler? fixCommand = some .fix
  writes : e.fixer.applier = .write true
  offers : ∀ r ∈ e.providers, r.provider = .fixes

theorem initReady {config : Config} {root : Option String} {e : Extension}
    (ok : (new config).init root = (.ok (), e)) : Ready e := by
  cases ok
  exact ⟨rfl, rfl, fun r mem => by rw [List.mem_singleton.mp mem]⟩

theorem executeFixing {t : Surroundings} {w : Workspace} {e : Extension} (ready : Ready e) (id : BufferId) (issue : Issue) :
    execute t w e fixCommand [.document id, .issue issue] = Ran.map .state (e.runFix t w id issue) := by
  simp only [execute, ready.fixes, executeFix]

end AccessFix.Extension
