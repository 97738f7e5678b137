import AccessFix.Edit
import Mathlib

/-! Replacements collected into an edit, in the order they come. Under every path stands one group: of the document that came
first with that path, with all replacements under the path in the order they came. -/
namespace AccessFix

structure Replacement (buffers : Buffers) where
  document : Fin buffers.length
  edit : TextEdit

variable {buffers : Buffers}

def Replacement.path (r : Replacement buffers) : String := buffers[r.document].path

def own (path : String) (rs : List (Replacement buffers)) : List (Replacement buffers) :=
  rs.filter fun r => r.path = path

def ownEdits (path : String) (rs : List (Replacement buffers)) : List TextEdit := (own path rs).map Replacement.edit

structure Gathered (rs : List (Replacement buffers)) (g : EditGroup) : Prop where
  first : ∃ r, (own g.path rs).head? = some r ∧ g.buffer = r.document
  edits : g.edits = ownEdits g.path rs

namespace WorkspaceEdit

def collect (rs : List (Replacement buffers)) : WorkspaceEdit :=
  rs.foldl (fun e r => replace r.path r.document r.edit e) .empty

structure Collected (rs : List (Replacement buffers)) (e : WorkspaceEdit) : Prop where
  distinct : (e.map EditGroup.path).Nodup
  gathered : ∀ g ∈ e, Gathered rs g
  whole : ∀ r ∈ rs, r.path ∈ e.map EditGroup.path

variable {path : String} {buffer : BufferId} {edit : TextEdit} {e : WorkspaceEdit}

theorem replacePaths : (replace path buffer edit e).map EditGroup.path =
    if path ∈ e.map EditGroup.path then e.map EditGroup.path else e.map EditGroup.path ++ [path] := by
  induction e with
  | nil => simp [replace]
  | cons g rest ih =>
    simp only [replace]
    by_cases here : g.path = path
    · simp [here]
    · simp only [here, if_false, List.map_cons, ih, List.mem_cons, Ne.symm here, false_or]
      split <;> rfl

theorem replaceMem (distinct : (e.map EditGroup.path).Nodup) {g : EditGroup} (mem : g ∈ replace path buffer edit e) :
    (g ∈ e ∧ g.path ≠ path) ∨ (∃ old ∈ e, old.path = path ∧ g = { old with edits := old.edits ++ [edit] }) ∨
      (path ∉ e.map EditGroup.path ∧ g = ⟨path, buffer, [edit]⟩) := by
  induction e with
  | nil => exact .inr (.inr ⟨by simp, List.mem_singleton.mp mem⟩)
  | cons head rest ih =>
    rw [List.map_cons, List.nodup_cons] at distinct
    simp only [replace] at mem
    split at mem
    · rename_i here
      rcases List.mem_cons.mp mem with rfl | later
      · exact .inr (.inl ⟨head, by simp, here, rfl⟩)
      · -- paths are distinct, so no later group has the path of the one that has changed
        refine .inl ⟨by simp [later], fun same => distinct.1 ?_⟩
        rw [here, ← same]
        exact List.mem_map_of_mem later
    · rename_i other
      rcases List.mem_cons.mp mem with rfl | later
      · exact .inl ⟨by simp, other⟩
      · rcases ih distinct.2 later with ⟨there, differ⟩ | ⟨old, there, same⟩ | ⟨absent, new⟩
        · exact .inl ⟨by simp [there], differ⟩
        · exact .inr (.inl ⟨old, by simp [there], same⟩)
        · exact .inr (.inr ⟨by simp [absent, Ne.symm other], new⟩)

variable {rs : List (Replacement buffers)} {r : Replacement buffers} {g : EditGroup}

theorem ownSame (same : r.path = path) : own path (rs ++ [r]) = own path rs ++ [r] := by simp [own, same]

theorem ownOther (differ : r.path ≠ path) : own path (rs ++ [r]) = own path rs := by simp [own, differ]

theorem gatheredOther (gathered : Gathered rs g) (differ : r.path ≠ g.path) : Gathered (rs ++ [r]) g := by
  obtain ⟨first, edits⟩ := gathered
  exact ⟨by rwa [ownOther differ], by rwa [ownEdits, ownOther differ]⟩

theorem gatheredOwn (gathered : Gathered rs g) (same : r.path = g.path) :
    Gathered (rs ++ [r]) { g with edits := g.edits ++ [r.edit] } := by
  obtain ⟨⟨head, first, document⟩, edits⟩ := gathered
  refine ⟨⟨head, ?_, document⟩, ?_⟩
  · rw [ownSame same, List.head?_append, first, Option.some_or]
  · rw [ownEdits, ownSame same, List.map_append, edits]
    rfl

theorem gatheredFirst (absent : ∀ q ∈ rs, q.path ≠ r.path) :
    Gathered (rs ++ [r]) ⟨r.path, r.document, [r.edit]⟩ := by
  have none : own r.path rs = [] := List.filter_eq_nil_iff.mpr (by simpa using absent)
  exact ⟨⟨r, by simp [ownSame, none], rfl⟩, by simp [ownEdits, ownSame, none]⟩

theorem replaceCollected (collected : Collected rs e) (r : Replacement buffers) :
    Collected (rs ++ [r]) (replace r.path r.document r.edit e) := by
  refine ⟨?_, ?_, ?_⟩
  · rw [replacePaths]
    split
    · exact collected.distinct
    · rename_i absent
      exact List.nodup_append.mpr ⟨collected.distinct, by simp, by simpa using absent⟩
  · intro g mem
    rcases replaceMem collected.distinct mem with ⟨there, differ⟩ | ⟨old, there, same, rfl⟩ | ⟨absent, rfl⟩
    · exact gatheredOther (collected.gathered g there) (Ne.symm differ)
    · exact gatheredOwn (collected.gathered old there) same.symm
    · exact gatheredFirst fun q there same => absent (same ▸ collected.whole q there)
  · intro q mem
    rw [replacePaths]
    rcases List.mem_append.mp mem with before | last
    · have there := collected.whole q before
      split <;> simp [there]
    · rw [List.mem_singleton.mp last]
      split <;> simp_all

theorem collectCollected (rs : List (Replacement buffers)) : Collected rs (collect rs) := by
  induction rs using List.reverseRecOn with
  | nil => exact ⟨by simp [collect, empty], by simp [collect, empty], by simp⟩
  | append_singleton rs r ih =>
    have step := replaceCollected ih r
    rwa [collect, List.foldl_append]

/-! The documents of the groups. -/

theorem gatheredOpened (gathered : Gathered rs g) : ∃ d, buffers[g.buffer]? = some d ∧ d.path = g.path := by
  obtain ⟨⟨first, head, document⟩, _⟩ := gathered
  have under := List.of_mem_filter (List.mem_of_mem_head? head)
  exact ⟨buffers[first.document], by simp [document], of_decide_eq_true under⟩

theorem collectDocuments (rs : List (Replacement buffers)) : ((collect rs).map EditGroup.buffer).Nodup := by
  have collected := collectCollected rs
  refine List.Nodup.map_on ?_ (List.Nodup.of_map _ collected.distinct)
  intro g here h there same
  obtain ⟨d, opened, path⟩ := gatheredOpened (collected.gathered g here)
  obtain ⟨d', opened', path'⟩ := gatheredOpened (collected.gathered h there)
  rw [same, opened', Option.some.injEq] at opened
  subst opened
  exact List.inj_on_of_nodup_map collected.distinct here there (path.symm.trans path')

end WorkspaceEdit

end AccessFix
