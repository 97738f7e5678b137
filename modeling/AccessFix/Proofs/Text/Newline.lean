import AccessFix.Document
import AccessFix.Proofs.Fallible

/-! Texts with carriage returns and the same texts with line feeds in their place. A place in the unified text is a place in
the original; what stands between two places of the one is, unified, what stands between the two of the other. -/
namespace AccessFix.Text

theorem unifyReturn {rest : Letters} (alone : ∀ tail, rest ≠ Letter.char '\n' :: tail) :
    unifyNewlines ('\r' :: rest) = Letter.char '\n' :: unifyNewlines rest := by
  rw [unifyNewlines.eq_def]
  split
  · contradiction
  · rename_i tail same
    simp only [List.cons.injEq, true_and] at same
    exact absurd same (alone tail)
  · rename_i same
    simp only [List.cons.injEq, true_and] at same
    rw [same]
  · rename_i other same
    simp only [List.cons.injEq] at same
    exact absurd same.1.symm other

theorem unifyNoReturn (cs : Letters) : Letter.char '\r' ∉ unifyNewlines cs := by
  fun_induction unifyNewlines cs with
  | case1 => simp
  | case2 rest ih => simpa using ih
  | case3 rest _ ih => simpa using ih
  | case4 c rest _ other ih => simpa [ih, eq_comm] using other

theorem unifySame {cs : Letters} (free : Letter.char '\r' ∉ cs) : unifyNewlines cs = cs := by
  fun_induction unifyNewlines cs with
  | case1 => rfl
  | case2 rest ih => simp at free
  | case3 rest _ ih => simp at free
  | case4 c rest _ _ ih => rw [ih fun there => free (by simp [there])]

theorem unifyChanges {cs : Letters} : unifyNewlines cs = cs ↔ Letter.char '\r' ∉ cs :=
  ⟨fun same => same ▸ unifyNoReturn cs, unifySame⟩

def placeIn : Letters → Nat → Nat
  | _, 0 => 0
  | [], _ + 1 => 0
  | '\r' :: '\n' :: rest, n + 1 => placeIn rest n + 2
  | _ :: rest, n + 1 => placeIn rest n + 1

theorem unifyTake (cs : Letters) (n : Nat) : unifyNewlines (cs.take (placeIn cs n)) = (unifyNewlines cs).take n := by
  fun_induction placeIn cs n with
  | case1 => simp [unifyNewlines]
  | case2 => simp [unifyNewlines]
  | case3 rest n ih => simp [unifyNewlines, ih]
  | case4 c rest n other ih =>
    rw [List.take_succ_cons]
    by_cases back : c = '\r'
    · subst back
      have alone : ∀ tail, rest ≠ Letter.char '\n' :: tail := fun tail same => other tail rfl same
      have still : ∀ tail, rest.take (placeIn rest n) ≠ Letter.char '\n' :: tail := by
        intro tail same
        cases rest with
        | nil => simp at same
        | cons d rest =>
          cases place : placeIn (d :: rest) n with
          | zero => simp [place] at same
          | succ k =>
            rw [place, List.take_succ_cons, List.cons.injEq] at same
            exact alone rest (by rw [same.1])
      rw [unifyReturn still, unifyReturn alone, ih, List.take_succ_cons]
    · simp [unifyNewlines, back, ih]

theorem unifyDrop (cs : Letters) (n : Nat) : unifyNewlines (cs.drop (placeIn cs n)) = (unifyNewlines cs).drop n := by
  fun_induction placeIn cs n with
  | case1 => simp
  | case2 => simp [unifyNewlines]
  | case3 rest n ih => simp [unifyNewlines, ih]
  | case4 c rest n other ih =>
    rw [List.drop_succ_cons, ih]
    by_cases back : c = '\r'
    · subst back
      have alone : ∀ tail, rest ≠ Letter.char '\n' :: tail := fun tail same => other tail rfl same
      rw [unifyReturn alone, List.drop_succ_cons]
    · simp [unifyNewlines]

theorem placeInside (cs : Letters) (n : Nat) : placeIn cs n ≤ cs.length := by
  fun_induction placeIn cs n with
  | case1 => simp
  | case2 => simp
  | case3 rest n ih => simpa using ih
  | case4 c rest n _ ih => simpa using ih

theorem placeAdd (cs : Letters) (a b : Nat) :
    placeIn cs (a + b) = placeIn cs a + placeIn (cs.drop (placeIn cs a)) b := by
  fun_induction placeIn cs a with
  | case1 => simp
  | case2 n => cases b <;> simp [placeIn]
  | case3 rest n ih =>
    have next : n + 1 + b = (n + b) + 1 := by omega
    rw [next, placeIn, ih, List.drop_succ_cons, List.drop_succ_cons]
    omega
  | case4 c rest n other ih =>
    have next : n + 1 + b = (n + b) + 1 := by omega
    rw [next, placeIn, ih, List.drop_succ_cons]
    · omega
    · exact other

theorem placeRising {cs : Letters} {a b : Nat} (rising : a ≤ b) : placeIn cs a ≤ placeIn cs b := by
  obtain ⟨more, rfl⟩ := Nat.exists_eq_add_of_le rising
  rw [placeAdd]
  exact Nat.le_add_right _ _

theorem unifySlice {cs : Letters} {a b : Nat} (rising : a ≤ b) :
    unifyNewlines (Document.slice cs (placeIn cs a) (placeIn cs b)) = Document.slice (unifyNewlines cs) a b := by
  obtain ⟨more, rfl⟩ := Nat.exists_eq_add_of_le rising
  rw [Document.slice, Document.slice, placeAdd, Nat.add_sub_cancel_left, Nat.add_sub_cancel_left, unifyTake, unifyDrop]

theorem unifyCut (cs : Letters) (a b : Nat) :
    unifyNewlines (Document.slice cs (placeIn cs a) (placeIn cs b)) = Document.slice (unifyNewlines cs) a b := by
  rcases Nat.le_total a b with rising | falling
  · exact unifySlice rising
  · have back := @placeRising cs b a falling
    rw [Document.slice, Document.slice, Nat.sub_eq_zero_of_le falling, Nat.sub_eq_zero_of_le back, List.take_zero, List.take_zero]
    rfl

end AccessFix.Text
