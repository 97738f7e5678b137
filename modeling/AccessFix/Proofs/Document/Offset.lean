import AccessFix.Proofs.Document

/-! Where positions lead in a text. Offsets rise with positions, beyond the end of a line and below the last line too; so what is
read up to a position and what is read from it on make up what is read across it. -/
namespace AccessFix
open Text Fallible

def Position.Counts (p : Position) : Prop := ∃ line column : Nat, p = .ofInts line column

namespace Document

variable {d : Document}

theorem lineStartNext (l : Nat) : d.lineStart (l + 1) = d.lineStart l + (d.lines[l]?.getD []).length := by
  rw [lineStart, List.take_add_one, List.flatten_append, List.length_append]
  cases d.lines[l]? <;> simp [lineStart]

theorem lineStartRises {l l' : Nat} (order : l ≤ l') : d.lineStart l ≤ d.lineStart l' :=
  (List.Sublist.flatten (List.take_sublist_take_left order)).length_le

theorem lineStartEnd {l : Nat} (below : d.lineCount ≤ l) : d.lineStart l = d.text.length := by
  rw [lineStart, List.take_of_length_le below, lines, linesOfFlatten]

theorem spotBefore (l column : Nat) : d.spot l column ≤ d.lineStart (l + 1) := by
  have short : d.lineWidth l ≤ (d.lines[l]?.getD []).length := trimNewlineLength _
  rw [lineStartNext, spot]
  omega

theorem spotRises {l l' column column' : Nat} (order : l < l' ∨ l = l' ∧ column ≤ column') :
    d.spot l column ≤ d.spot l' column' := by
  rcases order with above | ⟨rfl, before⟩
  · calc d.spot l column ≤ d.lineStart (l + 1) := spotBefore l column
      _ ≤ d.lineStart l' := lineStartRises above
      _ ≤ d.spot l' column' := Nat.le_add_left _ _
  · exact Nat.add_le_add_right (min_le_min_right _ before) _

theorem spotEnd {l : Nat} (below : d.lineCount ≤ l) (column : Nat) : d.spot l column = d.text.length := by
  have nothing : d.lineWidth l = 0 := by
    rw [lineWidth, List.getElem?_eq_none below]
    rfl
  rw [spot, nothing, lineStartEnd below, Nat.min_zero, Nat.zero_add]

theorem clampedNat (l column : Nat) : d.clampedOffset (.ofInts l column) = .ok (.int (d.spot l column)) := by
  rw [clampedOffset, placeNat, okBind]
  split
  · rfl
  · rename_i below
    rw [spotEnd (not_lt.mp below)]
    rfl

theorem readNat (l column l' column' : Nat) : d.read ⟨.ofInts l column, .ofInts l' column'⟩ =
    .ok (slice d.text (d.spot l column) (d.spot l' column')) := by
  rw [read, clampedNat, clampedNat]
  rfl

theorem sliceJoin (text : Letters) {a b c : Nat} (first : a ≤ b) (second : b ≤ c) :
    slice text a b ++ slice text b c = slice text a c := by
  have front : slice text a b = (slice text a c).take (b - a) := by
    rw [slice, slice, List.take_take, Nat.min_eq_left (by omega)]
  have back : slice text b c = (slice text a c).drop (b - a) := by
    rw [slice, slice, List.drop_take, List.drop_drop, Nat.add_sub_cancel' first, Nat.sub_sub_sub_cancel_right first]
  rw [front, back, List.take_append_drop]

theorem orderNat {l column l' column' : Nat} (order : (Position.ofInts l column).atMost (.ofInts l' column') = true) :
    d.spot l column ≤ d.spot l' column' := by
  rw [Position.atMostInts, decide_eq_true_eq] at order
  exact spotRises (by omega)

/-- What two ranges cover that meet in a position is what is covered from the beginning of the first to the end of the second.
The whole text is what is covered from its beginning to a line below the last one. -/
theorem readJoins (d : Document) :
    (∀ p q r : Position, p.Counts → q.Counts → r.Counts → p.atMost q = true → q.atMost r = true →
      ∃ first second, d.read ⟨p, q⟩ = .ok first ∧ d.read ⟨q, r⟩ = .ok second ∧ d.read ⟨p, r⟩ = .ok (first ++ second)) ∧
    ∀ n : Nat, d.lineCount ≤ n → d.read ⟨.ofInts 0 0, .ofInts n 0⟩ = .ok d.text := by
  refine ⟨?_, ?_⟩
  · rintro _ _ _ ⟨l, column, rfl⟩ ⟨l', column', rfl⟩ ⟨l'', column'', rfl⟩ first second
    refine ⟨_, _, readNat l column l' column', readNat l' column' l'' column'', ?_⟩
    rw [readNat, sliceJoin d.text (orderNat first) (orderNat second)]
  · intro n below
    have whole := @readNat d 0 0 n 0
    have start : d.spot 0 0 = 0 := by simp [spot, lineStart]
    rw [start, spotEnd below, slice, List.drop_zero, Nat.sub_zero, List.take_length] at whole
    exact whole

def leaf : Document := ⟨"/p/A.jsx", ['a', '\r', '\n', 'b', '\u0085'], "javascriptreact", "file"⟩

theorem leafJoins : ∃ first second, leaf.read ⟨.ofInts 0 0, .ofInts 0 7⟩ = .ok first ∧
    leaf.read ⟨.ofInts 0 7, .ofInts 9 0⟩ = .ok second ∧ leaf.read ⟨.ofInts 0 0, .ofInts 9 0⟩ = .ok (first ++ second) ∧
    first = ['a'] := by
  obtain ⟨first, second, here, there, whole⟩ := (readJoins leaf).1 (.ofInts 0 0) (.ofInts 0 7) (.ofInts 9 0)
    ⟨0, 0, rfl⟩ ⟨0, 7, rfl⟩ ⟨9, 0, rfl⟩ (by decide) (by decide)
  refine ⟨first, second, here, there, whole, ?_⟩
  have known : leaf.read ⟨.ofInts 0 0, .ofInts 0 7⟩ = .ok ['a'] := by decide
  rw [known, Except.ok.injEq] at here
  exact here.symm

end Document

end AccessFix
