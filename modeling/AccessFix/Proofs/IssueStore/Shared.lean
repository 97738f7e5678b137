import AccessFix.Proofs.Document
import AccessFix.Proofs.IssueStore

/-! Which issues of a file are at a range: those whose own range shares a position with it. Between whole positions the order
of positions goes through a position of whatever numbers, so that two ranges of whole positions intersect exactly where some
position is in both; then the later of their starts is. -/
namespace AccessFix
open Extended

namespace Number

variable {a : Int} {n : Number}

theorem sameKeyFrom : (int a).sameKey n = true ↔ n.value? = some (ofRat a) := by
  rw [sameKeyClass, eq_comm, valueClass, toClass]

theorem sameKeyTo : n.sameKey (int a) = true ↔ n.value? = some (ofRat a) := by rw [sameKeyClass, valueClass, toClass]

theorem atMostFrom : (int a).atMost n = true ↔ ∃ v, n.value? = some v ∧ ofRat a ≤ v := by
  simp [atMostValue, show (int a).value? = some (ofRat a) from rfl]

theorem atMostTo : n.atMost (int a) = true ↔ ∃ v, n.value? = some v ∧ v ≤ ofRat a := by
  simp [atMostValue, show (int a).value? = some (ofRat a) from rfl]

end Number

namespace Position

variable {line character : Int} {p q : Position}

theorem atMostIff : p.atMost q = true ↔ p.line.sameKey q.line = true ∧
    (p.character.sameKey q.character = true ∨ p.character.atMost q.character = true) ∨
    p.line.sameKey q.line ≠ true ∧ p.line.atMost q.line = true := by
  unfold atMost
  by_cases lines : p.line.sameKey q.line = true
  · by_cases characters : p.character.sameKey q.character = true <;> simp [lines, characters]
  · simp [lines]

theorem atMostFrom (atMost : (ofInts line character).atMost p = true) : ∃ v, p.line.value? = some v ∧
    (ofRat line < v ∨ ofRat line = v ∧ ∃ w, p.character.value? = some w ∧ ofRat character ≤ w) := by
  rcases atMostIff.mp atMost with ⟨lines, characters⟩ | ⟨apart, lines⟩
  · refine ⟨_, Number.sameKeyFrom.mp lines, .inr ⟨rfl, ?_⟩⟩
    rcases characters with same | characters
    · exact ⟨_, Number.sameKeyFrom.mp same, le_rfl⟩
    · exact Number.atMostFrom.mp characters
  · obtain ⟨v, valued, le⟩ := Number.atMostFrom.mp lines
    refine ⟨v, valued, .inl (lt_of_le_of_ne le ?_)⟩
    rintro rfl
    exact apart (Number.sameKeyFrom.mpr valued)

theorem atMostTo (atMost : p.atMost (ofInts line character) = true) : ∃ v, p.line.value? = some v ∧
    (v < ofRat line ∨ v = ofRat line ∧ ∃ w, p.character.value? = some w ∧ w ≤ ofRat character) := by
  rcases atMostIff.mp atMost with ⟨lines, characters⟩ | ⟨apart, lines⟩
  · refine ⟨_, Number.sameKeyTo.mp lines, .inr ⟨rfl, ?_⟩⟩
    rcases characters with same | characters
    · exact ⟨_, Number.sameKeyTo.mp same, le_rfl⟩
    · exact Number.atMostTo.mp characters
  · obtain ⟨v, valued, le⟩ := Number.atMostTo.mp lines
    refine ⟨v, valued, .inl (lt_of_le_of_ne le ?_)⟩
    rintro rfl
    exact apart (Number.sameKeyTo.mpr valued)

theorem atMostThrough (whole : p.Whole) (whole' : q.Whole) {between : Position} (first : p.atMost between = true)
    (second : between.atMost q = true) : p.atMost q = true := by
  obtain ⟨line, character, rfl⟩ := whole
  obtain ⟨line', character', rfl⟩ := whole'
  obtain ⟨v, valued, first⟩ := atMostFrom first
  obtain ⟨v', valued', second⟩ := atMostTo second
  cases valued.symm.trans valued'
  have order {a b : Int} : ofRat a < ofRat b ↔ a < b := ofRatLess.trans Int.cast_lt
  have order' {a b : Int} : ofRat a ≤ ofRat b ↔ a ≤ b := by rw [← not_lt, order, not_lt]
  rw [atMostInts, decide_eq_true_eq]
  rcases first with first | ⟨rfl, w, told, low⟩
  · exact .inl (order.mp (first.trans_le (second.elim le_of_lt fun same => same.1.le)))
  · rcases second with second | ⟨second, w', told', high⟩
    · exact .inl (order.mp second)
    · cases told.symm.trans told'
      exact .inr ⟨le_antisymm (order'.mp second.le) (order'.mp second.ge), order'.mp (low.trans high)⟩

theorem atMostTotal (whole : p.Whole) (whole' : q.Whole) : p.atMost q = true ∨ q.atMost p = true := by
  obtain ⟨line, character, rfl⟩ := whole
  obtain ⟨line', character', rfl⟩ := whole'
  simp only [atMostInts, decide_eq_true_eq]
  omega

theorem atMostSelf (whole : p.Whole) : p.atMost p = true := (atMostTotal whole whole).elim id id

end Position

namespace Range

variable {a b : Range}

structure Proper (r : Range) : Prop where
  start : r.start.Whole
  stop : r.stop.Whole
  ordered : r.start.atMost r.stop = true

def Meets (a b : Range) : Prop := ∃ p, a.contains p = true ∧ b.contains p = true

theorem containsIff {p : Position} : a.contains p = true ↔ a.start.atMost p = true ∧ p.atMost a.stop = true :=
  Bool.and_eq_true_iff

theorem intersectsIff : a.intersects b = true ↔ a.start.atMost b.stop = true ∧ b.start.atMost a.stop = true :=
  Bool.and_eq_true_iff

theorem startMeets (proper : a.Proper) (proper' : b.Proper) (intersects : a.intersects b = true) :
    ∃ p, (p = a.start ∨ p = b.start) ∧ a.contains p = true ∧ b.contains p = true := by
  obtain ⟨first, second⟩ := intersectsIff.mp intersects
  rcases Position.atMostTotal proper.start proper'.start with before | behind
  · exact ⟨b.start, .inr rfl, containsIff.mpr ⟨before, second⟩,
      containsIff.mpr ⟨Position.atMostSelf proper'.start, proper'.ordered⟩⟩
  · exact ⟨a.start, .inl rfl, containsIff.mpr ⟨Position.atMostSelf proper.start, proper.ordered⟩,
      containsIff.mpr ⟨behind, first⟩⟩

theorem meetsIntersect (proper : a.Proper) (proper' : b.Proper) (meets : a.Meets b) : a.intersects b = true := by
  obtain ⟨p, here, there⟩ := meets
  obtain ⟨start, stop⟩ := containsIff.mp here
  obtain ⟨start', stop'⟩ := containsIff.mp there
  exact intersectsIff.mpr ⟨Position.atMostThrough proper.start proper'.stop start stop',
    Position.atMostThrough proper'.start proper.stop start' stop⟩

theorem intersectsMeets (proper : a.Proper) (proper' : b.Proper) : a.intersects b = true ↔ a.Meets b := by
  refine ⟨fun intersects => ?_, meetsIntersect proper proper'⟩
  obtain ⟨p, -, both⟩ := startMeets proper proper' intersects
  exact ⟨p, both⟩

end Range

namespace IssueStore
open Classical

/-- Two ranges intersect exactly where a position is in both, of which a whole one is then. So the issues of a file at a range
are, in their order, those whose range shares a position with it. -/
theorem issuesShared : (∀ a b : Range, a.Proper → b.Proper → (a.intersects b = true ↔ a.Meets b) ∧
      (a.Meets b → ∃ p : Position, p.Whole ∧ a.contains p = true ∧ b.contains p = true)) ∧
    ∀ (s : IssueStore) (path : String) (r : Range), r.Proper → (∀ i ∈ s.get (.string path), i.range.Proper) →
      s.issuesAt (.string path) r = (s.get (.string path)).filter fun i => i.range.Meets r := by
  refine ⟨fun a b proper proper' => ⟨Range.intersectsMeets proper proper', fun meets => ?_⟩, fun s path r proper stored => ?_⟩
  · obtain ⟨p, start, both⟩ := Range.startMeets proper proper' (Range.meetsIntersect proper proper' meets)
    refine ⟨p, ?_, both⟩
    rcases start with rfl | rfl
    · exact proper.start
    · exact proper'.start
  · refine List.filter_congr fun i mem => ?_
    rw [Bool.eq_iff_iff, decide_eq_true_iff]
    exact Range.intersectsMeets (stored i mem) proper

def stretch (first last : Int) : Range := ⟨.ofInts 2 first, .ofInts 2 last⟩

theorem stretchProper {first last : Int} (ordered : first ≤ last) : (stretch first last).Proper :=
  ⟨⟨2, first, rfl⟩, ⟨2, last, rfl⟩, by simpa [stretch, Position.atMostInts] using ordered⟩

def mark (first last : Int) : Issue :=
  ⟨.string "A.jsx", stretch first last, .string "m", .error, toolName, .string "r"⟩

def marks : IssueStore := ⟨"marks", [(.string "A.jsx", [mark 4 6, mark 0 3])]⟩

theorem marksShared : (stretch 0 3).Meets (stretch 3 3) ∧
    ((marks.get (.string "A.jsx")).filter fun i => i.range.Meets (stretch 3 3)) = [mark 0 3] := by
  have proper : (stretch 3 3).Proper := stretchProper le_rfl
  have stored : ∀ i ∈ marks.get (.string "A.jsx"), i.range.Proper := by
    intro i mem
    change i ∈ [mark 4 6, mark 0 3] at mem
    simp only [List.mem_cons, List.not_mem_nil, or_false] at mem
    rcases mem with rfl | rfl
    · exact stretchProper (by decide)
    · exact stretchProper (by decide)
  exact ⟨(issuesShared.1 _ _ (stretchProper (by decide)) proper).1.mp (by decide),
    (issuesShared.2 marks "A.jsx" (stretch 3 3) proper stored).symm⟩

end IssueStore

end AccessFix
