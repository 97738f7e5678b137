import AccessFix.Proofs.Edit.Newlines
import AccessFix.Proofs.Text.Unified

/-! Documents that are saved and opened again. They come back with line feeds in place of their line breaks and with the lines
that they had: the same positions have a place in them, and what a range covers is what it covered, unified. -/
namespace AccessFix
open Text Fallible

inductive Number.Unified (text : Letters) : Number → Number → Prop where
  | place (n : Nat) : Unified text (.int n) (.int (placeIn text n))
  | real (x y) : Unified text (.real x) (.real y)

namespace Document

variable {d u : Document}

theorem lineCountUnified (same : u.text = unifyNewlines d.text) : u.lineCount = d.lineCount := by
  rw [lineCount, lines, same, linesUnified, List.length_map]
  rfl

theorem offsetInUnified {text : Letters} {l : Nat} (inside : l < (linesOf text).length) {character : Number}
    (forward : character.less 0 = false) :
    Number.Unified text (offsetIn (linesOf (unifyNewlines text)) l character) (offsetIn (linesOf text) l character) := by
  have free := lineContent text _ (List.getElem_mem inside)
  have content : trimNewline ((linesOf (unifyNewlines text))[l]?.getD []) = trimNewline (linesOf text)[l] := by
    rw [linesUnified, List.getElem?_map, List.getElem?_eq_getElem inside, Option.map_some, Option.getD_some, trimUnified,
      unifySame free]
  have found : ∀ column : Nat, column ≤ (trimNewline (linesOf text)[l]).length → Number.Unified text
      (.int (column + ((linesOf (unifyNewlines text)).take l).flatten.length : Nat))
      (.int (column + ((linesOf text).take l).flatten.length : Nat)) := by
    intro column short
    rw [← placeLine inside short]
    exact .place _
  simp only [offsetIn, content, List.getElem?_eq_getElem inside, Option.getD_some]
  generalize (trimNewline (linesOf text)[l]).length = length at found ⊢
  cases character with
  | int c =>
    obtain ⟨c, rfl⟩ := Int.eq_ofNat_of_zero_le (Number.forwardInt forward)
    rw [Number.leastInt]
    exact_mod_cast found (min c length) (Nat.min_le_right _ _)
  | real x =>
    rw [Number.least]
    split
    · exact_mod_cast found length le_rfl
    · exact .real _ _

inductive PlacedAlike (p : Position) (text : Letters) :
    Except PositionFault (Option Number) → Except PositionFault (Option Number) → Prop where
  | negative (f g) (negative : p.Negative) : PlacedAlike p text (.error f) (.error g)
  | notInteger : PlacedAlike p text (.error .notInteger) (.error .notInteger)
  | beyond : PlacedAlike p text (.ok none) (.ok none)
  | inside {m n} (unified : Number.Unified text m n) : PlacedAlike p text (.ok (some m)) (.ok (some n))

theorem placeUnified (same : u.text = unifyNewlines d.text) (p : Position) : PlacedAlike p d.text (u.place p) (d.place p) := by
  have count : u.lines.length = d.lines.length := lineCountUnified same
  obtain ⟨line, character⟩ := p
  simp only [place, count]
  split
  · rename_i negative
    exact .negative _ _ (by simpa [Position.Negative] using negative)
  · rename_i forward
    simp only [Bool.or_eq_true, not_or, Bool.not_eq_true] at forward
    split
    · exact .beyond
    · rename_i before
      cases line with
      | real x => exact .notInteger
      | int line =>
        have positive := Number.forwardInt forward.1
        have short : ¬(d.lines.length : Int) ≤ line := by simpa [Number.atMostInt] using before
        have inside : line.toNat < (linesOf d.text).length := by
          rw [lines] at short
          omega
        rw [lines, lines, same]
        exact .inside (offsetInUnified inside forward.2)

theorem refusedUnified (same : u.text = unifyNewlines d.text) (p : Position) :
    (∃ f, u.offsetAt p = .error f) ↔ ∃ f, d.offsetAt p = .error f := by
  have placed := placeUnified same p
  rw [offsetAt, offsetAt]
  generalize u.place p = found, d.place p = found' at placed
  cases placed with
  | negative f g => exact iff_of_true ⟨f, rfl⟩ ⟨g, rfl⟩
  | notInteger => exact Iff.rfl
  | beyond => exact iff_of_true ⟨_, rfl⟩ ⟨_, rfl⟩
  | inside unified => exact iff_of_false (by simp [bind, Except.bind, pure, Except.pure]) (by simp [bind, Except.bind, pure, Except.pure])

theorem clampedUnified (same : u.text = unifyNewlines d.text) {p : Position} (forward : ¬p.Negative) :
    (u.clampedOffset p = .error .notInteger ∧ d.clampedOffset p = .error .notInteger) ∨
      ∃ m n, u.clampedOffset p = .ok m ∧ d.clampedOffset p = .ok n ∧ Number.Unified d.text m n := by
  have placed := placeUnified same p
  rw [clampedOffset, clampedOffset]
  generalize u.place p = found, d.place p = found' at placed
  cases placed with
  | negative f g negative => exact absurd negative forward
  | notInteger => exact .inl ⟨rfl, rfl⟩
  | beyond =>
    refine .inr ⟨_, _, rfl, rfl, ?_⟩
    rw [Option.getD_none, Option.getD_none, same, ← placeEnd d.text]
    exact .place _
  | inside unified => exact .inr ⟨_, _, rfl, rfl, unified⟩

theorem cutUnified {text : Letters} {start start' stop stop' : Number} (first : Number.Unified text start start')
    (last : Number.Unified text stop stop') : cut (unifyNewlines text) start stop = (cut text start' stop').map unifyNewlines := by
  cases first with
  | real x y => cases last <;> rfl
  | place a =>
    cases last with
    | real x y => rfl
    | place b => exact congrArg Except.ok (unifyCut text a b).symm

theorem readUnified (same : u.text = unifyNewlines d.text) {r : Range} (start : ¬r.start.Negative) (stop : ¬r.stop.Negative) :
    u.read r = (d.read r).map unifyNewlines := by
  rw [read, read]
  rcases clampedUnified same start with ⟨left, right⟩ | ⟨m, n, left, right, first⟩
  · rw [left, right]
    rfl
  · rw [left, right, okBind, okBind]
    rcases clampedUnified same stop with ⟨left, right⟩ | ⟨m', n', left, right, last⟩
    · rw [left, right]
      rfl
    · rw [left, right, okBind, okBind, same]
      exact cutUnified first last

/-! From the buffer to the file and back. -/

theorem savedUnified {files files' : Files} (plain : Path.Plain files.here) (saved : d.save files = (.ok (), files')) {file : String}
    (leads : Path.resolve files.here file = Path.resolve files.here d.path) (opened : ofFile files' file = .ok u) :
    u.text = unifyNewlines d.text := by
  obtain ⟨octets, route, coded, target, rfl⟩ := saveOk.mp saved
  obtain ⟨_, _, same⟩ := bindOk.mp opened
  have path : u.path = Path.ofRoute (Path.resolve files.here file) := by
    rw [← pureOk.mp same]
    rfl
  -- an opened document has a resolved path, which leads where the path it was opened under leads
  have there : Path.resolve files.here u.path = route := by
    rw [path, Path.resolveOfRoute (Path.resolvePlain plain file), target.resolved]
    exact leads
  refine openedUnified opened ⟨octets, coded, ?_⟩
  rw [show Path.resolve (files.holding route octets).here u.path = route from there,
    Files.nodeHolding target.routeNamed, if_pos rfl]

theorem savedOpens {files files' : Files} (saved : d.save files = (.ok (), files')) {file : String}
    (leads : Path.resolve files.here file = Path.resolve files.here d.path) {route : Route} (plain : Path.Plain route)
    (path : d.path = Path.ofRoute route) : ∃ u, ofFile files' file = .ok u := by
  obtain ⟨octets, coded, wrote⟩ := Files.writeTextOk.mp saved
  rw [path, Path.resolveOfRoute plain, (Files.writeSame wrote).here] at leads
  rw [path, Path.normalOfRoute plain] at wrote
  have text : files'.readText (Path.ofRoute route) = .ok (unifyNewlines d.text) := by
    obtain ⟨decoded, whole⟩ := decodeCoded coded
    rw [Files.readText, Files.readWritten wrote]
    simp only [decoded, whole]
  exact ⟨_, bindOk.mpr ⟨_, by rw [leads]; exact text, rfl⟩⟩

theorem readForward {r : Range} {snippet : Letters} (ok : d.read r = .ok snippet) : ¬r.start.Negative ∧ ¬r.stop.Negative := by
  obtain ⟨_, start, ok⟩ := bindOk.mp ok
  obtain ⟨_, stop, _⟩ := bindOk.mp ok
  obtain ⟨_, first, _⟩ := clampedOffsetOk.mp start
  obtain ⟨_, last, _⟩ := clampedOffsetOk.mp stop
  exact ⟨placeForward first, placeForward last⟩

structure SameLines (d u : Document) : Prop where
  lineCount : u.lineCount = d.lineCount
  refused : ∀ p, (∃ f, u.offsetAt p = .error f) ↔ ∃ f, d.offsetAt p = .error f
  read : ∀ r : Range, ¬r.start.Negative → ¬r.stop.Negative → u.read r = (d.read r).map unifyNewlines
  snippet : ∀ line character line' character' : Nat, ∃ snippet,
    d.read ⟨.ofInts line character, .ofInts line' character'⟩ = .ok snippet ∧
      u.read ⟨.ofInts line character, .ofInts line' character'⟩ = .ok (unifyNewlines snippet)

theorem sameLinesUnified {u : Document} (same : u.text = unifyNewlines d.text) : SameLines d u := by
  refine ⟨lineCountUnified same, refusedUnified same, fun r => readUnified same, fun line character line' character' => ?_⟩
  obtain ⟨snippet, ok⟩ := (@readInts d line character line' character').mpr (by omega)
  obtain ⟨start, stop⟩ := readForward ok
  exact ⟨snippet, ok, by rw [readUnified same start stop, ok]; rfl⟩

/-- A document whose text is read back from the file that it was saved to has the lines that it had. Under a path that is
resolved, as opening gives it, the file opens. -/
theorem savedReopened (d : Document) :
    (∀ u : Document, u.text = unifyNewlines d.text → SameLines d u) ∧
      ∀ files files' file, Path.Plain files.here → d.save files = (.ok (), files') →
        Path.resolve files.here file = Path.resolve files.here d.path →
        (∀ u, ofFile files' file = .ok u → u.text = unifyNewlines d.text) ∧
          ∀ route, Path.Plain route → d.path = Path.ofRoute route → ∃ u, ofFile files' file = .ok u :=
  ⟨fun _ => sameLinesUnified, fun _ _ _ plain saved leads =>
    ⟨fun _ opened => savedUnified plain saved leads opened, fun _ resolved path => savedOpens saved leads resolved path⟩⟩

def draft : Document := ⟨"/p/A.jsx", ['a', '\r', '\n', 'b', '\r'], "javascriptreact", "file"⟩

def draftFolder : Files := { nodes := [(["p"], .folder)], here := ["p"] }

theorem draftReopened : ∃ files' u, draft.save draftFolder = (.ok (), files') ∧ ofFile files' "A.jsx" = .ok u ∧
    u.text = [Letter.char 'a', Letter.char '\n', Letter.char 'b', Letter.char '\n'] ∧ SameLines draft u := by
  have saved : draft.save draftFolder = (.ok (), draftFolder.holding ["p", "A.jsx"] [97, 13, 10, 98, 13]) := rfl
  obtain ⟨alike, reopened⟩ := savedReopened draft
  obtain ⟨read, opens⟩ := reopened draftFolder _ "A.jsx" (by decide) saved (by decide)
  obtain ⟨u, opened⟩ := opens ["p", "A.jsx"] (by decide) (by decide)
  have text := read u opened
  exact ⟨_, u, saved, opened, text, alike u text⟩

end Document

end AccessFix
