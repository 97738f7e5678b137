import AccessFix.Proofs.Config.Load

/-! Settings and their sections as mappings. Null stands for an empty mapping, and so do the values that are void: what is neither
of these nor a mapping is refused, first the settings as a whole, then one section after the other. -/
namespace AccessFix
open Fallible

inductive Value.Void (heap : Heap) : Value → Prop where
  | falsehood : Void heap (.bool false)
  | zero {n : Number} (value : n.value? = some (Extended.ofRat 0)) : Void heap (.number n)
  | text : Void heap (.string [])
  | octets : Void heap (.octets [])
  | collection {id : Nat} (empty : (heap.get id).items = []) : Void heap (.collection id)

theorem Number.isZeroValue {n : Number} : n.isZero = true ↔ n.value? = some (Extended.ofRat 0) := by
  cases n with
  | int n => simp [isZero, value?, Extended.ofRat]
  | real x =>
    cases x with
    | nan mark => simp [isZero, Double.isZero, value?, Double.value?]
    | infinite negative =>
      refine iff_of_false Bool.false_ne_true fun same => ?_
      cases negative with
      | false => exact (Extended.lessGreatest 0).ne' (Option.some.inj same)
      | true => exact (Extended.leastLess 0).ne (Option.some.inj same)
    | finite negative m e =>
      have power : (2 : ℚ) ^ e ≠ 0 := by positivity
      cases negative <;> simp [isZero, Double.isZero, value?, Double.value?, Extended.ofRat, power]

theorem Collection.isEmptyItems (c : Collection) : c.isEmpty = true ↔ c.items = [] := by
  cases c <;> simp [isEmpty, items]

variable {heap : Heap} {v : Value}

theorem absentVoid : heap.isPresent v = false ↔ v = .null ∨ v.Void heap := by
  cases v with
  | null => simp [Heap.isPresent]
  | bool b =>
    cases b with
    | false => exact iff_of_true rfl (.inr .falsehood)
    | true => exact iff_of_false nofun (by rintro (same | void) <;> contradiction)
  | number n =>
    rw [Heap.isPresent, Bool.not_eq_false', Number.isZeroValue]
    exact ⟨fun zero => .inr (.zero zero), fun | .inr (.zero zero) => zero⟩
  | string s =>
    simp only [Heap.isPresent, Bool.not_eq_false', List.isEmpty_iff]
    exact ⟨fun none => .inr (none ▸ .text), fun | .inr .text => rfl⟩
  | octets bs =>
    simp only [Heap.isPresent, Bool.not_eq_false', List.isEmpty_iff]
    exact ⟨fun none => .inr (none ▸ .octets), fun | .inr .octets => rfl⟩
  | collection id =>
    rw [Heap.isPresent, Bool.not_eq_false', Collection.isEmptyItems]
    exact ⟨fun empty => .inr (.collection empty), fun | .inr (.collection empty) => empty⟩
  | _ => exact iff_of_false nofun (by rintro (same | void) <;> contradiction)

inductive ConfigFault.OfMapping : ConfigFault → Prop where
  | whole (path : String) : OfMapping (.notMapping path)
  | part (name path : String) : OfMapping (.sectionNotMapping name path)

namespace Config

def Foreign (heap : Heap) (v : Value) : Prop := v ≠ .null ∧ heap.entries? v = none

variable {files : Files} {outerKey : Letters} {path name : String} {required : Bool} {data : Data} {octets : List UInt8}
  {entries : List (Value × Value)} {f : ConfigFault}

theorem foreignPresent (foreign : Foreign heap v) : heap.isPresent v = true ↔ ¬v.Void heap := by
  rw [← Bool.not_eq_false, absentVoid, or_iff_right foreign.1]

/-! Where settings are refused. -/

theorem rootForeign (foreign : Foreign data.heap data.root) :
    root path data = .error (.config (.notMapping path)) ↔ ¬data.root.Void data.heap := by
  rw [← foreignPresent foreign]
  unfold root
  cases data.heap.isPresent data.root <;> simp [foreign.2]

theorem rootVoid (void : data.root.Void data.heap) : root path data = .ok ⟨data.heap, []⟩ := by
  rw [root, absentVoid.mpr (.inr void)]
  rfl

theorem entriesSome : heap.entries? v = some entries ↔ ∃ id, v = .collection id ∧ heap.get id = .map entries := by
  unfold Heap.entries?
  split
  · rename_i id
    simp only [Value.collection.injEq, exists_eq_left']
    split <;> simp_all
  · rename_i other
    exact iff_of_false nofun fun ⟨id, same, _⟩ => other id same

theorem rootEntries (mapping : data.heap.entries? data.root = some entries) : root path data = .ok ⟨data.heap, entries⟩ := by
  unfold root
  cases present : data.heap.isPresent data.root with
  | true => simp [mapping]
  | false =>
    obtain ⟨id, here, content⟩ := entriesSome.mp mapping
    have empty : (data.heap.get id).isEmpty = true := by simpa [here, Heap.isPresent] using present
    rw [content] at empty
    rw [List.isEmpty_iff.mp empty]
    rfl

def Refused (part : Part) (name : String) : Prop := ∃ v, part.get? name = some v ∧ Foreign part.heap v ∧ ¬v.Void part.heap

theorem presentSome {part : Part} {name : Letters} :
    part.present? name = some v ↔ part.get? name = some v ∧ part.heap.isPresent v = true := Option.filter_eq_some_iff

theorem partError {part : Part} :
    part.part? name path = .error f ↔ f = .sectionNotMapping name path ∧ Refused part name := by
  constructor
  · intro failed
    unfold Part.part? at failed
    split at failed
    · cases failed
    · rename_i v given
      obtain ⟨given, present⟩ := presentSome.mp given
      cases entries : part.heap.entries? v with
      | none =>
        rw [entries] at failed
        cases failed
        have null : v ≠ .null := by
          rintro rfl
          cases present
        exact ⟨rfl, v, given, ⟨null, entries⟩, (foreignPresent ⟨null, entries⟩).mp present⟩
      | some es =>
        rw [entries] at failed
        cases failed
  · rintro ⟨rfl, v, given, foreign, full⟩
    rw [Part.part?, presentSome.mpr ⟨given, (foreignPresent foreign).mpr full⟩]
    simp [foreign.2]

theorem mappingFault (mapping : f.OfMapping) : (converted outerKey path data >>= checked) = .error (.config f) ↔
    sections path data = .error (.config f) := by
  unfold converted
  cases sections path data with
  | error fault => simp [bind, Except.bind]
  | ok parts =>
    obtain ⟨model, lint⟩ := parts
    refine iff_of_false (fun failed => ?_) nofun
    rcases bindError.mp failed with unconverted | ⟨config, _, unchecked⟩
    · obtain ⟨fault, _, same⟩ := mapErrorError.mp unconverted
      unfold LoadFault.ofValue at same
      split at same <;> cases same
      cases mapping
    · rcases bindError.mp unchecked with invalid | ⟨_, _, never⟩
      · obtain ⟨fault, invalid, same⟩ := mapErrorError.mp invalid
        unfold validate at invalid
        split at invalid <;> cases invalid
        cases same
        cases mapping
      · cases never

theorem sectionsRefused (mapping : data.heap.entries? data.root = some entries) :
    sections path data = .error (.config f) ↔ ∃ name, f = .sectionNotMapping name path ∧ Refused ⟨data.heap, entries⟩ name ∧
      (name = "openai" ∨ name = "eslint" ∧ ¬Refused ⟨data.heap, entries⟩ "openai") := by
  unfold sections
  rw [rootEntries mapping, okBind]
  have partOk {name : String} {p : Part} (ok : (⟨data.heap, entries⟩ : Part).part? name path = .ok p) :
      ¬Refused ⟨data.heap, entries⟩ name := by
    intro refused
    rw [partError.mpr ⟨rfl, refused⟩] at ok
    cases ok
  constructor
  · intro failed
    rcases bindError.mp failed with first | ⟨model, first, failed⟩
    · obtain ⟨g, first, same⟩ := mapErrorError.mp first
      cases same
      obtain ⟨rfl, refused⟩ := partError.mp first
      exact ⟨_, rfl, refused, .inl rfl⟩
    · rcases bindError.mp failed with second | ⟨lint, _, never⟩
      · obtain ⟨g, second, same⟩ := mapErrorError.mp second
        cases same
        obtain ⟨rfl, refused⟩ := partError.mp second
        exact ⟨_, rfl, refused, .inr ⟨rfl, partOk (mapErrorOk.mp first)⟩⟩
      · cases never
  · rintro ⟨name, rfl, refused, rfl | ⟨rfl, kept⟩⟩
    · exact bindError.mpr (.inl (mapErrorError.mpr ⟨_, partError.mpr ⟨rfl, refused⟩, rfl⟩))
    · cases first : (⟨data.heap, entries⟩ : Part).part? "openai" path with
      | error g => exact absurd (partError.mp first).2 kept
      | ok model =>
        exact bindError.mpr (.inr ⟨model, rfl,
          bindError.mpr (.inl (mapErrorError.mpr ⟨_, partError.mpr ⟨rfl, refused⟩, rfl⟩))⟩)

theorem sectionsWhole :
    sections path data = .error (.config (.notMapping path)) ↔ root path data = .error (.config (.notMapping path)) := by
  refine ⟨fun failed => ?_, fun failed => bindError.mpr (.inl failed)⟩
  rcases bindError.mp failed with whole | ⟨part, _, failed⟩
  · exact whole
  · rcases bindError.mp failed with first | ⟨model, _, failed⟩
    · obtain ⟨g, first, same⟩ := mapErrorError.mp first
      cases same
      cases (partError.mp first).1
    · rcases bindError.mp failed with second | ⟨lint, _, never⟩
      · obtain ⟨g, second, same⟩ := mapErrorError.mp second
        cases same
        cases (partError.mp second).1
      · cases never

theorem refusedForeign {part : Part} (given : part.get? name = some v) (foreign : Foreign part.heap v) :
    Refused part name ↔ ¬v.Void part.heap := by
  constructor
  · rintro ⟨w, there, _, full⟩
    cases given.symm.trans there
    exact full
  · exact fun full => ⟨v, given, foreign, full⟩

theorem partVoid {part : Part} (given : part.get? name = some v) (void : v.Void part.heap) :
    part.part? name path = .ok ⟨part.heap, []⟩ := by
  have absent : part.present? name = none := by
    rw [Part.present?, given, Option.filter_some, absentVoid.mpr (.inr void)]
    rfl
  rw [Part.part?, absent]

theorem sourceRead (required : Bool) (there : files.find? (Path.normal path) = .ok (some (.file octets)))
    (read : Yaml.read octets = .ok data) :
    source files path required = .ok data := by
  have found : files.find (Path.normal path) = .ok (.file octets) := Files.findSome.mp there
  have held : files.read (Path.normal path) = .ok octets := by rw [Files.read, found]
  rw [source, there]
  exact bindOk.mpr ⟨octets, mapErrorOk.mpr held, mapErrorOk.mpr read⟩

theorem loadMapping (given : source files path required = .ok data) (mapping : f.OfMapping) :
    load files outerKey path required = .error (.config f) ↔ sections path data = .error (.config f) := by
  rw [loadStages, given, okBind, mappingFault mapping]

/-- Settings that are neither null nor a mapping are refused unless they are void, and then they count as none. So is a section; of
two that are refused, the fault names the first. -/
theorem mappingDemanded (there : files.find? (Path.normal path) = .ok (some (.file octets)))
    (read : Yaml.read octets = .ok data) :
    (Foreign data.heap data.root →
      (load files outerKey path required = .error (.config (.notMapping path)) ↔ ¬data.root.Void data.heap) ∧
      (data.root.Void data.heap → load files outerKey path required = ofData outerKey path ⟨.null, #[]⟩)) ∧
    ∀ entries, data.heap.entries? data.root = some entries → ∀ (name : String) v, Part.get? ⟨data.heap, entries⟩ name = some v →
      Foreign data.heap v →
      ((name = "openai" ∨ name = "eslint" ∧ ¬Refused ⟨data.heap, entries⟩ "openai") →
        (load files outerKey path required = .error (.config (.sectionNotMapping name path)) ↔ ¬v.Void data.heap)) ∧
      (v.Void data.heap → Part.part? ⟨data.heap, entries⟩ name path = .ok ⟨data.heap, []⟩) := by
  have given := sourceRead required there read
  refine ⟨fun foreign => ⟨?_, fun void => ?_⟩, fun entries mapping name v value foreign => ⟨fun first => ?_, partVoid value⟩⟩
  · rw [loadMapping given (.whole path), sectionsWhole, rootForeign foreign]
  · have empty : converted outerKey path data = converted outerKey path ⟨.null, #[]⟩ := by
      unfold converted sections
      rw [rootVoid void]
      rfl
    rw [loadStages, given, ofDataStages, ← empty, okBind]
  · rw [loadMapping given (.part name path), sectionsRefused mapping, ← refusedForeign value foreign]
    constructor
    · rintro ⟨_, same, refused, _⟩
      cases same
      exact refused
    · exact fun refused => ⟨name, rfl, refused, first⟩

/-! Settings that are refused, and settings that are void. -/

theorem sheetThere (text : String) :
    (sheet text).find? (Path.normal "c.yaml") = .ok (some (.file (Text.Utf8.encode text.toList))) := by
  have normal : Path.normal "c.yaml" = "c.yaml" := by decide +kernel
  rw [normal]
  rfl

def lone (name : String) (v : Value) : Data := ⟨.collection 0, #[.map [(.string name, v)]]⟩

theorem numberRefused :
    load (sheet "openai: 5\n") [] "c.yaml" false = .error (.config (.sectionNotMapping "openai" "c.yaml")) := by
  have read : Yaml.read (Text.Utf8.encode "openai: 5\n".toList) = .ok (lone "openai" (.number (.int 5))) := by decide +kernel
  have foreign : Foreign (lone "openai" (.number (.int 5))).heap (.number (.int 5)) := ⟨nofun, rfl⟩
  refine (((mappingDemanded (sheetThere "openai: 5\n") read).2 _ rfl "openai" _ rfl foreign).1 (.inl rfl)).mpr ?_
  rw [← foreignPresent foreign]
  rfl

theorem listKept : (sheet "[]\n").find? (Path.normal "c.yaml") = .ok (some (.file (Text.Utf8.encode "[]\n".toList))) ∧
    Yaml.read (Text.Utf8.encode "[]\n".toList) = .ok ⟨.collection 0, #[.list []]⟩ ∧
    Foreign #[.list []] (.collection 0) ∧ load (sheet "[]\n") [] "c.yaml" false = .ok {} :=
  ⟨sheetThere "[]\n", by decide +kernel, ⟨nofun, rfl⟩, by decide +kernel⟩

end Config
end AccessFix
