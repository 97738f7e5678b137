import AccessFix.Config.Load
import AccessFix.Proofs.Files
import AccessFix.Proofs.Number

/-! Loading settings: where the data come from, what is made of them, and what can come of it besides settings or a fault of
the settings. The settings are converted in a fixed order, and the first that fails decides; three of its ways to fail are
not told as a fault of the settings. -/
namespace AccessFix
open Fallible

inductive ValueFault.Escapes : ValueFault → Prop where
  | infinity : Escapes .infinityToInteger
  | huge : Escapes .hugeInteger
  | deep : Escapes (.literal .tooDeep)

theorem LoadFault.ofValueTold (path : String) {fault : ValueFault} :
    (∃ f, ofValue path fault = .config f) ↔ ¬fault.Escapes := by
  constructor
  · rintro ⟨f, told⟩ escapes
    cases escapes <;> cases told
  · intro stays
    unfold ofValue
    split
    · exact absurd .infinity stays
    · exact absurd .huge stays
    · exact absurd .deep stays
    · exact ⟨_, rfl⟩

theorem LoadFault.ofValueInjective (path : String) : Function.Injective (LoadFault.ofValue path) := by
  intro f f' same
  unfold LoadFault.ofValue at same
  split at same <;> split at same <;> cases same <;> rfl

def Escaping {α : Type} (r : Except ValueFault α) : Prop := ∃ fault : ValueFault, r = .error fault ∧ fault.Escapes

section Escaping
variable {α β : Type}

theorem okStays (a : α) : ¬Escaping (.ok a : Except ValueFault α) := by
  rintro ⟨fault, failed, _⟩
  cases failed

theorem errorEscapes {fault : ValueFault} : Escaping (.error fault : Except ValueFault α) ↔ fault.Escapes := by
  simp [Escaping]

theorem mapEscapes {r : Except ValueFault α} {f : α → β} : Escaping (r.map f) ↔ Escaping r := by
  cases r with
  | error fault => simp [Except.map, errorEscapes]
  | ok a => exact iff_of_false (okStays _) (okStays _)

theorem mapMEscapes {f : α → Except ValueFault β} {xs : List α} :
    Escaping (xs.mapM f) ↔ ∃ before x after, xs = before ++ x :: after ∧ (∀ y ∈ before, ∃ b, f y = .ok b) ∧ Escaping (f x) := by
  simp only [Escaping, mapMErrorFirst]
  constructor
  · rintro ⟨fault, ⟨before, x, after, parts, converted, failed⟩, escapes⟩
    exact ⟨before, x, after, parts, converted, fault, failed, escapes⟩
  · rintro ⟨before, x, after, parts, converted, fault, failed, escapes⟩
    exact ⟨fault, ⟨before, x, after, parts, converted, failed⟩, escapes⟩

end Escaping
namespace Value
variable {heap : Heap} {v : Value}

theorem toIntEscapes : Escaping (v.toInt heap) ↔ ∃ negative, v = .number (.real (.infinite negative)) := by
  have readStays (text : Letters) (shown : String) : ¬Escaping (integerOf text shown) := by
    rintro ⟨fault, failed, escapes⟩
    obtain ⟨f, _, rfl⟩ := mapErrorError.mp failed
    cases f <;> cases escapes
  cases v with
  | string s => exact iff_of_false (readStays s (Text.quoted s)) (by simp)
  | octets bs => exact iff_of_false (readStays (asciiText bs) (Text.quotedOctets bs)) (by simp)
  | bool b => exact iff_of_false (okStays _) (by simp)
  | number n =>
    cases n with
    | int n => exact iff_of_false (okStays n) (by simp)
    | real x =>
      cases x with
      | nan mark => exact iff_of_false (fun escaping => nomatch errorEscapes.mp escaping) (by simp)
      | infinite negative => exact iff_of_true (errorEscapes.mpr .infinity) ⟨negative, rfl⟩
      | finite negative m e => exact iff_of_false (okStays _) (by simp)
  | _ => exact iff_of_false (fun escaping => nomatch errorEscapes.mp escaping) (by simp)

theorem toDoubleEscapes : Escaping (v.toDouble heap) ↔ ∃ n, v = .number (.int n) ∧ Double.Exceeded n := by
  have readStays (text : Letters) (shown : String) : ¬Escaping (doubleOf text shown) := by
    unfold doubleOf
    cases Text.readDouble? text with
    | none => exact fun escaping => nomatch errorEscapes.mp escaping
    | some x => exact okStays x
  cases v with
  | string s => exact iff_of_false (readStays s (Text.quoted s)) (by simp)
  | octets bs => exact iff_of_false (readStays (asciiText bs) (Text.quotedOctets bs)) (by simp)
  | bool b => cases b <;> exact iff_of_false (okStays _) (by simp)
  | number n =>
    cases n with
    | int n =>
      have nearest : Escaping ((Value.number (.int n)).toDouble heap) ↔ Double.ofInt? n = none := by
        change Escaping ((Double.ofInt? n).elim (.error .hugeInteger) .ok) ↔ _
        cases Double.ofInt? n with
        | none => exact iff_of_true (errorEscapes.mpr .huge) rfl
        | some x => exact iff_of_false (okStays x) (by simp)
      rw [nearest, Double.ofIntNone]
      constructor
      · exact fun exceeded => ⟨n, rfl, exceeded⟩
      · rintro ⟨_, same, exceeded⟩
        cases same
        exact exceeded
    | real x => exact iff_of_false (okStays x) (by simp)
  | _ => exact iff_of_false (fun escaping => nomatch errorEscapes.mp escaping) (by simp)

theorem toTextEscapes : Escaping (v.toText heap) ↔ heap.text v = .error .tooDeep := by
  unfold toText
  cases heap.text v with
  | ok s => exact iff_of_false (okStays s) (by simp)
  | error fault =>
    cases fault with
    | tooManyDigits => exact iff_of_false (fun escaping => nomatch errorEscapes.mp escaping) (by simp)
    | tooDeep => exact iff_of_true (errorEscapes.mpr .deep) rfl

def HoldsDeep (heap : Heap) (v : Value) : Prop :=
  ∃ before x after, heap.items? v = some (before ++ x :: after) ∧ (∀ y ∈ before, ∃ s, y.toText heap = .ok s) ∧
    heap.text x = .error .tooDeep

theorem toTextsEscapes : Escaping (v.toTexts heap) ↔ v.HoldsDeep heap := by
  unfold toTexts HoldsDeep
  cases heap.items? v with
  | none => exact iff_of_false (fun escaping => nomatch errorEscapes.mp escaping) (by simp)
  | some items => simp only [mapMEscapes, toTextEscapes, Option.some.injEq]

theorem stringShallow (s : Letters) : ¬(Value.string s).HoldsDeep heap := by
  rintro ⟨before, x, after, items, _, deep⟩
  have character : x ∈ s.map fun c => Value.string [c] := by
    rw [Option.some.inj items]
    simp
  obtain ⟨c, _, rfl⟩ := List.mem_map.mp character
  cases deep

theorem toCommandEscapes : Escaping (v.toCommand heap) ↔ v.HoldsDeep heap := by
  cases v with
  | string s => exact iff_of_false (okStays _) (stringShallow s)
  | _ => simpa only [toCommand] using toTextsEscapes

theorem toPatternsEscapes : Escaping (v.toPatterns heap) ↔ v.HoldsDeep heap := by
  cases v with
  | string s => exact iff_of_false (okStays _) (stringShallow s)
  | _ => simpa only [toPatterns] using toTextsEscapes

end Value

namespace Config

inductive Setting where
  | apiKey
  | endpoint
  | model
  | maxTokens
  | temperature
  | timeout
  | command
  | patterns
  deriving DecidableEq

def Setting.all : List Setting := [.apiKey, .endpoint, .model, .maxTokens, .temperature, .timeout, .command, .patterns]

variable {outerKey : Letters} {path : String} {model lint : Part} {config : Config}

def done {α : Type} (_ : α) : Unit := ()

def Setting.outcome (outerKey : Letters) (model lint : Part) : Setting → Except ValueFault Unit
  | .apiKey => if outerKey.isEmpty then (model.convertPresent "api_key" Value.toText []).map done else .ok ()
  | .endpoint => (model.convertPresent "endpoint" Value.toText Completion.defaultEndpoint).map done
  | .model => (model.convertPresent "model" Value.toText Completion.defaultModel).map done
  | .maxTokens => (model.convert "max_tokens" Value.toInt Completion.defaultMaxTokens).map done
  | .temperature =>
    (model.convert "temperature" (fun heap v => (v.toDouble heap).map .real) Completion.defaultTemperature).map done
  | .timeout => (model.convert "timeout" limitOf none).map done
  | .command => (lint.convert "command" Value.toCommand Lint.defaultCommand).map done
  | .patterns => (lint.convertPresent "patterns" Value.toPatterns Lint.defaultPatterns).map done

theorem mapDone {α β : Type} (r : Except ValueFault α) (f : α → β) : (r.map f).map done = r.map done := by
  cases r <;> rfl

theorem stepEscapes {α β : Type} {x : Except ValueFault α} {f : α → Except ValueFault β} {setting : Setting}
    {rest : List Setting} (first : x.map done = setting.outcome outerKey model lint)
    (later : ∀ a, Escaping (f a) ↔ Escaping (rest.mapM (Setting.outcome outerKey model lint))) :
    Escaping (x >>= f) ↔ Escaping ((setting :: rest).mapM (Setting.outcome outerKey model lint)) := by
  rw [List.mapM_cons, ← first]
  cases x with
  | error fault => exact errorEscapes.trans errorEscapes.symm
  | ok a =>
    rw [show Escaping (Except.ok a >>= f) ↔ _ from later a]
    cases rest.mapM (Setting.outcome outerKey model lint) with
    | error fault => exact errorEscapes.trans errorEscapes.symm
    | ok bs => exact iff_of_false (okStays _) (okStays _)

theorem ofPartsEscapes :
    Escaping (ofParts outerKey model lint) ↔ Escaping (Setting.all.mapM (Setting.outcome outerKey model lint)) := by
  have last (config : Config) :
      Escaping (pure config) ↔ Escaping ([].mapM (Setting.outcome outerKey model lint)) :=
    iff_of_false (okStays _) (okStays _)
  unfold ofParts
  split <;>
    refine stepEscapes ?_ fun _ => stepEscapes (mapDone _ _) fun _ => stepEscapes (mapDone _ _) fun _ =>
      stepEscapes rfl fun _ => stepEscapes rfl fun _ => stepEscapes rfl fun _ => stepEscapes rfl fun _ =>
      stepEscapes rfl fun _ => last _
  · rename_i inner
    rw [mapDone, Setting.outcome, if_pos inner]
  · rename_i outer
    rw [Setting.outcome, if_neg outer]
    rfl

theorem Part.convertEscapes {α : Type} {part : Part} {name : Letters} {f : Heap → Value → Except ValueFault α} {missing : α} :
    Escaping (part.convert name f missing) ↔ ∃ v, part.get? name = some v ∧ Escaping (f part.heap v) := by
  unfold convert
  cases part.get? name with
  | none => exact iff_of_false (okStays _) (by simp)
  | some v => simp

theorem Part.presentEscapes {α : Type} {part : Part} {name : Letters} {f : Heap → Value → Except ValueFault α} {missing : α} :
    Escaping (part.convertPresent name f missing) ↔ ∃ v, part.present? name = some v ∧ Escaping (f part.heap v) := by
  unfold convertPresent
  cases part.present? name with
  | none => exact iff_of_false (okStays _) (by simp)
  | some v => simp

theorem limitEscapes {heap : Heap} {v : Value} : Escaping (limitOf heap v) ↔ ∃ n, v = .number (.int n) ∧ Double.Exceeded n := by
  cases v with
  | null => exact iff_of_false (okStays _) (by simp)
  | _ => simpa only [limitOf, mapEscapes] using Value.toDoubleEscapes

/-- Settings whose value fails in a way that is not told as a fault of the settings. -/
inductive Breaks (outerKey : Letters) (model lint : Part) : Setting → Prop where
  | apiKey {v} (inner : outerKey = []) (given : model.present? "api_key" = some v)
      (deep : model.heap.text v = .error .tooDeep) : Breaks outerKey model lint .apiKey
  | endpoint {v} (given : model.present? "endpoint" = some v) (deep : model.heap.text v = .error .tooDeep) :
      Breaks outerKey model lint .endpoint
  | model {v} (given : model.present? "model" = some v) (deep : model.heap.text v = .error .tooDeep) :
      Breaks outerKey model lint .model
  | maxTokens {negative} (given : model.get? "max_tokens" = some (.number (.real (.infinite negative)))) :
      Breaks outerKey model lint .maxTokens
  | temperature {n} (given : model.get? "temperature" = some (.number (.int n))) (exceeded : Double.Exceeded n) :
      Breaks outerKey model lint .temperature
  | timeout {n} (given : model.get? "timeout" = some (.number (.int n))) (exceeded : Double.Exceeded n) :
      Breaks outerKey model lint .timeout
  | command {v} (given : lint.get? "command" = some v) (deep : v.HoldsDeep lint.heap) : Breaks outerKey model lint .command
  | patterns {v} (given : lint.present? "patterns" = some v) (deep : v.HoldsDeep lint.heap) :
      Breaks outerKey model lint .patterns

theorem outcomeEscapes {setting : Setting} :
    Escaping (setting.outcome outerKey model lint) ↔ Breaks outerKey model lint setting := by
  cases setting with
  | apiKey =>
    simp only [Setting.outcome]
    split
    · rename_i inner
      rw [mapEscapes, Part.presentEscapes]
      simp only [Value.toTextEscapes]
      exact ⟨fun ⟨_, given, deep⟩ => .apiKey (List.isEmpty_iff.mp inner) given deep,
        fun | .apiKey _ given deep => ⟨_, given, deep⟩⟩
    · rename_i outer
      exact iff_of_false (okStays _) fun | .apiKey inner _ _ => outer (List.isEmpty_iff.mpr inner)
  | endpoint =>
    unfold Setting.outcome
    rw [mapEscapes, Part.presentEscapes]
    simp only [Value.toTextEscapes]
    exact ⟨fun ⟨_, given, deep⟩ => .endpoint given deep, fun | .endpoint given deep => ⟨_, given, deep⟩⟩
  | model =>
    unfold Setting.outcome
    rw [mapEscapes, Part.presentEscapes]
    simp only [Value.toTextEscapes]
    exact ⟨fun ⟨_, given, deep⟩ => .model given deep, fun | .model given deep => ⟨_, given, deep⟩⟩
  | maxTokens =>
    unfold Setting.outcome
    rw [mapEscapes, Part.convertEscapes]
    simp only [Value.toIntEscapes]
    exact ⟨fun ⟨_, given, _, infinite⟩ => .maxTokens (infinite ▸ given), fun | .maxTokens given => ⟨_, given, _, rfl⟩⟩
  | temperature =>
    unfold Setting.outcome
    rw [mapEscapes, Part.convertEscapes]
    simp only [mapEscapes, Value.toDoubleEscapes]
    exact ⟨fun ⟨_, given, _, whole, exceeded⟩ => .temperature (whole ▸ given) exceeded,
      fun | .temperature given exceeded => ⟨_, given, _, rfl, exceeded⟩⟩
  | timeout =>
    unfold Setting.outcome
    rw [mapEscapes, Part.convertEscapes]
    simp only [limitEscapes]
    exact ⟨fun ⟨_, given, _, whole, exceeded⟩ => .timeout (whole ▸ given) exceeded,
      fun | .timeout given exceeded => ⟨_, given, _, rfl, exceeded⟩⟩
  | command =>
    unfold Setting.outcome
    rw [mapEscapes, Part.convertEscapes]
    simp only [Value.toCommandEscapes]
    exact ⟨fun ⟨_, given, deep⟩ => .command given deep, fun | .command given deep => ⟨_, given, deep⟩⟩
  | patterns =>
    unfold Setting.outcome
    rw [mapEscapes, Part.presentEscapes]
    simp only [Value.toPatternsEscapes]
    exact ⟨fun ⟨_, given, deep⟩ => .patterns given deep, fun | .patterns given deep => ⟨_, given, deep⟩⟩

def BrokenOff (outerKey : Letters) (model lint : Part) : Prop :=
  ∃ before setting after, Setting.all = before ++ setting :: after ∧
    (∀ earlier ∈ before, earlier.outcome outerKey model lint = .ok ()) ∧ Breaks outerKey model lint setting

theorem ofPartsBroken : Escaping (ofParts outerKey model lint) ↔ BrokenOff outerKey model lint := by
  rw [ofPartsEscapes, mapMEscapes]
  simp only [outcomeEscapes, Unique.exists_iff]
  rfl

/-! Loading in stages: the data, their two sections, the settings that these are converted to, and the check of ranges. -/

def source (files : Files) (path : String) (required : Bool) : Except LoadFault Data :=
  match files.find? (Path.normal path) with
  | .error fault => .error (.unreadable (.file fault))
  | .ok (some _) => readData files path
  | .ok none => if required then .error (.config (.missing path)) else .ok ⟨.null, #[]⟩

def root (path : String) (data : Data) : Except LoadFault Part :=
  if !data.heap.isPresent data.root then .ok ⟨data.heap, []⟩
  else (data.heap.entries? data.root).elim (.error (.config (.notMapping path))) fun entries => .ok ⟨data.heap, entries⟩

def sections (path : String) (data : Data) : Except LoadFault (Part × Part) := do
  let root ← root path data
  let model ← (root.part? "openai" path).mapError .config
  let lint ← (root.part? "eslint" path).mapError .config
  return (model, lint)

def converted (outerKey : Letters) (path : String) (data : Data) : Except LoadFault Config := do
  let (model, lint) ← sections path data
  (ofParts outerKey model lint).mapError (LoadFault.ofValue path)

def checked (config : Config) : Except LoadFault Config := do
  (config.validate).mapError .config
  return config

variable {files : Files} {data : Data} {required : Bool}

theorem ofDataStages : ofData outerKey path data = converted outerKey path data >>= checked := by
  unfold ofData converted sections root
  split
  · simp only [bind_assoc, pure_bind]
    rfl
  · cases data.heap.entries? data.root with
    | none => rfl
    | some entries =>
      simp only [bind_assoc, pure_bind]
      rfl

theorem loadStages : load files outerKey path required =
    source files path required >>= fun data => converted outerKey path data >>= checked := by
  simp only [← ofDataStages]
  unfold load source
  cases files.find? (Path.normal path) with
  | error fault => rfl
  | ok found =>
    cases found with
    | some node => rfl
    | none => cases required <;> rfl

theorem sectionsFault {f : LoadFault} (failed : sections path data = .error f) : ∃ g, f = .config g := by
  rcases bindError.mp failed with noRoot | ⟨root, _, failed⟩
  · unfold root at noRoot
    split at noRoot
    · cases noRoot
    · cases entries : data.heap.entries? data.root with
      | none =>
        rw [entries] at noRoot
        cases noRoot
        exact ⟨_, rfl⟩
      | some entries =>
        rw [entries] at noRoot
        cases noRoot
  · rcases bindError.mp failed with noModel | ⟨model, _, failed⟩
    · obtain ⟨g, _, rfl⟩ := mapErrorError.mp noModel
      exact ⟨g, rfl⟩
    · rcases bindError.mp failed with noLint | ⟨lint, _, never⟩
      · obtain ⟨g, _, rfl⟩ := mapErrorError.mp noLint
        exact ⟨g, rfl⟩
      · exact absurd never pureError

def Settled (r : Except LoadFault Config) : Prop := (∃ config, r = .ok config) ∨ ∃ fault, r = .error (.config fault)

theorem checkedSettled (config : Config) : Settled (checked config) := by
  unfold checked validate
  split
  · exact .inl ⟨config, rfl⟩
  · exact .inr ⟨_, rfl⟩

theorem stagesSettled {r : Except LoadFault Config} : Settled (r >>= checked) ↔ Settled r := by
  cases r with
  | ok config => exact iff_of_true (checkedSettled config) (.inl ⟨config, rfl⟩)
  | error fault => exact Iff.rfl

theorem convertedSettled : Settled (converted outerKey path data) ↔
    ∀ model lint, sections path data = .ok (model, lint) → ¬BrokenOff outerKey model lint := by
  unfold converted
  cases divided : sections path data with
  | error fault =>
    obtain ⟨g, rfl⟩ := sectionsFault divided
    exact iff_of_true (.inr ⟨g, rfl⟩) (by simp)
  | ok parts =>
    obtain ⟨model, lint⟩ := parts
    have untold : Settled ((ofParts outerKey model lint).mapError (LoadFault.ofValue path)) ↔
        ¬Escaping (ofParts outerKey model lint) := by
      cases ofParts outerKey model lint with
      | ok config => exact iff_of_true (.inl ⟨config, rfl⟩) (okStays config)
      | error fault =>
        rw [errorEscapes, ← LoadFault.ofValueTold path]
        simp [Settled, Except.mapError]
    rw [show Settled (Except.ok (model, lint) >>= _) ↔ _ from untold, ofPartsBroken]
    simp

theorem sourceRefusal {f : FileFault}
    (failed : source files path required = .error (.unreadable (.file f))) : f.fault.isRefusal = true := by
  unfold source at failed
  split at failed
  · rename_i found
    cases failed
    exact Files.findRefusal found
  · rename_i there
    rcases bindError.mp failed with unread | ⟨octets, _, failed⟩
    · obtain ⟨f, unread, same⟩ := mapErrorError.mp unread
      cases same
      exact Files.readRefusal there unread
    · obtain ⟨fault, _, same⟩ := mapErrorError.mp failed
      cases fault <;> cases same
  · split at failed <;> cases failed

theorem convertedFault {f : LoadFault}
    (failed : converted outerKey path data = .error f) (o : OpenFault) : f ≠ .unreadable o := by
  rcases bindError.mp failed with divided | ⟨⟨model, lint⟩, _, failed⟩
  · obtain ⟨g, rfl⟩ := sectionsFault divided
    simp
  · obtain ⟨fault, _, rfl⟩ := mapErrorError.mp failed
    unfold LoadFault.ofValue
    split <;> simp

theorem loadRefusal {f : FileFault}
    (failed : load files outerKey path required = .error (.unreadable (.file f))) : f.fault.isRefusal = true := by
  rw [loadStages] at failed
  rcases bindError.mp failed with unread | ⟨data, _, failed⟩
  · exact sourceRefusal unread
  · rcases bindError.mp failed with unconverted | ⟨config, _, failed⟩
    · exact absurd rfl (convertedFault unconverted _)
    · rcases checkedSettled config with ⟨_, ok⟩ | ⟨_, told⟩
      · rw [ok] at failed
        cases failed
      · rw [told] at failed
        cases failed

inductive Understood (outerKey : Letters) (path : String) : Except Yaml.Fault Data → Prop where
  | malformed : Understood outerKey path (.error .malformed)
  | whole {data : Data} (kept : ∀ model lint, sections path data = .ok (model, lint) → ¬BrokenOff outerKey model lint) :
      Understood outerKey path (.ok data)

theorem readSettled {octets : List UInt8} (read : files.read (Path.normal path) = .ok octets) :
    Settled (readData files path >>= converted outerKey path) ↔ Understood outerKey path (Yaml.read octets) := by
  unfold readData
  generalize Yaml.read = reader
  rw [read]
  change Settled ((reader octets).mapError (LoadFault.ofYaml path) >>= converted outerKey path) ↔ _
  cases reader octets with
  | ok data =>
    constructor
    · exact fun settled => .whole (convertedSettled.mp settled)
    · intro understood
      cases understood with
      | whole kept => exact convertedSettled.mpr kept
  | error fault =>
    cases fault with
    | malformed => exact iff_of_true (.inr ⟨_, rfl⟩) .malformed
    | _ =>
      exact iff_of_false (by simp [Settled, Except.mapError, LoadFault.ofYaml, bind, Except.bind])
        (fun understood => nomatch understood)

theorem loadSettles {node : Node} (there : files.find? (Path.normal path) = .ok (some node)) :
    Settled (load files outerKey path required) ↔
      ∃ octets, node = .file octets ∧ Understood outerKey path (Yaml.read octets) := by
  have found : files.find (Path.normal path) = .ok node := Files.findSome.mp there
  rw [loadStages, ← bind_assoc, stagesSettled, source, there]
  cases node with
  | folder =>
    have unread : files.read (Path.normal path) = .error ⟨.isFolder, Path.normal path⟩ := by rw [Files.read, found]
    refine iff_of_false ?_ (by simp)
    simp [readData, unread, Settled, Except.mapError, bind, Except.bind]
  | file octets =>
    have read : files.read (Path.normal path) = .ok octets := by rw [Files.read, found]
    rw [show Settled _ ↔ _ from readSettled read]
    simp

def sheet (text : String) : Files := ⟨[(["c.yaml"], .file (Text.Utf8.encode text.toList))], [], []⟩

theorem limitUnderstood : (sheet "openai:\n  max_tokens: 9\n").find? (Path.normal "c.yaml") =
      .ok (some (.file (Text.Utf8.encode "openai:\n  max_tokens: 9\n".toList))) ∧
    Understood [] "c.yaml" (Yaml.read (Text.Utf8.encode "openai:\n  max_tokens: 9\n".toList)) := by
  have there : (sheet "openai:\n  max_tokens: 9\n").find? (Path.normal "c.yaml") =
    .ok (some (.file (Text.Utf8.encode "openai:\n  max_tokens: 9\n".toList))) := by decide +kernel
  have loaded : load (sheet "openai:\n  max_tokens: 9\n") [] "c.yaml" false = .ok { maxTokens := 9 } := by decide +kernel
  obtain ⟨octets, same, understood⟩ := (loadSettles there).mp (.inl ⟨_, loaded⟩)
  cases same
  exact ⟨there, understood⟩

theorem infiniteUnsettled : (∃ node, (sheet "openai:\n  max_tokens: .inf\n").find? (Path.normal "c.yaml") = .ok (some node)) ∧
    ¬Settled (load (sheet "openai:\n  max_tokens: .inf\n") [] "c.yaml" false) := by
  have escaped : load (sheet "openai:\n  max_tokens: .inf\n") [] "c.yaml" false = .error (.overflow .infinityToInteger) := by
    decide +kernel
  refine ⟨⟨.file (Text.Utf8.encode "openai:\n  max_tokens: .inf\n".toList), by decide +kernel⟩, ?_⟩
  rw [escaped]
  simp [Settled]

end Config

end AccessFix
