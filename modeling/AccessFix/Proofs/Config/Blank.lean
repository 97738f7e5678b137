import AccessFix.Proofs.Config.Alike
import AccessFix.Proofs.Config.Range
import AccessFix.Proofs.Config.Sections
import AccessFix.Proofs.Text.Blank

/-! Blank settings. A setting is taken if it is present, blank or not, and trimmed only then; so a text of blanks alone is not
missing but empty. -/
namespace AccessFix
open Fallible
open Text (Blank trimBlank)

namespace Config
variable {part part' model model' lint lint' whole whole' : Part} {name other missing b outerKey : Letters} {path : String}

/-! The settings of the model that are texts, and all other settings. -/

def textOf (part : Part) (name missing : Letters) : Except ValueFault Letters :=
  (part.convertPresent name Value.toText missing).map Text.trim

def keyOf (outerKey : Letters) (model : Part) : Except ValueFault Letters :=
  if outerKey.isEmpty then textOf model "api_key" [] else .ok (Text.trim outerKey)

def restOf (model lint : Part) : Except ValueFault Config := do
  return {
    maxTokens := ← model.convert "max_tokens" Value.toInt Completion.defaultMaxTokens
    temperature := ← model.convert "temperature" (fun heap v => (v.toDouble heap).map .real) Completion.defaultTemperature
    timeout := ← model.convert "timeout" limitOf none
    eslintCommand := ← lint.convert "command" Value.toCommand Lint.defaultCommand
    patterns := ← lint.convertPresent "patterns" Value.toPatterns Lint.defaultPatterns }

theorem keyInner : keyOf [] model = textOf model "api_key" [] := rfl

theorem presentText {heap : Heap} {t : Letters} : heap.isPresent (.string t) = true ↔ t ≠ [] := by simp [Heap.isPresent]

theorem ofPartsReadings : ofParts outerKey model lint = do
    let apiKey ← keyOf outerKey model
    let endpoint ← textOf model "endpoint" Completion.defaultEndpoint
    let name ← textOf model "model" Completion.defaultModel
    let config ← restOf model lint
    return { config with apiKey := apiKey, endpoint := endpoint, model := name } := by
  unfold ofParts keyOf restOf textOf
  split <;> simp only [bind_assoc, pure_bind]

theorem textAlike (alike : AlikeAt part part' name) : textOf part name missing = textOf part' name missing :=
  congrArg _ (convertPresentAlike alike Value.Alike.toText)

theorem restAlike (settings : ∀ name ∈ (["max_tokens", "temperature", "timeout"] : List Letters), AlikeAt model model' name)
    (checks : ∀ name, AlikeAt lint lint' name) : restOf model lint = restOf model' lint' := by
  unfold restOf
  rw [convertAlike (settings "max_tokens" (by simp)) Value.Alike.toInt,
    convertAlike (settings "temperature" (by simp)) fun alike => congrArg (Except.map Number.real) alike.toDouble,
    convertAlike (settings "timeout" (by simp)) Value.Alike.limit, convertAlike (checks "command") Value.Alike.toCommand,
    convertPresentAlike (checks "patterns") Value.Alike.toPatterns]

/-! Sections of which one has a text for a setting that the other leaves out. -/

structure Replaced (name b : Letters) (part part' : Part) : Prop where
  given : part.get? name = some (.string b)
  unset : ∀ v, part'.get? name = some v → v = .null
  others : ∀ other ≠ name, AlikeAt part part' other

theorem presentUnset (unset : ∀ v, part'.get? name = some v → v = .null) : part'.present? name = none := by
  unfold Part.present?
  cases given : part'.get? name with
  | none => rfl
  | some v =>
    rw [unset v given]
    rfl

theorem presentReplaced (replaced : Replaced name b part part') :
    part.present? name = if b = [] then none else some (.string b) := by
  rw [Part.present?, replaced.given, Option.filter_some]
  by_cases empty : b = [] <;> simp [Heap.isPresent, empty]

theorem textUnset (replaced : Replaced name b part part') (missing : Letters) :
    textOf part' name missing = .ok (Text.trim missing) := by
  unfold textOf Part.convertPresent
  rw [presentUnset replaced.unset]
  rfl

theorem textReplaced (replaced : Replaced name b part part') (blank : Blank b) (missing : Letters) :
    textOf part name missing = .ok (if b = [] then Text.trim missing else []) := by
  unfold textOf Part.convertPresent
  rw [presentReplaced replaced]
  by_cases empty : b = []
  · rw [if_pos empty, if_pos empty]
    rfl
  · rw [if_neg empty, if_neg empty, ← trimBlank.mpr blank]
    rfl

theorem restReplaced (replaced : Replaced name b model model') (text : name ∈ (["api_key", "endpoint", "model"] : List Letters))
    (checks : ∀ name, AlikeAt lint lint' name) : restOf model lint = restOf model' lint' := by
  have apart : ∀ other ∈ (["max_tokens", "temperature", "timeout"] : List Letters),
      other ∉ (["api_key", "endpoint", "model"] : List Letters) := by decide
  exact restAlike (fun other mem => replaced.others other fun same => apart other mem (same ▸ text)) checks

theorem keyReplaced (replaced : Replaced name b model model') (other : name ≠ "api_key") :
    keyOf outerKey model = keyOf outerKey model' := by
  unfold keyOf
  rw [textAlike (replaced.others "api_key" other.symm)]

theorem ofPartsKey (replaced : Replaced "api_key" b model model') (blank : Blank b) (checks : ∀ name, AlikeAt lint lint' name) :
    ofParts outerKey model lint = ofParts outerKey model' lint' := by
  have key : keyOf outerKey model = keyOf outerKey model' := by
    unfold keyOf
    rw [textReplaced replaced blank, textUnset replaced, trimBlank.mpr (show Blank [] by decide), ite_self]
  rw [ofPartsReadings, ofPartsReadings, key, textAlike (replaced.others "endpoint" (by decide)),
    textAlike (replaced.others "model" (by decide)), restReplaced replaced (by simp) checks]

theorem ofPartsEndpoint (replaced : Replaced "endpoint" b model model') (blank : Blank b)
    (checks : ∀ name, AlikeAt lint lint' name) : ofParts outerKey model lint =
      if b = [] then ofParts outerKey model' lint' else (ofParts outerKey model' lint').map ({ · with endpoint := [] }) := by
  rw [ofPartsReadings, ofPartsReadings, keyReplaced replaced (by decide), textReplaced replaced blank, textUnset replaced,
    textAlike (replaced.others "model" (by decide)), restReplaced replaced (by simp) checks]
  split
  · rfl
  · simp only [mappedBind, okBind]
    rfl

theorem ofPartsModel (replaced : Replaced "model" b model model') (blank : Blank b)
    (checks : ∀ name, AlikeAt lint lint' name) : ofParts outerKey model lint =
      if b = [] then ofParts outerKey model' lint' else (ofParts outerKey model' lint').map ({ · with model := [] }) := by
  rw [ofPartsReadings, ofPartsReadings, keyReplaced replaced (by decide), textReplaced replaced blank, textUnset replaced,
    textAlike (replaced.others "endpoint" (by decide)), restReplaced replaced (by simp) checks]
  split
  · rfl
  · simp only [mappedBind, okBind]
    rfl

theorem ofPartsOk {config : Config} (ok : ofParts outerKey model lint = .ok config) : keyOf outerKey model = .ok config.apiKey ∧
    textOf model "endpoint" Completion.defaultEndpoint = .ok config.endpoint ∧
    textOf model "model" Completion.defaultModel = .ok config.model := by
  rw [ofPartsReadings] at ok
  obtain ⟨apiKey, key, ok⟩ := bindOk.mp ok
  obtain ⟨endpoint, address, ok⟩ := bindOk.mp ok
  obtain ⟨name, called, ok⟩ := bindOk.mp ok
  obtain ⟨rest, _, ok⟩ := bindOk.mp ok
  obtain rfl := pureOk.mp ok
  exact ⟨key, address, called⟩

/-! The key from outside, which hides that of the settings even where it is blank. -/

def Filled (part : Part) (name : Letters) : Prop :=
  ∃ v, part.get? name = some v ∧ part.heap.isPresent v = true ∧ ∀ t, v = .string t → ¬Blank t

theorem textRead {s : Letters} (read : textOf part name missing = .ok s) : part.present? name = none ∧ s = Text.trim missing ∨
    ∃ v t, part.get? name = some v ∧ part.heap.isPresent v = true ∧ part.heap.text v = .ok t ∧ s = Text.trim t := by
  obtain ⟨t, shown, rfl⟩ := mapOk.mp read
  unfold Part.convertPresent at shown
  cases given : part.present? name with
  | none =>
    rw [given] at shown
    exact .inl ⟨rfl, congrArg Text.trim (Except.ok.inj shown).symm⟩
  | some v =>
    rw [given] at shown
    obtain ⟨given, present⟩ := presentSome.mp given
    exact .inr ⟨v, t, given, present, mapErrorOk.mp shown, rfl⟩

theorem textBlank {s : Letters} (read : textOf part name missing = .ok s) (inked : ¬Blank missing) :
    s = [] ↔ ∃ t, part.get? name = some (.string t) ∧ t ≠ [] ∧ Blank t := by
  rcases textRead read with ⟨none, rfl⟩ | ⟨v, t, given, present, shown, rfl⟩
  · rw [trimBlank]
    refine iff_of_false inked ?_
    rintro ⟨t, given, full, _⟩
    rw [presentSome.mpr ⟨given, presentText.mpr full⟩] at none
    cases none
  · rw [trimBlank]
    constructor
    · intro blank
      obtain rfl := textInked present shown blank
      exact ⟨t, given, presentText.mp present, blank⟩
    · rintro ⟨t', given', _, blank⟩
      cases given.symm.trans given'
      cases shown
      exact blank

theorem keyFilled {s : Letters} (read : textOf part name [] = .ok s) : s ≠ [] ↔ Filled part name := by
  rcases textRead read with ⟨none, rfl⟩ | ⟨v, t, given, present, shown, rfl⟩
  · refine iff_of_false (not_not.mpr (trimBlank.mpr (by decide))) ?_
    rintro ⟨v, given, present, _⟩
    rw [presentSome.mpr ⟨given, present⟩] at none
    cases none
  · rw [Ne, trimBlank]
    constructor
    · intro inked
      refine ⟨v, given, present, fun t' same => ?_⟩
      subst same
      cases shown
      exact inked
    · rintro ⟨v', given', _, inked⟩ blank
      cases given.symm.trans given'
      exact inked t (textInked present shown blank) blank

theorem faultFilled {f : ValueFault} (failed : textOf part name missing = .error f) : Filled part name := by
  unfold textOf Part.convertPresent at failed
  cases given : part.present? name with
  | none =>
    rw [given] at failed
    cases failed
  | some v =>
    rw [given] at failed
    obtain ⟨given, present⟩ := presentSome.mp given
    refine ⟨v, given, present, fun t same => ?_⟩
    subst same
    cases failed

theorem ofPartsOuter {s : Letters} (key : textOf model "api_key" [] = .ok s) (blank : Blank b) (given : b ≠ []) :
    ofParts b model lint = (ofParts [] model lint).map ({ · with apiKey := [] }) := by
  have outer : keyOf b model = .ok [] := by rw [keyOf, if_neg (mt List.isEmpty_iff.mp given), trimBlank.mpr blank]
  rw [ofPartsReadings, ofPartsReadings, outer, keyInner, key]
  simp only [mappedBind, okBind]
  rfl

/-! The check of ranges. -/

theorem checkedMapped {g : Config → Config} (same : ∀ config, (g config).problems = config.problems)
    (r : Except LoadFault Config) : (r.map g >>= checked) = (r >>= checked).map g := by
  rw [bindMapped, mappedBind]
  refine congrArg (r >>= ·) (funext fun config => ?_)
  rw [checkedProblems, checkedProblems, same]
  split <;> rfl

theorem checkedEndpoint {config : Config} (address : isWebAddress config.endpoint = true) :
    checked { config with endpoint := [] } ≠ checked config := by
  have listed : RangeProblem.endpoint ∈ ({ config with endpoint := [] } : Config).problems := by
    have none : isWebAddress [] = false := by decide
    simp [problems, has, none]
  have unlisted : RangeProblem.endpoint ∉ config.problems := by simp [problems, has, address]
  rw [checkedProblems, checkedProblems, if_neg (List.ne_nil_of_mem listed)]
  split
  · intro same
    cases same
  · intro same
    have problems := ConfigFault.outOfRange.inj (LoadFault.config.inj (Except.error.inj same))
    exact unlisted (problems ▸ listed)

variable {files files' : Files} {required : Bool} {data : Data}

inductive Edited (name b : Letters) (path : String) (required : Bool) (files files' : Files) : Prop where
  | mk {whole whole' model model' : Part} (read : (source files path required >>= root path) = .ok whole)
      (read' : (source files' path required >>= root path) = .ok whole')
      (settings : whole.part? "openai" path = .ok model) (settings' : whole'.part? "openai" path = .ok model')
      (replaced : Replaced name b model model') (checks : AlikeAt whole whole' "eslint") :
      Edited name b path required files files'

theorem convertedWhole (read : (source files path required >>= root path) = .ok whole)
    (settings : whole.part? "openai" path = .ok model) : (source files path required >>= converted outerKey path) =
      (whole.part? "eslint" path).mapError .config >>= fun lint => (ofParts outerKey model lint).mapError (.ofValue path) := by
  obtain ⟨data, here, read⟩ := bindOk.mp read
  rw [here, okBind, converted, sections, read, okBind, settings]
  simp only [bind_assoc, pure_bind]
  rfl

theorem convertedEdited (edited : Edited name b path required files files') (outerKey : Letters) :
    (source files path required >>= converted outerKey path) = (source files' path required >>= converted outerKey path) ∧
        (∀ config, (source files' path required >>= converted outerKey path) ≠ .ok config) ∨
    ∃ model model' lint lint', Replaced name b model model' ∧ (∀ other, AlikeAt lint lint' other) ∧
      (source files path required >>= converted outerKey path) = (ofParts outerKey model lint).mapError (.ofValue path) ∧
      (source files' path required >>= converted outerKey path) = (ofParts outerKey model' lint').mapError (.ofValue path) := by
  obtain ⟨read, read', settings, settings', replaced, checks⟩ := edited
  rw [convertedWhole read settings, convertedWhole read' settings']
  rcases partAlike path checks with ⟨f, failed, failed'⟩ | ⟨lint, lint', given, given', alike⟩
  · rw [failed, failed']
    exact .inl ⟨rfl, nofun⟩
  · rw [given, given']
    exact .inr ⟨_, _, lint, lint', replaced, alike, rfl, rfl⟩

theorem loadConverted (files : Files) (outerKey : Letters) (path : String) (required : Bool) : load files outerKey path required =
    (source files path required >>= converted outerKey path) >>= checked := by
  rw [loadStages, bind_assoc]

theorem loadParts (files : Files) (outerKey : Letters) (path : String) (required : Bool) : load files outerKey path required =
    (source files path required >>= sections path) >>= fun parts =>
      (ofParts outerKey parts.1 parts.2).mapError (.ofValue path) >>= checked := by
  rw [loadConverted, bind_assoc, bind_assoc]
  refine congrArg (source files path required >>= ·) (funext fun data => ?_)
  unfold converted
  cases sections path data <;> rfl

theorem convertedOk {config : Config} (ok : ((ofParts outerKey model lint).mapError (.ofValue path) >>= checked) = .ok config) :
    ofParts outerKey model lint = .ok config := by
  obtain ⟨_, converts, checks⟩ := bindOk.mp ok
  obtain ⟨rfl, _⟩ := checkedOk checks
  exact mapErrorOk.mp converts

theorem checkedFails {r : Except ValueFault Config} {f : ValueFault} : (r.mapError (.ofValue path) >>= checked) =
    ((Except.error f).mapError (.ofValue path) >>= checked) ↔ r = .error f := by
  cases r with
  | error f' =>
    change Except.error (LoadFault.ofValue path f') = .error (LoadFault.ofValue path f) ↔ _
    simp [(LoadFault.ofValueInjective path).eq_iff]
  | ok config =>
    refine iff_of_false ?_ nofun
    change checked config ≠ .error (LoadFault.ofValue path f)
    rw [checkedProblems]
    split
    · nofun
    · unfold LoadFault.ofValue
      split <;> nofun

theorem loadKey (edited : Edited "api_key" b path required files files') (blank : Blank b) (outerKey : Letters) :
    load files outerKey path required = load files' outerKey path required := by
  rw [loadConverted, loadConverted]
  rcases convertedEdited edited outerKey with ⟨same, _⟩ | ⟨model, model', lint, lint', replaced, checks, here, there⟩
  · rw [same]
  · rw [here, there, ofPartsKey replaced blank checks]

theorem loadModel (edited : Edited "model" b path required files files') (blank : Blank b) (outerKey : Letters) :
    load files outerKey path required = load files' outerKey path required ↔
      b = [] ∨ ∀ config, load files' outerKey path required ≠ .ok config := by
  rw [loadConverted, loadConverted]
  rcases convertedEdited edited outerKey with ⟨same, never⟩ | ⟨model, model', lint, lint', replaced, checks, here, there⟩
  · rw [same]
    refine iff_of_true rfl (.inr fun config ok => ?_)
    obtain ⟨config, ok, _⟩ := bindOk.mp ok
    exact never config ok
  · rw [here, there, ofPartsModel replaced blank checks]
    by_cases empty : b = []
    · rw [if_pos empty]
      exact iff_of_true rfl (.inl empty)
    · rw [if_neg empty, or_iff_right empty, mapErrorMap, checkedMapped (g := ({ · with model := [] })) fun _ => rfl, mappedSame]
      refine forall_congr' fun config => ⟨fun same ok => ?_, fun never ok => absurd ok never⟩
      have called := (ofPartsOk (convertedOk ok)).2.2
      rw [textUnset replaced] at called
      have nothing : Text.trim Completion.defaultModel = [] :=
        (Except.ok.inj called).trans (congrArg Config.model (same ok)).symm
      exact absurd (trimBlank.mp nothing) (by decide)

theorem loadEndpoint (edited : Edited "endpoint" b path required files files') (blank : Blank b) (outerKey : Letters) :
    load files outerKey path required = load files' outerKey path required ↔
      b = [] ∨ ∀ config, (source files' path required >>= converted outerKey path) ≠ .ok config := by
  rw [loadConverted, loadConverted]
  rcases convertedEdited edited outerKey with ⟨same, never⟩ | ⟨model, model', lint, lint', replaced, checks, here, there⟩
  · rw [same]
    exact iff_of_true rfl (.inr never)
  · rw [here, there, ofPartsEndpoint replaced blank checks]
    by_cases empty : b = []
    · rw [if_pos empty]
      exact iff_of_true rfl (.inl empty)
    · rw [if_neg empty, or_iff_right empty, mapErrorMap]
      cases reading : ofParts outerKey model' lint' with
      | error f => exact iff_of_true rfl nofun
      | ok config =>
        have address := (ofPartsOk reading).2.1
        rw [textUnset replaced] at address
        have web : isWebAddress config.endpoint = true := by
          rw [← Except.ok.inj address]
          decide +kernel
        exact iff_of_false (checkedEndpoint web) fun never => never config rfl

theorem outerAlike (blank : Blank b) (given : b ≠ []) (path : String) :
    ((ofParts b model lint).mapError (.ofValue path) >>= checked) =
        ((ofParts [] model lint).mapError (.ofValue path) >>= checked) ↔
      (Filled model "api_key" → (∀ config, ofParts b model lint = .ok config → config.problems ≠ []) ∧
        ∀ fault, textOf model "api_key" [] = .error fault → ofParts b model lint = .error fault) := by
  cases key : textOf model "api_key" [] with
  | error f =>
    have broke : ofParts [] model lint = .error f := by
      rw [ofPartsReadings, keyInner, key]
      rfl
    rw [broke, checkedFails]
    simp only [faultFilled key, true_imp_iff, Except.error.injEq, forall_eq']
    exact ⟨fun failed => ⟨fun config ok => (nomatch failed.symm.trans ok), failed⟩, And.right⟩
  | ok s =>
    rw [ofPartsOuter key blank given]
    cases reading : ofParts [] model lint with
    | error f => exact iff_of_true rfl fun _ => ⟨nofun, nofun⟩
    | ok config =>
      have apiKey := (ofPartsOk reading).1
      rw [keyInner, key, Except.ok.injEq] at apiKey
      have hidden : ({ config with apiKey := [] } : Config) = config ↔ s = [] := by
        rw [apiKey]
        exact ⟨fun same => (congrArg Config.apiKey same).symm, fun none => by rw [← none]⟩
      have problems : ({ config with apiKey := [] } : Config).problems = config.problems := rfl
      change checked { config with apiKey := [] } = checked config ↔ _
      rw [checkedProblems, checkedProblems, problems, ← keyFilled key]
      by_cases valid : config.problems = []
      · simp [valid, hidden, problems, Except.map]
      · simp [valid, problems, Except.map]

theorem loadOuter (blank : Blank b) (files : Files) (path : String) (required : Bool) :
    load files b path required = load files [] path required ↔ b = [] ∨
      ∀ model lint, (source files path required >>= sections path) = .ok (model, lint) → Filled model "api_key" →
        (∀ config, ofParts b model lint = .ok config → config.problems ≠ []) ∧
        ∀ fault, textOf model "api_key" [] = .error fault → ofParts b model lint = .error fault := by
  by_cases empty : b = []
  · subst empty
    exact iff_of_true rfl (.inl rfl)
  rw [or_iff_right empty, loadParts, loadParts]
  cases divided : source files path required >>= sections path with
  | error f => exact iff_of_true rfl nofun
  | ok parts =>
    obtain ⟨model, lint⟩ := parts
    refine (outerAlike blank empty path).trans ⟨fun hidden model' lint' parts => ?_, fun hidden => hidden model lint rfl⟩
    cases parts
    exact hidden

/-- What a blank text for a setting of the model comes to. As the key of the settings it counts as missing; as the address or the
name of the model it counts as empty, and as the key from outside it hides the key of the settings. -/
theorem blankCounts (blank : Blank b) (files : Files) (path : String) (required : Bool) :
    (∀ files' outerKey,
      (Edited "api_key" b path required files files' →
        load files outerKey path required = load files' outerKey path required) ∧
      (Edited "endpoint" b path required files files' →
        (load files outerKey path required = load files' outerKey path required ↔
          b = [] ∨ ∀ config, (source files' path required >>= converted outerKey path) ≠ .ok config)) ∧
      (Edited "model" b path required files files' →
        (load files outerKey path required = load files' outerKey path required ↔
          b = [] ∨ ∀ config, load files' outerKey path required ≠ .ok config))) ∧
    (load files b path required = load files [] path required ↔ b = [] ∨
      ∀ model lint, (source files path required >>= sections path) = .ok (model, lint) → Filled model "api_key" →
        (∀ config, ofParts b model lint = .ok config → config.problems ≠ []) ∧
        ∀ fault, textOf model "api_key" [] = .error fault → ofParts b model lint = .error fault) ∧
    ∀ outerKey config, load files outerKey path required = .ok config → ∃ model lint,
      (source files path required >>= sections path) = .ok (model, lint) ∧
      (config.model = [] ↔ ∃ t, model.get? "model" = some (.string t) ∧ t ≠ [] ∧ Blank t) ∧
      (config.apiKey ≠ [] ↔ if outerKey = [] then Filled model "api_key" else ¬Blank outerKey) := by
  refine ⟨fun files' outerKey => ⟨(loadKey · blank outerKey), (loadEndpoint · blank outerKey), (loadModel · blank outerKey)⟩,
    loadOuter blank files path required, fun outerKey config ok => ?_⟩
  rw [loadParts] at ok
  obtain ⟨⟨model, lint⟩, divided, ok⟩ := bindOk.mp ok
  obtain ⟨key, _, called⟩ := ofPartsOk (convertedOk ok)
  refine ⟨model, lint, divided, textBlank called (by decide), ?_⟩
  unfold keyOf at key
  split
  · rename_i inner
    rw [if_pos (List.isEmpty_iff.mpr inner)] at key
    exact keyFilled key
  · rename_i outer
    rw [if_neg (mt List.isEmpty_iff.mp outer)] at key
    rw [← Except.ok.inj key, Ne, trimBlank]

def sole (name b : Letters) : Data :=
  ⟨.collection 0, #[.map [(.string "openai", .collection 1)], .map [(.string name, .string b)]]⟩

theorem soleEdited (read : source files path required = .ok (sole name b))
    (read' : source files' path required = .ok (lone "openai" .null)) : Edited name b path required files files' := by
  have replaced : Replaced name b ⟨(sole name b).heap, [(.string name, .string b)]⟩ ⟨(lone "openai" .null).heap, []⟩ := by
    refine ⟨by simp [Part.get?, Collection.entry?, Value.sameKey, Value.number?], nofun, fun other differs => ?_⟩
    have absent : Collection.entry? [(.string name, .string b)] other = none := by
      simp [Collection.entry?, Value.sameKey, Value.number?, differs.symm]
    rw [AlikeAt, Part.get?, absent]
    exact .none
  exact .mk (bindOk.mpr ⟨_, read, rfl⟩) (bindOk.mpr ⟨_, read', rfl⟩) rfl rfl replaced .none

theorem unsetRead : source (sheet "openai:\n") "c.yaml" false = .ok (lone "openai" .null) :=
  sourceRead false (sheetThere "openai:\n") (by decide +kernel)

theorem blankKey : Blank " " ∧
    load (sheet "openai:\n  api_key: ' '\n") [] "c.yaml" false = load (sheet "openai:\n") [] "c.yaml" false := by
  have blank : Blank " " := by decide
  have read : source (sheet "openai:\n  api_key: ' '\n") "c.yaml" false = .ok (sole "api_key" " ") :=
    sourceRead false (sheetThere "openai:\n  api_key: ' '\n") (by decide +kernel)
  exact ⟨blank, ((blankCounts blank _ _ _).1 _ []).1 (soleEdited read unsetRead)⟩

theorem blankTaken : Blank " " ∧
    Edited "model" " " "c.yaml" false (sheet "openai:\n  model: ' '\n") (sheet "openai:\n") ∧
    load (sheet "openai:\n  model: ' '\n") [] "c.yaml" false = .ok { model := [] } ∧
    load (sheet "openai:\n") [] "c.yaml" false = .ok {} ∧
    load (sheet "openai:\n  api_key: k\n") " " "c.yaml" false = .ok {} ∧
    load (sheet "openai:\n  api_key: k\n") [] "c.yaml" false = .ok { apiKey := "k" } := by
  have read : source (sheet "openai:\n  model: ' '\n") "c.yaml" false = .ok (sole "model" " ") :=
    sourceRead false (sheetThere "openai:\n  model: ' '\n") (by decide +kernel)
  exact ⟨by decide, soleEdited read unsetRead, by decide +kernel, by decide +kernel, by decide +kernel, by decide +kernel⟩

end Config

end AccessFix
