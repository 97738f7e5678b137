import AccessFix.Proofs.Config.Load

/-! Ranges of settings, on the values that settings have, and what loading makes of settings outside them. A limit of time
that is no number is in no range, and is the one value that passes the check of its setting all the same. -/
namespace AccessFix

def RangeProblem.all : List RangeProblem := [.endpoint, .maxTokens, .temperature, .timeout, .command, .patterns]

namespace Config
open Fallible

def Meets (config : Config) : RangeProblem → Prop
  | .endpoint => letters "http://" <+: config.endpoint ∨ letters "https://" <+: config.endpoint
  | .maxTokens => 1 ≤ config.maxTokens
  | .temperature => ∃ t, config.temperature.value? = some t ∧ Extended.ofRat 0 ≤ t ∧ t ≤ Extended.ofRat 2
  | .timeout => ∀ limit, config.timeout = some limit → ∃ t, limit.value? = some t ∧ Extended.ofRat 0 < t
  | .command => config.eslintCommand ≠ []
  | .patterns => config.patterns ≠ []

def InRange (config : Config) : Prop := ∀ p, config.Meets p

def Unmeasured (config : Config) : Prop := ∃ mark, config.timeout = some (.real (.nan mark))

variable {config : Config} {p : RangeProblem}

theorem endpointMet : config.has .endpoint = false ↔ config.Meets .endpoint := by
  unfold has Meets isWebAddress
  rw [Bool.not_eq_false', Bool.or_eq_true, List.isPrefixOf_iff_prefix, List.isPrefixOf_iff_prefix]

theorem temperatureMet : config.has .temperature = false ↔ config.Meets .temperature := by
  unfold has Meets
  rw [Bool.not_eq_false', Bool.and_eq_true, Number.atMostValue, Number.atMostValue]
  constructor
  · rintro ⟨⟨_, t, zero, value, above⟩, _, two, same, limit, below⟩
    cases zero
    cases limit
    rw [value] at same
    cases same
    exact ⟨t, value, above, below⟩
  · rintro ⟨t, value, above, below⟩
    exact ⟨⟨_, t, rfl, value, above⟩, t, _, value, rfl, below⟩

theorem unnumbered {limit : Number} : limit.value? = none ↔ ∃ mark, limit = .real (.nan mark) := by
  cases limit with
  | int n => simp [Number.value?]
  | real x => cases x <;> simp [Number.value?, Double.value?]

theorem timeoutMet : config.has .timeout = false ↔ config.Meets .timeout ∨ config.Unmeasured := by
  unfold has Meets Unmeasured
  cases config.timeout with
  | none => simp
  | some limit =>
    simp only [Option.any_some, Option.some.injEq, forall_eq', ← unnumbered]
    rw [← Bool.not_eq_true, Number.atMostValue]
    cases limit.value? with
    | none => simp
    | some t =>
      constructor
      · intro above
        exact .inl ⟨t, rfl, not_le.mp fun below => above ⟨t, _, rfl, rfl, below⟩⟩
      · rintro (⟨_, same, above⟩ | none)
        · cases same
          rintro ⟨_, _, same, zero, below⟩
          cases same
          cases zero
          exact absurd below (not_le.mpr above)
        · cases none

theorem hasMet : config.has p = false ↔ config.Meets p ∨ p = .timeout ∧ config.Unmeasured := by
  cases p with
  | endpoint => simpa using endpointMet
  | maxTokens =>
    simp [has, Meets]
    omega
  | temperature => simpa using temperatureMet
  | timeout => simpa using timeoutMet
  | command => simp [has, Meets]
  | patterns => simp [has, Meets]

theorem problemMem : p ∈ config.problems ↔ ¬config.Meets p ∧ ¬(p = .timeout ∧ config.Unmeasured) := by
  have every : p ∈ RangeProblem.all := by cases p <;> simp [RangeProblem.all]
  rw [show config.problems = RangeProblem.all.filter config.has from rfl, List.mem_filter, and_iff_right every,
    ← Bool.not_eq_false, hasMet, not_or]

theorem timeoutUnmet (unmeasured : config.Unmeasured) : ¬config.Meets .timeout := by
  obtain ⟨mark, given⟩ := unmeasured
  intro met
  obtain ⟨t, value, _⟩ := met _ given
  cases value

theorem inRangeProblems (measured : ¬config.Unmeasured) : config.InRange ↔ config.problems = [] := by
  simp only [List.eq_nil_iff_forall_not_mem, problemMem, measured, and_false, not_false_iff, and_true, not_not]
  rfl

theorem checkedProblems : checked config =
    if config.problems = [] then .ok config else .error (.config (.outOfRange config.problems)) := by
  unfold checked validate
  cases config.problems <;> rfl

/-! The message of a fault: a line that heads it, and one for each problem. -/

def linesOf (message : String) : List String := (message.toList.splitOn '\n').map String.ofList

theorem problemLine (p : RangeProblem) : '\n' ∉ p.message.toList := by
  cases p <;> decide

theorem rangeLines {problems : List RangeProblem} (listed : problems ≠ []) :
    linesOf (ConfigFault.outOfRange problems).message = "Invalid configuration:" :: problems.map RangeProblem.message := by
  have letters : (ConfigFault.outOfRange problems).message.toList = ['\n'].intercalate
      ("Invalid configuration:".toList :: (problems.map RangeProblem.message).map String.toList) := by
    have heading : "Invalid configuration:\n".toList = "Invalid configuration:".toList ++ ['\n'] := by decide
    have lineFeed : "\n".toList = ['\n'] := by decide
    have more : (problems.map RangeProblem.message).map String.toList ≠ [] := by simpa using listed
    have message : (ConfigFault.outOfRange problems).message =
      "Invalid configuration:\n" ++ "\n".intercalate (problems.map RangeProblem.message) := rfl
    rw [List.intercalate_cons_of_ne_nil more, message, String.toList_append, String.toList_intercalate, heading, lineFeed]
  have whole : ∀ line ∈ "Invalid configuration:".toList :: (problems.map RangeProblem.message).map String.toList,
      '\n' ∉ line := by
    intro line mem
    rcases List.mem_cons.mp mem with rfl | mem
    · decide
    · simp only [List.mem_map] at mem
      obtain ⟨_, ⟨p, _, rfl⟩, rfl⟩ := mem
      exact problemLine p
  rw [linesOf, letters, List.splitOn_intercalate '\n' whole (by simp)]
  simp [Function.comp_def]

structure Reported (config : Config) (r : Except LoadFault Config) : Prop where
  kept : config.InRange → r = .ok config
  refused : ¬config.InRange → ∃ failed, r = .error (.config (.outOfRange failed)) ∧ failed.Sublist RangeProblem.all ∧
    (∀ p, p ∈ failed ↔ ¬config.Meets p) ∧
    linesOf (ConfigFault.outOfRange failed).message = "Invalid configuration:" :: failed.map RangeProblem.message

theorem checkedReported : Reported config (checked config) ↔ ¬config.Unmeasured := by
  rw [checkedProblems]
  constructor
  · intro reported unmeasured
    obtain ⟨failed, told, _, listed, _⟩ := reported.refused fun inRange => timeoutUnmet unmeasured (inRange .timeout)
    split at told
    · cases told
    · cases told
      exact (problemMem.mp ((listed .timeout).mpr (timeoutUnmet unmeasured))).2 ⟨rfl, unmeasured⟩
  · intro measured
    constructor
    · intro inRange
      rw [if_pos ((inRangeProblems measured).mp inRange)]
    · intro outside
      have listed : config.problems ≠ [] := fun none => outside ((inRangeProblems measured).mpr none)
      rw [if_neg listed]
      refine ⟨config.problems, rfl, List.filter_sublist, fun p => ?_, rangeLines listed⟩
      rw [problemMem]
      exact and_iff_left fun ⟨_, unmeasured⟩ => measured unmeasured

theorem checkedOk {config' : Config} (ok : checked config = .ok config') : config = config' ∧ config.problems = [] := by
  rw [checkedProblems] at ok
  split at ok
  · rename_i none
    cases ok
    exact ⟨rfl, none⟩
  · cases ok

variable {files : Files} {outerKey : Letters} {path : String} {required : Bool}

theorem loadRanges :
    (∀ config, load files outerKey path required = .ok config →
      (config.InRange ↔ ¬config.Unmeasured) ∧ ∀ p ≠ RangeProblem.timeout, config.Meets p) ∧
    ∀ config, (source files path required >>= converted outerKey path) = .ok config →
      (Reported config (load files outerKey path required) ↔ ¬config.Unmeasured) := by
  rw [loadStages, ← bind_assoc]
  constructor
  · intro config ok
    obtain ⟨_, _, checked⟩ := bindOk.mp ok
    obtain ⟨rfl, none⟩ := checkedOk checked
    refine ⟨⟨?_, fun measured => (inRangeProblems measured).mpr none⟩, fun p other => ?_⟩
    · exact fun inRange unmeasured => timeoutUnmet unmeasured (inRange .timeout)
    · by_contra unmet
      have listed := problemMem.mpr ⟨unmet, fun ⟨same, _⟩ => other same⟩
      rw [none] at listed
      cases listed
  · intro config ok
    rw [ok]
    exact checkedReported

theorem emptyReported : Reported { maxTokens := 0, eslintCommand := [] }
    (load (sheet "openai:\n  max_tokens: 0\neslint:\n  command: ' '\n") [] "c.yaml" false) := by
  refine (loadRanges.2 _ ?_).mpr ?_
  · decide +kernel
  · simp [Unmeasured]

theorem nanLoaded : ∃ config, load (sheet "openai:\n  timeout: .nan\n") [] "c.yaml" false = .ok config ∧ ¬config.InRange := by
  refine ⟨{ timeout := some (.real (.nan 0)) }, by decide +kernel, fun inRange => ?_⟩
  exact timeoutUnmet ⟨0, rfl⟩ (inRange .timeout)

end Config

end AccessFix
