import AccessFix.Completion
import AccessFix.Lint

/-! Settings of a run: how the model that proposes fixes is reached, and how the checks are started. Every problem with
the ranges of settings is reported at once, in a fixed order. -/
namespace AccessFix

structure Config where
  apiKey : Letters := []
  endpoint : Letters := Completion.defaultEndpoint
  model : Letters := Completion.defaultModel
  maxTokens : Int := Completion.defaultMaxTokens
  temperature : Number := Completion.defaultTemperature
  timeout : Option Number := none
  eslintCommand : List Letters := Lint.defaultCommand
  patterns : List Letters := Lint.defaultPatterns
  deriving DecidableEq, Repr

inductive RangeProblem where
  | endpoint
  | maxTokens
  | temperature
  | timeout
  | command
  | patterns
  deriving DecidableEq, Repr

def RangeProblem.message : RangeProblem → String
  | .endpoint => "  - 'openai.endpoint' must be an http(s) URL"
  | .maxTokens => "  - 'openai.max_tokens' must be a positive integer"
  | .temperature => "  - 'openai.temperature' must be between 0 and 2"
  | .timeout => "  - 'openai.timeout' must be positive when set"
  | .command => "  - 'eslint.command' is empty"
  | .patterns => "  - 'eslint.patterns' is empty"

namespace Config

def client (config : Config) : Client :=
  ⟨config.apiKey, config.endpoint, config.model, config.maxTokens, config.temperature, config.timeout⟩

def lintSettings (config : Config) : LintSettings :=
  { command := config.eslintCommand, patterns := config.patterns }

def isWebAddress (s : Letters) : Bool := (letters "http://").isPrefixOf s || (letters "https://").isPrefixOf s

def has (config : Config) : RangeProblem → Bool
  | .endpoint => !isWebAddress config.endpoint
  | .maxTokens => decide (config.maxTokens ≤ 0)
  | .temperature => !(Number.atMost 0 config.temperature && config.temperature.atMost 2)
  | .timeout => config.timeout.any (Number.atMost · 0)
  | .command => config.eslintCommand.isEmpty
  | .patterns => config.patterns.isEmpty

def problems (config : Config) : List RangeProblem :=
  [.endpoint, .maxTokens, .temperature, .timeout, .command, .patterns].filter config.has

end Config

end AccessFix
