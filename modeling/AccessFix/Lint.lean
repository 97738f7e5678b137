import AccessFix.Files
import AccessFix.Json.Printer
import AccessFix.Json.Reader
import AccessFix.Text.Blank

/-! A run of the linter: the call that starts it, and what its answer means. The linter prints a JSON list of results and
ends with status 0 or 1; from status 2 on it has failed. -/
namespace AccessFix

namespace Lint

def defaultCommand : List Letters := ["npx", "eslint"]

def defaultPatterns : List Letters := ["**/*.jsx", "**/*.tsx"]

end Lint

structure LintSettings where
  command : List Letters := Lint.defaultCommand
  patterns : List Letters := Lint.defaultPatterns
  extended : List Letters := ["plugin:jsx-a11y/recommended"]
  parserOptions : List (Letters × Json) :=
    [("ecmaVersion", Json.ofInt 2020), ("sourceType", .string "module")]
  env : List (Letters × Json) := [("browser", .bool true), ("node", .bool true), ("es2020", .bool true)]
  deriving Repr

structure LintCall where
  command : List Letters
  folder : String
  rules : Letters
  targets : List Letters
  flatRules : Bool := false
  capturesText : Bool := true
  readsInput : Bool := false
  raisesOnStatus : Bool := false
  deriving DecidableEq, Repr

def LintCall.words (c : LintCall) (rulePath : String) : List Letters :=
  c.command ++ (["--no-eslintrc", "--config", rulePath, "--format", "json"] : List Letters) ++ c.targets

/-- What comes of a call: it cannot be started, which is told with a reason if the system refuses and is a fault of its own
if its words are none that could be started; its output is no text; or it ends. -/
inductive LintOutcome where
  | failed (reason : Letters)
  | refused (reason : Letters)
  | undecodable (fault : Text.Utf8.Fault)
  | ended (status : Int) (output errors : Letters)
  deriving DecidableEq, Repr

inductive LintFault where
  | noRoot (root : String)
  | unusable (fault : FileFault)
  | notStarted (command reason : Letters)
  | unstartable (reason : Letters)
  | undecodable (fault : Text.Utf8.Fault)
  | fatal (status : Int) (detail : Letters)
  | notJson (reason : String)
  | notList
  | tooDeep (innermost : Json.Innermost)
  deriving DecidableEq, Repr

def LintFault.message : LintFault → Letters
  | .noRoot root => "Workspace root not found: '" ++ root ++ "'"
  | .unusable fault => fault.message
  | .notStarted command reason => "Unable to run '" ++ command ++ "': " ++ reason
  | .unstartable reason => reason
  | .undecodable fault => fault.message
  | .fatal status detail => "ESLint exited with status " ++ toString status ++ ": " ++ detail
  | .notJson reason => "ESLint produced invalid JSON output: " ++ reason
  | .notList => "ESLint JSON output is not a list of file results."
  | .tooDeep innermost => innermost.message

def LintFault.isSetting : LintFault → Bool
  | .noRoot _ => true
  | _ => false

namespace Lint

def rules (s : LintSettings) : Json :=
  .object [("root", .bool true), ("extends", .array (s.extended.map .string)),
    ("parserOptions", .object s.parserOptions), ("env", .object s.env)]

def call (s : LintSettings) (root : String) : LintCall :=
  let folder := Path.normal root
  { command := s.command
    folder := folder
    rules := Json.print Json.compactAscii (rules s)
    targets := s.patterns.map fun p => folder ++ "/" ++ p }

def fatalStatus : Int := 2

def parse (output : Letters) : Except LintFault (List Json) :=
  match Json.read (if output.isEmpty then "[]" else output) with
  | .error ⟨.tooDeep innermost, _⟩ => .error (.tooDeep innermost)
  | .error f => .error (.notJson (f.message output))
  | .ok (.array results) => .ok results
  | .ok _ => .error .notList

def results (s : LintSettings) : LintOutcome → Except LintFault (List Json)
  | .failed reason => .error (.notStarted (Text.joined s.command) reason)
  | .refused reason => .error (.unstartable reason)
  | .undecodable fault => .error (.undecodable fault)
  | .ended status output errors =>
    if fatalStatus ≤ status then
      .error (.fatal status ((Text.trim (if errors.isEmpty then output else errors)).take 500))
    else parse output

def run (files : Files) (answer : LintCall → LintOutcome) (s : LintSettings) (root : String) :
    List LintCall × Except LintFault (List Json) :=
  match files.find? (Path.normal root) with
  | .error fault => ([], .error (.unusable fault))
  | .ok (some .folder) =>
    let c := call s root
    ([c], results s (answer c))
  | .ok _ => ([], .error (.noRoot root))

end Lint

end AccessFix
