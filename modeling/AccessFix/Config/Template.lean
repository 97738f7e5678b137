import AccessFix.Config.Load

/-! The file of settings that a new project starts with. It holds the default settings, and what can be set besides as
comments. -/
namespace AccessFix.Config

def template : String := "openai:
  # Prefer the OPENAI_API_KEY environment variable over storing the key here
  # api_key: \"sk-xxxxxxxxxxxx\"
  endpoint: \"https://api.openai.com/v1/chat/completions\"
  model: \"gpt-3.5-turbo\"
  max_tokens: 500
  temperature: 0.2
  # timeout: 60                    # seconds; unset waits for the server

eslint:
  # Needs eslint and eslint-plugin-jsx-a11y installed in the workspace
  command: \"npx eslint\"
  patterns:
    - \"**/*.jsx\"
    - \"**/*.tsx\"
"

inductive TemplateFault where
  | taken (path : String)
  | file (fault : FileFault)
  deriving DecidableEq, Repr

def TemplateFault.message : TemplateFault → String
  | .taken path => "'" ++ path ++ "' already exists. Remove it first or choose a different path."
  | .file fault => fault.message

def writeTemplate (files : Files) (path : String) : Except TemplateFault Files :=
  let target := Path.normal path
  match files.find? target with
  | .error fault => .error (.file fault)
  | .ok (some _) => .error (.taken path)
  | .ok none => (files.write target (Text.Utf8.encode template.toList)).mapError .file

end AccessFix.Config
