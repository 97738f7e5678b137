import AccessFix.Json
import AccessFix.Text.Literal
import AccessFix.Text.Quoted

/-! JSON values as text in messages. A string stands as it is, but in quotes inside a collection. -/
namespace AccessFix.Json

mutual

def literal : Json → String
  | .null => Text.Literal.null
  | .bool b => Text.Literal.bool b
  | .number n => n.text
  | .string s => Text.quoted s
  | .array items => Text.Literal.list (literals items)
  | .object members => Text.Literal.map (memberLiterals members)

def literals : List Json → List String
  | [] => []
  | x :: xs => literal x :: literals xs

def memberLiterals : List (Letters × Json) → List (String × String)
  | [] => []
  | (n, v) :: rest => (Text.quoted n, literal v) :: memberLiterals rest

end

def text : Json → Letters
  | .string s => s
  | v => v.literal

end AccessFix.Json
