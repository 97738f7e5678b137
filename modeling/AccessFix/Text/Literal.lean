/-! Literals of plain values in messages. -/
namespace AccessFix.Text.Literal

def null : String := "None"

def bool (b : Bool) : String := if b then "True" else "False"

def commas (parts : List String) : String := ", ".intercalate parts

def list (items : List String) : String := "[" ++ commas items ++ "]"

def pair (first second : String) : String := "(" ++ commas [first, second] ++ ")"

def map (entries : List (String × String)) : String :=
  "\x7b" ++ commas (entries.map fun e => e.1 ++ ": " ++ e.2) ++ "\x7d"

def set (items : List String) : String := if items.isEmpty then "set()" else "\x7b" ++ commas items ++ "\x7d"

end AccessFix.Text.Literal
