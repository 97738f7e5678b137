import AccessFix.CommandLine.Page
import AccessFix.CommandLine.Similar
import AccessFix.Text.Quoted

/-! The words of a command line, sorted into options and positional words. An option's value follows it, after an equals
sign or as the next word; two hyphens end the options. -/
namespace AccessFix.CommandLine

inductive UsageFault where
  | unknownOption (name : String) (similar : List String)
  | valueMissing (option : String)
  | valueUnexpected (option : String)
  | argumentMissing (argument : String)
  | badValue (parameter reason : String)
  | extraWords (words : List String)
  | commandMissing
  | unknownCommand (name : String)
  deriving DecidableEq, Repr

def UsageFault.message : UsageFault → String
  | .unknownOption name similar =>
    "No such option: " ++ name ++
      (match similar with
        | [] => ""
        | [one] => " Did you mean " ++ one ++ "?"
        | several => " (Possible options: " ++ ", ".intercalate several ++ ")")
  | .valueMissing option => "Option " ++ Text.quoted option ++ " requires an argument."
  | .valueUnexpected option => "Option " ++ Text.quoted option ++ " does not take a value."
  | .argumentMissing argument => "Missing argument '" ++ argument ++ "'."
  | .badValue parameter reason => "Invalid value for '" ++ parameter ++ "': " ++ reason
  | .extraWords words =>
    "Got unexpected extra argument" ++ (if words.length = 1 then "" else "s") ++ " (" ++ " ".intercalate words ++ ")"
  | .commandMissing => "Missing command."
  | .unknownCommand name => "No such command " ++ Text.quoted name ++ "."

def UsageFault.showsUsage : UsageFault → Bool
  | .valueMissing _ | .valueUnexpected _ => false
  | _ => true

structure Words where
  given : List (String × Option String)
  positional : List String
  deriving DecidableEq, Repr

namespace Words

def has (w : Words) (option : String) : Bool := w.given.any fun g => g.1 = option

def value? (w : Words) (option : String) : Option String :=
  ((w.given.filter fun g => g.1 = option).getLast?).bind Prod.snd

def splitValue (word : String) : String × Option String :=
  let cs := word.toList
  let name := cs.takeWhile (· ≠ '=')
  if name.length < cs.length then (String.ofList name, some (String.ofList (cs.drop (name.length + 1))))
  else (word, none)

def unknown (options : List OptionSpec) (word name : String) : UsageFault :=
  if word.startsWith "--" then .unknownOption name (Similar.names name (options.map OptionSpec.name))
  else .unknownOption (String.ofList (word.toList.take 2)) []

def isOption (word : String) : Bool := word.startsWith "-" && word ≠ "-"

def read (options : List OptionSpec) (mixed : Bool) (w : Words) : List String → Except UsageFault Words
  | [] => .ok w
  | word :: rest =>
    if word = "--" then .ok { w with positional := w.positional ++ rest }
    else if isOption word then
      let (name, value) := splitValue word
      match options.find? fun o => o.name = name with
      | none => .error (unknown options word name)
      | some o =>
        if o.takesValue then
          match value, rest with
          | some v, rest => read options mixed { w with given := w.given ++ [(name, some v)] } rest
          | none, v :: rest => read options mixed { w with given := w.given ++ [(name, some v)] } rest
          | none, [] => .error (.valueMissing name)
        else if value.isSome then .error (.valueUnexpected name)
        else read options mixed { w with given := w.given ++ [(name, none)] } rest
    else if mixed then read options mixed { w with positional := w.positional ++ [word] } rest
    else .ok { w with positional := w.positional ++ word :: rest }

def ofList (options : List OptionSpec) (mixed : Bool) (words : List String) : Except UsageFault Words :=
  read options mixed ⟨[], []⟩ words

end Words

end AccessFix.CommandLine
