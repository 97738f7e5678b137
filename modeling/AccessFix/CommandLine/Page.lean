/-! The options and arguments of commands, and the pages that describe them. A page is eighty columns wide, two of which
stay free; help texts are wrapped beside the names they explain. -/
namespace AccessFix.CommandLine

structure OptionSpec where
  name : String
  value : Option String
  help : String
  deriving DecidableEq, Repr

def OptionSpec.takesValue (o : OptionSpec) : Bool := o.value.isSome

inductive ArgumentKind where
  | file
  | folder
  | number
  deriving DecidableEq, Repr

structure ArgumentSpec where
  name : String
  kind : ArgumentKind
  default : Option String
  deriving DecidableEq, Repr

def ArgumentSpec.shown (a : ArgumentSpec) : String :=
  if a.default.isSome then "[" ++ a.name ++ "]" else a.name

structure CommandSpec where
  name : String
  summary : String
  arguments : List ArgumentSpec
  options : List OptionSpec
  deriving DecidableEq, Repr

def helpOption : OptionSpec := ⟨"--help", none, "Show this message and exit."⟩

namespace Page

def width : Nat := 78

def wrapFrom (limit : Nat) (line : String) : List (String × String) → List String
  | [] => [line]
  | (blanks, word) :: rest =>
    if line.length + blanks.length + word.length ≤ limit then wrapFrom limit (line ++ blanks ++ word) rest
    else line :: wrapFrom limit word rest

def spacedWords (cs : List Char) : Nat → List (String × String)
  | 0 => []
  | fuel + 1 =>
    if cs.isEmpty then []
    else
      let blanks := cs.takeWhile (· = ' ')
      let rest := cs.drop blanks.length
      let word := rest.takeWhile (· ≠ ' ')
      (String.ofList blanks, String.ofList word) :: spacedWords (rest.drop word.length) fuel

def wrap (limit : Nat) (text : String) : List String :=
  match spacedWords text.toList (text.length + 1) with
  | [] => []
  | (_, word) :: rest => wrapFrom limit word rest

def blanks (n : Nat) : String := String.ofList (List.replicate n ' ')

def table (rows : List (String × String)) : List String :=
  let column := (rows.map fun r => r.1.length).foldl max 0 + 2
  rows.flatMap fun r =>
    match wrap (width - column - 2) r.2 with
    | [] => [blanks 2 ++ r.1]
    | first :: others =>
      (blanks 2 ++ r.1 ++ blanks (column - r.1.length) ++ first) :: others.map (blanks (column + 2) ++ ·)

def optionRows (options : List OptionSpec) : List (String × String) :=
  options.map fun o => (o.name ++ (o.value.map (" " ++ ·)).getD "", o.help)

def section? (title : String) (rows : List (String × String)) : List String :=
  if rows.isEmpty then [] else "" :: (title ++ ":") :: table rows

def fitWords (limit length : Nat) (taken : List String) : List String → List String × Bool
  | [] => (taken, false)
  | w :: rest =>
    let total := length + w.length + (if taken.isEmpty then 0 else 1)
    if limit < total then (taken, true)
    else if w.endsWith "." then (taken ++ [w], false)
    else if total = limit ∧ !rest.isEmpty then (taken ++ [w], true)
    else fitWords limit total (taken ++ [w]) rest

def dropToFit (limit : Nat) : Nat → List String → List String
  | 0, words => words
  | fuel + 1, words =>
    if words.isEmpty || (" ".intercalate words).length + 3 ≤ limit then words
    else dropToFit limit fuel words.dropLast

def shorten (limit : Nat) (summary : String) : String :=
  match fitWords limit 0 [] ((spacedWords summary.toList (summary.length + 1)).map Prod.snd) with
  | (words, false) => " ".intercalate words
  | (words, true) => " ".intercalate (dropToFit limit words.length words) ++ "..."

def render (usage summary : String) (options : List OptionSpec) (commands : List CommandSpec) : String :=
  let column := (commands.map fun c => c.name.length).foldl max 0
  let lines := [usage, ""] ++ (wrap (width - 2) summary).map (blanks 2 ++ ·)
    ++ section? "Options" (optionRows options)
    ++ section? "Commands" (commands.map fun c => (c.name, shorten (width - 6 - column) c.summary))
  "\n".intercalate lines ++ "\n"

end Page

end AccessFix.CommandLine
