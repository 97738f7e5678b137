import AccessFix.Json
import AccessFix.Position

/-! Findings of the linter. A file, message and code are kept as the linter gave them, usually as texts. -/
namespace AccessFix

inductive Severity where
  | error
  | warning
  deriving DecidableEq, Repr, Inhabited

def Severity.name : Severity → String
  | .error => "error"
  | .warning => "warning"

def Severity.all : List Severity := [.error, .warning]

def Severity.ofName? (name : String) : Option Severity :=
  Severity.all.find? fun s => s.name = name

def toolName : String := "react-a11y-ai"

def fallbackCode : String := "react-a11y"

structure Issue where
  file : Json
  range : Range
  message : Json
  severity : Severity
  source : String
  code : Json
  deriving Repr, Inhabited

namespace Issue

def same (a b : Issue) : Bool :=
  a.file.sameKey b.file && a.range.same b.range && a.message.sameKey b.message && a.severity = b.severity
    && a.source = b.source && a.code.sameKey b.code

def line (i : Issue) : Number := i.range.start.line

def column (i : Issue) : Number := i.range.start.character

def endColumn (i : Issue) : Number := i.range.stop.character

def toJson (i : Issue) : Json :=
  .object [("file", i.file), ("line", .number i.line), ("column", .number i.column),
    ("end_column", .number i.endColumn), ("severity", .string i.severity.name),
    ("source", .string i.source), ("code", i.code), ("message", i.message)]

end Issue

abbrev IssueMap := List (Json × List Issue)

namespace IssueMap

def get? (m : IssueMap) (file : Json) : Option (List Issue) :=
  (List.find? (fun e => e.1.sameKey file) m).map Prod.snd

def insert (file : Json) (issues : List Issue) : IssueMap → IssueMap
  | [] => [(file, issues)]
  | (f, is) :: rest => if f.sameKey file then (f, issues) :: rest else (f, is) :: insert file issues rest

def erase (file : Json) (m : IssueMap) : IssueMap := List.filter (fun e => !e.1.sameKey file) m

def issues (m : IssueMap) : List Issue := List.flatMap Prod.snd m

end IssueMap

end AccessFix
