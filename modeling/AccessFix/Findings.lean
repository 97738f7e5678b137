import AccessFix.Issue

/-! From the linter's results to issues by file. Lines and columns of the results count from one; what is absent or
zero counts as one. A file without messages is left out, and a later result for a file replaces the earlier one. -/
namespace AccessFix

inductive ShapeFault where
  | wrongKind
  | noMembers
  | missingMember
  deriving DecidableEq, Repr

def Json.items : Json → Except ShapeFault (List Json)
  | .array items => .ok items
  | .object members => .ok (members.map fun m => .string m.1)
  | .string s => .ok (s.map fun c => .string [c])
  | _ => .error .wrongKind

def Json.members : Json → Except ShapeFault (List (Letters × Json))
  | .object members => .ok members
  | _ => .error .noMembers

namespace Findings

def coordinate (v : Json) : Except ShapeFault Number :=
  if v.isPresent then
    match v.number? with
    | some n => .ok (n.addInt (-1))
    | none => .error .wrongKind
  else .ok 0

def severityOf (v : Json) : Severity :=
  if v.same (.number (.int 2)) then .error else .warning

def issue (file : Json) (message : Json) : Except ShapeFault Issue := do
  let members ← message.members
  let line ← coordinate (Json.member members "line")
  let column ← coordinate (Json.member members "column")
  let rule := Json.member members "ruleId"
  return {
    file := file
    range := Range.single line column
    message := (Json.member? members "message").getD (.string "")
    severity := severityOf (Json.member members "severity")
    source := toolName
    code := if rule.isPresent then rule else .string fallbackCode }

def messages (members : List (Letters × Json)) : Except ShapeFault (List Json) :=
  let v := Json.member members "messages"
  if v.isPresent then v.items else .ok []

def add (found : IssueMap) (result : Json) : Except ShapeFault IssueMap := do
  let members ← result.members
  let file := (Json.member? members "filePath").getD (.string "")
  let issues ← (← messages members).mapM (issue file)
  if issues.isEmpty then return found
  if !file.isKey then throw .wrongKind
  return found.insert file issues

def ofResults (results : Json) : Except ShapeFault IssueMap := do
  (← results.items).foldlM add []

end Findings

end AccessFix
