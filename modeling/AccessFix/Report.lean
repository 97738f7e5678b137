import AccessFix.Calendar
import AccessFix.Findings
import AccessFix.Json.Printer
import AccessFix.Sorting

/-! The report of one run of the checks: all issues in order, and how many there are by severity and by rule. Rules are
listed in their order, texts by code points and numbers by value; the two kinds have no common order. -/
namespace AccessFix

structure Report where
  workspace : String
  created : DateTime
  files : Nat
  errors : Nat
  warnings : Nat
  rules : List (Json × Nat)
  issues : List Issue
  deriving Repr

namespace Report

def total (r : Report) : Nat := r.errors + r.warnings

def tally (code : Json) : List (Json × Nat) → List (Json × Nat)
  | [] => [(code, 1)]
  | (c, n) :: rest => if c.sameKey code then (c, n + 1) :: rest else (c, n) :: tally code rest

def countCodes (issues : List Issue) : Except ShapeFault (List (Json × Nat)) :=
  if issues.all fun i => i.code.isKey then .ok (issues.foldl (fun counts i => tally i.code counts) [])
  else .error .wrongKind

def codeBefore (a b : Json) : Bool :=
  match a, b with
  | .string s, .string t => decide (s < t)
  | _, _ =>
    match a.number?, b.number? with
    | some m, some n => m.less n
    | _, _ => false

def isText : Json → Bool
  | .string _ => true
  | _ => false

def sortCodes (counts : List (Json × Nat)) : Except ShapeFault (List (Json × Nat)) :=
  let codes := counts.map Prod.fst
  if counts.length ≤ 1 || codes.all isText || codes.all fun c => c.number?.isSome then
    .ok (Sorting.sort (fun a b => codeBefore a.1 b.1) counts)
  else .error .wrongKind

def countSeverity (s : Severity) (issues : List Issue) : Nat := issues.countP fun i => i.severity = s

def build (workspace : String) (now : DateTime) (found : IssueMap) : Except ShapeFault Report := do
  let issues := found.issues
  let rules ← sortCodes (← countCodes issues)
  return {
    workspace := workspace
    created := now
    files := found.length
    errors := countSeverity .error issues
    warnings := countSeverity .warning issues
    rules := rules
    issues := issues }

def codeName : Json → Letters
  | .string s => s
  | v => Json.print Json.compactAscii v

def ofCount (n : Nat) : Json := .ofInt n

def toJsonWith (rules : Json) (r : Report) : Json :=
  .object [("report_type", .string "a11y_issues"), ("workspace", .string r.workspace),
    ("generated_at", .string (r.created.text "T")),
    ("summary", .object [("total", ofCount r.total), ("files", ofCount r.files),
      ("by_severity", .object [(Severity.error.name, ofCount r.errors), (Severity.warning.name, ofCount r.warnings)]),
      ("by_rule", rules)]),
    ("issues", .array (r.issues.map Issue.toJson))]

def toJson (r : Report) : Json :=
  r.toJsonWith (.object (r.rules.map fun c => (codeName c.1, ofCount c.2)))

end Report

end AccessFix
