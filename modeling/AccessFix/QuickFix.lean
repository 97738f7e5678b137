import AccessFix.Edit
import AccessFix.Findings
import AccessFix.Json.Shown

/-! Quick fixes: one action for each issue of this tool, which calls the fix command with the document and the issue. A
selector lists the languages and schemes of the documents it is for. -/
namespace AccessFix

def fixCommand : String := "react-a11y-ai.fixWithAI"

def checkCommand : String := "react-a11y-ai.runCheck"

structure FixAction where
  issue : Issue
  document : BufferId
  deriving Repr

namespace FixAction

def kind : String := "quickfix"

def commandTitle : String := "Fix with AI"

def title (a : FixAction) : Letters := commandTitle ++ ": " ++ a.issue.message.text

end FixAction

inductive Filter where
  | asking (language scheme : Option Json)
  | other (v : Json)
  deriving Repr

abbrev Selector := List Filter

def Filter.agree : Option Json → Option Json → Bool
  | none, none => true
  | some v, some w => v.sameKey w
  | _, _ => false

def Filter.same : Filter → Filter → Bool
  | .asking language scheme, .asking language' scheme' => agree language language' && agree scheme scheme'
  | .other v, .other w => v.sameKey w
  | _, _ => false

def Selector.same (a b : Selector) : Bool :=
  a.length == b.length && (a.zip b).all fun p => p.1.same p.2

def componentFiles : Selector :=
  [.asking (some (.string "javascriptreact")) (some (.string "file")),
   .asking (some (.string "typescriptreact")) (some (.string "file"))]

def Filter.accepts (d : Document) : Filter → Except ShapeFault Bool
  | .asking none _ => .error .missingMember
  | .asking (some language) scheme =>
    if !(Json.string d.languageId).same language then .ok false
    else
      match scheme with
      | none => .error .missingMember
      | some scheme => .ok ((Json.string d.scheme).same scheme)
  | .other _ => .error .wrongKind

def Selector.accepts (d : Document) : Selector → Except ShapeFault Bool
  | [] => .ok false
  | f :: rest => do
    if ← f.accepts d then return true else Selector.accepts d rest

def fixActions (document : BufferId) (issues : List Issue) : List FixAction :=
  (issues.filter fun i => i.source = toolName).map fun i => ⟨i, document⟩

end AccessFix
