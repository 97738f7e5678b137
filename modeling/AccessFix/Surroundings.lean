import AccessFix.Calendar
import AccessFix.Completion
import AccessFix.Lint

/-! What a run meets outside itself: how the linter and the transport answer, the time, and the key that the environment
holds, empty if there is none. A trace lists what a run did with them. -/
namespace AccessFix

structure Surroundings where
  lint : LintCall → LintOutcome
  send : Request → Delivery
  now : DateTime
  outerKey : Letters

structure Trace where
  calls : List LintCall := []
  sent : List Request := []
  closed : Nat := 0
  deriving Repr

def Trace.append (a b : Trace) : Trace := ⟨a.calls ++ b.calls, a.sent ++ b.sent, a.closed + b.closed⟩

end AccessFix
