import AccessFix.Issue

/-! The issues shown to the user, by file. A file without issues is not listed; a file keeps its place until its issues
are removed; publishing a mapping replaces everything. -/
namespace AccessFix

structure IssueStore where
  name : String
  entries : IssueMap
  deriving Repr, Inhabited

namespace IssueStore

def new (name : String) : IssueStore := ⟨name, []⟩

def clear (s : IssueStore) : IssueStore := { s with entries := [] }

def set (s : IssueStore) (file : Json) (issues : List Issue) : IssueStore :=
  { s with entries := if issues.isEmpty then s.entries.erase file else s.entries.insert file issues }

def get (s : IssueStore) (file : Json) : List Issue := (s.entries.get? file).getD []

def paths (s : IssueStore) : List Json := s.entries.map Prod.fst

def all (s : IssueStore) : List Issue := s.entries.issues

def contains (s : IssueStore) (file : Json) : Bool := (s.entries.get? file).isSome

def issuesAt (s : IssueStore) (file : Json) (range : Range) : List Issue :=
  (s.get file).filter fun i => i.range.intersects range

def size (s : IssueStore) : Nat := s.entries.foldl (fun n e => n + e.2.length) 0

def publish (s : IssueStore) (found : IssueMap) : IssueStore :=
  found.foldl (fun s e => s.set e.1 e.2) s.clear

end IssueStore

end AccessFix
