import AccessFix.Text.Blank

/-! Free-form replies. The fixed code is the inside of the first fenced block, after an optional line with a tag; the
explanation is what follows the first mark `Explanation:` in any letter case. Both are trimmed, and either may be
empty. -/
namespace AccessFix

structure Reply where
  code : Letters
  explanation : Letters
  deriving DecidableEq, Repr

namespace Reply

def fence : Letters := List.replicate 3 (.ofCode 96)

def splitFence? : Letters → Option (Letters × Letters)
  | [] => none
  | c :: rest =>
    if fence.isPrefixOf (c :: rest) then some ([], rest.drop 2)
    else (splitFence? rest).map fun r => (c :: r.1, r.2)

def isTagLetter (c : Letter) : Bool :=
  (.char 'A' ≤ c && c ≤ .char 'Z') || (.char 'a' ≤ c && c ≤ .char 'z') || (.char '0' ≤ c && c ≤ .char '9')
    || c = '_' || c = '+' || c = '-'

def dropTagLine (cs : Letters) : Letters :=
  match cs.dropWhile isTagLetter with
  | '\n' :: rest => rest
  | '\r' :: '\n' :: rest => rest
  | _ => cs

def block? (cs : Letters) : Option (Letters) := do
  let (_, inside) ← splitFence? cs
  let (code, _) ← splitFence? (dropTagLine inside)
  return code

def mark : Letters := "explanation:"

/-- Whether a character is a given lower-case one, letter case aside. The dotted capital and the dotless small `i` count
as `i`. -/
def matchesLetter (lower c : Letter) : Bool :=
  c == lower || (.char 'a' ≤ lower && lower ≤ .char 'z' && c.code + 32 == lower.code)
    || (lower == .char 'i' && (c.code == 0x130 || c.code == 0x131))

def dropWord? : Letters → Letters → Option (Letters)
  | [], cs => some cs
  | _ :: _, [] => none
  | w :: ws, c :: cs => if matchesLetter w c then dropWord? ws cs else none

def afterMark? (cs : Letters) : Option (Letters) :=
  match dropWord? mark cs with
  | some rest => some rest
  | none =>
    match cs with
    | [] => none
    | _ :: rest => afterMark? rest

def ofText (cs : Letters) : Reply where
  code := Text.trim ((block? cs).getD [])
  explanation := Text.trim ((afterMark? cs).getD [])

end Reply

end AccessFix
