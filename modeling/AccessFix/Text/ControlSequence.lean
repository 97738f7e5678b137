import AccessFix.Letter

/-! Control sequences, by which text sets colours and moves the cursor of a terminal: an escape character, an opening
bracket, parameters, and the letter that says what to do. Where output is no terminal they are left out. -/
namespace AccessFix.Text

def isParameterLetter (c : Letter) : Bool := (.char '0' ≤ c && c ≤ .char '9') || c = ';' || c = '?'

def isFinalLetter (c : Letter) : Bool := (.char 'A' ≤ c && c ≤ .char 'Z') || (.char 'a' ≤ c && c ≤ .char 'z')

def afterControlSequence? : Letters → Option Letters
  | e :: '[' :: rest =>
    if e.code = 27 then
      match rest.dropWhile isParameterLetter with
      | c :: rest => if isFinalLetter c then some rest else none
      | [] => none
    else none
  | _ => none

/-- Drops the control sequences that start within the first `fuel` letters. What is left on both sides of one is not
read together. -/
def plainFrom : Nat → Letters → Letters
  | 0, cs => cs
  | fuel + 1, cs =>
    match afterControlSequence? cs with
    | some rest => plainFrom fuel rest
    | none =>
      match cs with
      | [] => []
      | c :: rest => c :: plainFrom fuel rest

def plain (cs : Letters) : Letters := plainFrom cs.length cs

end AccessFix.Text
