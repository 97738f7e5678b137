import AccessFix.Calendar
import AccessFix.Letter
import AccessFix.Text.Utf8

/-! A place in a YAML text: what is left of it, and how many characters, lines and columns precede it. The end of the
text reads as the character zero, which no YAML text may hold. Where only a first part of the text can be read, the fault
of what follows counts as soon as a reader gets to its end. -/
namespace AccessFix.Yaml

inductive Fault where
  | malformed
  | encoding (fault : Text.Utf8.Fault)
  | integer (text : Letters) (base : Nat)
  | tooManyDigits (count : Nat)
  | decimal (text : Letters)
  | emptyNumber
  | notBoolean
  | notTimestamp
  | notText
  | tooDeep
  | calendar (fault : CalendarFault)
  | beyondUnicode (code : Nat)
  | hugeFactor
  deriving DecidableEq, Repr

structure Source where
  text : List Char
  ending : Option Fault
  deriving DecidableEq, Repr, Inhabited

structure Cursor where
  rest : List Char
  ending : Option Fault
  index : Nat
  line : Nat
  column : Nat
  deriving Repr, Inhabited

def isBreak (c : Char) : Bool :=
  c = '\n' || c = '\r' || c.toNat = 0x85 || c.toNat = 0x2028 || c.toNat = 0x2029

def isEnd (c : Char) : Bool := c.toNat = 0

def isBreakOrEnd (c : Char) : Bool := isEnd c || isBreak c

def isGap (c : Char) : Bool := c = ' ' || isBreakOrEnd c

def isWhite (c : Char) : Bool := c = '\t' || isGap c

def isWordChar (c : Char) : Bool :=
  ('0' ≤ c && c ≤ '9') || ('A' ≤ c && c ≤ 'Z') || ('a' ≤ c && c ≤ 'z') || c = '-' || c = '_'

def isDigit (c : Char) : Bool := '0' ≤ c && c ≤ '9'

namespace Cursor

def start (source : Source) : Cursor := ⟨source.text, source.ending, 0, 0, 0⟩

def demand (c : Cursor) (n : Nat) : Except Fault Unit :=
  match c.ending with
  | some fault => if (c.rest.drop (n - 1)).isEmpty && n ≠ 0 then .error fault else .ok ()
  | none => .ok ()

def refuse {α : Type} (c : Cursor) : Except Fault α := do
  c.demand 1
  throw .malformed

def ahead (c : Cursor) (n : Nat) : Char := c.rest[n]?.getD (Char.ofNat 0)

def peek (c : Cursor) : Char := c.ahead 0

def next (c : Cursor) : Cursor :=
  match c.rest with
  | [] => c
  | x :: rest =>
    if x = '\n' || x.toNat = 0x85 || x.toNat = 0x2028 || x.toNat = 0x2029
        || (x = '\r' && rest.head? ≠ some '\n') then
      ⟨rest, c.ending, c.index + 1, c.line + 1, 0⟩
    else if x.toNat = 0xFEFF then ⟨rest, c.ending, c.index + 1, c.line, c.column⟩
    else ⟨rest, c.ending, c.index + 1, c.line, c.column + 1⟩

def advance (c : Cursor) : Nat → Cursor
  | 0 => c
  | n + 1 => c.next.advance n

def takeWhile (c : Cursor) (p : Char → Bool) : List Char × Cursor :=
  let cs := c.rest.takeWhile p
  (cs, c.advance cs.length)

def skipWhile (c : Cursor) (p : Char → Bool) : Cursor := (c.takeWhile p).2

def skipBlanks (c : Cursor) : Cursor := c.skipWhile (· = ' ')

def skipLine (c : Cursor) : Cursor := c.skipWhile fun x => !isBreakOrEnd x

def skipComment (c : Cursor) : Cursor := if c.peek = '#' then c.skipLine else c

def takeBreak (c : Cursor) : List Char × Cursor :=
  match c.rest with
  | '\r' :: '\n' :: _ => (['\n'], c.advance 2)
  | x :: _ =>
    if x = '\r' ∨ x = '\n' ∨ x.toNat = 0x85 then (['\n'], c.next)
    else if isBreak x then ([x], c.next)
    else ([], c)
  | [] => ([], c)

def atMarker (c : Cursor) (x : Char) : Bool :=
  c.ahead 0 = x && c.ahead 1 = x && c.ahead 2 = x && isWhite (c.ahead 3)

def atDocumentMarker (c : Cursor) : Except Fault Bool := do
  c.demand 3
  if ["---".toList, "...".toList].contains (c.rest.take 3) then c.demand 4
  return c.atMarker '-' || c.atMarker '.'

end Cursor

def isAllowed (c : Char) : Bool :=
  let n := c.toNat
  n = 9 || n = 10 || n = 13 || (0x20 ≤ n && n ≤ 0x7E) || n = 0x85 || (0xA0 ≤ n && n ≤ 0xD7FF)
    || (0xE000 ≤ n && n ≤ 0xFFFD) || 0x10000 ≤ n

end AccessFix.Yaml
