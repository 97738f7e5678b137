import AccessFix.Json
import AccessFix.Text.Numeral

/-! The written form of JSON: compact, or indented by two blanks a level.
Strings are written either in ASCII alone, with UTF-16 units for all else, or with only quotes, backslashes
and control characters escaped. -/
namespace AccessFix.Json
open Letter (char)

def hexDigit (n : Nat) : Char :=
  if n < 10 then Char.ofNat ('0'.toNat + n) else Char.ofNat ('a'.toNat + (n - 10))

def fourHex (n : Nat) : List Char :=
  [hexDigit (n / 4096 % 16), hexDigit (n / 256 % 16), hexDigit (n / 16 % 16), hexDigit (n % 16)]

def unitEscape (n : Nat) : Letters := '\\' :: 'u' :: Letters.ofChars (fourHex n)

def unitsEscape (code : Nat) : Letters :=
  if code < 0x10000 then unitEscape code
  else
    let n := code - 0x10000
    unitEscape (0xD800 + n / 1024) ++ unitEscape (0xDC00 + n % 1024)

def escape (ascii : Bool) (c : Letter) : Letters :=
  if c = '"' then ['\\', '"']
  else if c = '\\' then ['\\', '\\']
  else if c = '\n' then ['\\', 'n']
  else if c = '\r' then ['\\', 'r']
  else if c = '\t' then ['\\', 't']
  else if c.code = 8 then ['\\', 'b']
  else if c.code = 12 then ['\\', 'f']
  else if c.code < 32 then unitEscape c.code
  else if ascii && decide (126 < c.code) then unitsEscape c.code
  else [c]

def quote (ascii : Bool) (s : Letters) : Letters := char '"' :: s.flatMap (escape ascii) ++ [char '"']

def realText : Double → String
  | .nan _ => "NaN"
  | .infinite s => if s then "-Infinity" else "Infinity"
  | x => x.text

def numberText : Number → String
  | .int n => toString n
  | .real x => realText x

structure Layout where
  ascii : Bool
  indented : Bool
  deriving DecidableEq, Repr

def compactAscii : Layout := ⟨true, false⟩

def Layout.open (l : Layout) (depth : Nat) : Letters :=
  if l.indented then '\n' :: List.replicate (2 * depth) ' ' else []

def Layout.between (l : Layout) (depth : Nat) : Letters :=
  if l.indented then ',' :: l.open depth else [',', ' ']

mutual

def write (l : Layout) (depth : Nat) : Json → Letters
  | .null => "null"
  | .bool b => if b then "true" else "false"
  | .number n => numberText n
  | .string s => quote l.ascii s
  | .array [] => "[]"
  | .array (x :: xs) =>
    char '[' :: l.open (depth + 1) ++ write l (depth + 1) x ++ writeItems l (depth + 1) xs
      ++ l.open depth ++ [char ']']
  | .object [] => "\x7b\x7d"
  | .object ((n, v) :: ms) =>
    char '\x7b' :: l.open (depth + 1) ++ quote l.ascii n ++ char ':' :: char ' ' :: write l (depth + 1) v
      ++ writeMembers l (depth + 1) ms ++ l.open depth ++ [char '\x7d']

def writeItems (l : Layout) (depth : Nat) : List Json → Letters
  | [] => []
  | x :: xs => l.between depth ++ write l depth x ++ writeItems l depth xs

def writeMembers (l : Layout) (depth : Nat) : List (Letters × Json) → Letters
  | [] => []
  | (n, v) :: ms =>
    l.between depth ++ quote l.ascii n ++ char ':' :: char ' ' :: write l depth v ++ writeMembers l depth ms

end

def print (l : Layout) (v : Json) : Letters := write l 0 v

mutual

def numbersAre (p : Number → Bool) : Json → Bool
  | .number n => p n
  | .array items => itemsAre p items
  | .object members => membersAre p members
  | _ => true

def itemsAre (p : Number → Bool) : List Json → Bool
  | [] => true
  | x :: xs => numbersAre p x && itemsAre p xs

def membersAre (p : Number → Bool) : List (Letters × Json) → Bool
  | [] => true
  | (_, v) :: ms => numbersAre p v && membersAre p ms

end

def isFinite (v : Json) : Bool := v.numbersAre Number.isFinite

def hasText : Number → Bool
  | .int n => Text.isWritable n
  | .real _ => true

def isWritable (v : Json) : Bool := v.numbersAre hasText

end AccessFix.Json
