import AccessFix.Text.Printable
import AccessFix.Json.Printer

/-! Text between quotes, as messages show it. The quote is single unless the text holds a single and no double
one. A backslash, the quote, and what does not print, a surrogate among it, are escaped by letter or by number. -/
namespace AccessFix.Text
open AccessFix.Json (hexDigit fourHex)

def quoteFor (cs : Letters) : Char :=
  if cs.contains (.char '\'') && !cs.contains (.char '"') then '"' else '\''

def twoHex (n : Nat) : List Char := [hexDigit (n / 16 % 16), hexDigit (n % 16)]

def numbered (n : Nat) : List Char :=
  if n < 0x100 then '\\' :: 'x' :: twoHex n
  else if n < 0x10000 then '\\' :: 'u' :: fourHex n
  else '\\' :: 'U' :: fourHex (n / 0x10000) ++ fourHex n

def escapeChar (q : Char) (c : Char) : List Char :=
  if c = q ∨ c = '\\' then ['\\', c]
  else if c = '\n' then ['\\', 'n']
  else if c = '\r' then ['\\', 'r']
  else if c = '\t' then ['\\', 't']
  else if isPrintable c then [c]
  else numbered c.toNat

def escape (q : Char) : Letter → List Char
  | .char c => escapeChar q c
  | .surrogate i => numbered (Letter.surrogate i).code

def quotedChars (cs : Letters) : List Char :=
  let q := quoteFor cs
  q :: cs.flatMap (escape q) ++ [q]

def quoted (cs : Letters) : String := String.ofList (quotedChars cs)

def shown (cs : Letters) : String :=
  String.ofList (cs.flatMap fun
    | .char c => [c]
    | .surrogate i => numbered (Letter.surrogate i).code)

def escapeOctet (q : Char) (b : UInt8) : List Char :=
  let c := Char.ofNat b.toNat
  if c = q ∨ c = '\\' then ['\\', c]
  else if c = '\n' then ['\\', 'n']
  else if c = '\r' then ['\\', 'r']
  else if c = '\t' then ['\\', 't']
  else if 32 ≤ b.toNat ∧ b.toNat < 127 then [c]
  else '\\' :: 'x' :: twoHex b.toNat

def quotedOctets (bs : List UInt8) : String :=
  let q := quoteFor (bs.map fun b => .char (Char.ofNat b.toNat))
  String.ofList ('b' :: q :: bs.flatMap (escapeOctet q) ++ [q])

end AccessFix.Text
