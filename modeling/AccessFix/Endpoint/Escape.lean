import AccessFix.Json.Printer
import AccessFix.Json.Reader
import AccessFix.Text.Alphanumeric
import AccessFix.Text.Numeral
import AccessFix.Text.Utf8

/-! Escapes in addresses: an octet as a percent sign and two hexadecimal digits. -/
namespace AccessFix.Endpoint

open Text (asciiLower isAsciiDigit)

def isAsciiLetter (c : Char) : Bool := ('a' ≤ c && c ≤ 'z') || ('A' ≤ c && c ≤ 'Z')

def isHexDigit (c : Char) : Bool := isAsciiDigit c || ('a' ≤ c && c ≤ 'f') || ('A' ≤ c && c ≤ 'F')

def asciiUpper (c : Char) : Char := if 'a' ≤ c ∧ c ≤ 'z' then Char.ofNat (c.toNat - 32) else c

def lower (cs : Letters) : Letters := cs.map (Letter.mapChar asciiLower)

def isUnreserved (c : Char) : Bool := isAsciiLetter c || isAsciiDigit c || "._-~".toList.contains c

def isUserChar (c : Char) : Bool := isUnreserved c || "!$&'()*+,;=:".toList.contains c

def isPathChar (c : Char) : Bool := isUserChar c || c = '@' || c = '/'

def isQueryChar (c : Char) : Bool := isPathChar c || c = '?'

def isAddressChar (c : Char) : Bool := isUnreserved c || "!#$%&'()*+,/:;=?@[]".toList.contains c

def upperHex (n : Nat) : Char := asciiUpper (Json.hexDigit n)

def octets : Letter → List UInt8
  | .char c => Text.Utf8.encodeChar c
  | .surrogate i =>
    let n := (Letter.surrogate i).code
    [0xED, Text.Utf8.octet (0x80 + n / 64 % 64), Text.Utf8.octet (0x80 + n % 64)]

def escapeLetter (c : Letter) : Letters :=
  (octets c).flatMap fun b => ['%', upperHex (b.toNat / 16), upperHex (b.toNat % 16)]

def upperEscapes : Letters → Nat × Letters
  | '%' :: a :: b :: rest =>
    if a.holds isHexDigit && b.holds isHexDigit then
      let (n, cs) := upperEscapes rest
      (n + 1, '%' :: a.mapChar asciiUpper :: b.mapChar asciiUpper :: cs)
    else
      let (n, cs) := upperEscapes (a :: b :: rest)
      (n, '%' :: cs)
  | c :: rest =>
    let (n, cs) := upperEscapes rest
    (n, c :: cs)
  | [] => (0, [])

def escape (allowed : Char → Bool) (cs : Letters) : Letters :=
  let (n, cs) := upperEscapes cs
  let keep := n = cs.count (.char '%')
  cs.flatMap fun c : Letter => if c.holds allowed || (keep && c = '%') then [c] else escapeLetter c

def escapedNumber? (a b : Letter) : Option Nat := do
  let value? (c : Letter) : Option Nat := (Json.hexValue? c) <|> (c.char?.bind Text.decimalValue?)
  return (← value? a) * 16 + (← value? b)

def unescape? : Letters → Option (Letters)
  | '%' :: a :: b :: rest =>
    match escapedNumber? a b with
    | some n =>
      let c := Char.ofNat n
      if isUnreserved c then (unescape? rest).map (.char c :: ·) else (unescape? rest).map fun r => '%' :: a :: b :: r
    | none =>
      if a.holds Text.isAlphanumeric && b.holds Text.isAlphanumeric then none
      else (unescape? (a :: b :: rest)).map (.char '%' :: ·)
  | c :: rest => (unescape? rest).map (c :: ·)
  | [] => some []

def unescapeOctets : Letters → List UInt8
  | '%' :: a :: b :: rest =>
    match Json.hexValue? a, Json.hexValue? b with
    | some x, some y => UInt8.ofNat (x * 16 + y) :: unescapeOctets rest
    | _, _ => 37 :: unescapeOctets (a :: b :: rest)
  | c :: rest => UInt8.ofNat c.code :: unescapeOctets rest
  | [] => []

def unescapeFrom (run : Letters) : Letters → Letters
  | [] => .ofChars (Text.Utf8.decodeLossy 0 [] (unescapeOctets run.reverse))
  | c :: rest =>
    if c.code < 128 then unescapeFrom (c :: run) rest
    else .ofChars (Text.Utf8.decodeLossy 0 [] (unescapeOctets run.reverse)) ++ c :: unescapeFrom [] rest

def unescapeText (cs : Letters) : Letters := unescapeFrom [] cs

end AccessFix.Endpoint
