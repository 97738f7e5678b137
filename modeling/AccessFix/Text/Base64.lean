import AccessFix.Text.Numeral

/-! Octets as text in base 64: three octets are four digits, and padding marks fill up the last group. -/
namespace AccessFix.Text.Base64

def digits : List Char := "ABCDEFGHIJKLMNOPQRSTUVWXYZabcdefghijklmnopqrstuvwxyz0123456789+/".toList

def digit (n : Nat) : Char := (digits[n % 64]?).getD '='

def encode : List UInt8 → List Char
  | [] => []
  | [a] =>
    let n := a.toNat * 65536
    [digit (n / 262144), digit (n / 4096), '=', '=']
  | [a, b] =>
    let n := a.toNat * 65536 + b.toNat * 256
    [digit (n / 262144), digit (n / 4096), digit (n / 64), '=']
  | a :: b :: c :: rest =>
    let n := a.toNat * 65536 + b.toNat * 256 + c.toNat
    digit (n / 262144) :: digit (n / 4096) :: digit (n / 64) :: digit n :: encode rest

def value? (c : Char) : Option Nat :=
  if 'A' ≤ c ∧ c ≤ 'Z' then some (c.toNat - 'A'.toNat)
  else if 'a' ≤ c ∧ c ≤ 'z' then some (c.toNat - 'a'.toNat + 26)
  else if isAsciiDigit c then some (c.toNat - '0'.toNat + 52)
  else if c = '+' then some 62
  else if c = '/' then some 63
  else none

/-- Octets of a text. Characters outside the alphabet are passed over. `count` and `carry` hold the digits of the
current group of four; two padding marks, or one after three digits, end the text. -/
def decodeFrom (count carry padding : Nat) (acc : List UInt8) : List Char → Option (List UInt8)
  | [] => if count = 0 then some acc.reverse else none
  | c :: rest =>
    if c = '=' then
      if 2 ≤ count ∧ 4 ≤ count + padding + 1 then some acc.reverse
      else decodeFrom count carry (if 2 ≤ count then padding + 1 else padding) acc rest
    else
      match value? c with
      | none => decodeFrom count carry padding acc rest
      | some v =>
        let octet (n : Nat) : UInt8 := UInt8.ofNat n
        if count = 0 then decodeFrom 1 v 0 acc rest
        else if count = 1 then decodeFrom 2 (v % 16) 0 (octet (carry * 4 + v / 16) :: acc) rest
        else if count = 2 then decodeFrom 3 (v % 4) 0 (octet (carry * 16 + v / 4) :: acc) rest
        else decodeFrom 0 0 0 (octet (carry * 64 + v) :: acc) rest

def decode? (cs : List Char) : Option (List UInt8) := decodeFrom 0 0 0 [] cs

end AccessFix.Text.Base64
