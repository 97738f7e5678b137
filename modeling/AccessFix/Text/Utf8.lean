/-! UTF-8: strict decoding with the position and cause of the first fault, decoding with replacement characters,
and encoding. A fault covers the longest start of a character that could still have become one. -/
namespace AccessFix.Text.Utf8

inductive Reason where
  | start
  | continuation
  | ended
  deriving DecidableEq, Repr

structure Fault where
  octet : UInt8
  first : Nat
  length : Nat
  reason : Reason
  deriving DecidableEq, Repr

def isContinuation (b : UInt8) : Bool := 0x80 ≤ b && b ≤ 0xBF

def shape? (b : UInt8) : Option (Nat × UInt8 × UInt8) :=
  if 0xC2 ≤ b ∧ b ≤ 0xDF then some (2, 0x80, 0xBF)
  else if b = 0xE0 then some (3, 0xA0, 0xBF)
  else if b = 0xED then some (3, 0x80, 0x9F)
  else if 0xE1 ≤ b ∧ b ≤ 0xEF then some (3, 0x80, 0xBF)
  else if b = 0xF0 then some (4, 0x90, 0xBF)
  else if b = 0xF4 then some (4, 0x80, 0x8F)
  else if 0xF1 ≤ b ∧ b ≤ 0xF3 then some (4, 0x80, 0xBF)
  else none

def low (b : UInt8) : Nat := b.toNat % 64

inductive Step where
  | char (c : Char) (count : Nat)
  | bad (count : Nat) (reason : Reason)
  deriving DecidableEq, Repr

def step (b : UInt8) (rest : List UInt8) : Step :=
  if b < 0x80 then .char (Char.ofNat b.toNat) 1
  else
    match shape? b with
    | none => .bad 1 .start
    | some (count, lo, hi) =>
      match rest with
      | [] => .bad 1 .ended
      | c :: rest =>
        if c < lo ∨ hi < c then .bad 1 .continuation
        else if count = 2 then .char (Char.ofNat (b.toNat % 32 * 64 + low c)) 2
        else
          match rest with
          | [] => .bad 2 .ended
          | d :: rest =>
            if !isContinuation d then .bad 2 .continuation
            else if count = 3 then .char (Char.ofNat ((b.toNat % 16 * 64 + low c) * 64 + low d)) 3
            else
              match rest with
              | [] => .bad 3 .ended
              | e :: _ =>
                if !isContinuation e then .bad 3 .continuation
                else .char (Char.ofNat (((b.toNat % 8 * 64 + low c) * 64 + low d) * 64 + low e)) 4

def decodeFrom (position skip : Nat) (acc : List Char) : List UInt8 → Except Fault (List Char)
  | [] => .ok acc.reverse
  | b :: rest =>
    match skip with
    | n + 1 => decodeFrom (position + 1) n acc rest
    | 0 =>
      match step b rest with
      | .char c count => decodeFrom (position + 1) (count - 1) (c :: acc) rest
      | .bad count reason => .error ⟨b, position, count, reason⟩

def decode (bs : List UInt8) : Except Fault (List Char) := decodeFrom 0 0 [] bs

def Fault.isOpen (f : Fault) (bs : List UInt8) : Bool :=
  f.reason = .ended ||
    match bs.drop f.first with
    | [b, c] => b = 0xED && isContinuation c
    | _ => false

def decodePart (bs : List UInt8) : Except Fault (List Char × List UInt8) := do
  match decode bs with
  | .ok cs => return (cs, [])
  | .error f =>
    if !f.isOpen bs then throw f
    return (← decode (bs.take f.first), bs.drop f.first)

def decodeLossy (skip : Nat) (acc : List Char) : List UInt8 → List Char
  | [] => acc.reverse
  | b :: rest =>
    match skip with
    | n + 1 => decodeLossy n acc rest
    | 0 =>
      match step b rest with
      | .char c count => decodeLossy (count - 1) (c :: acc) rest
      | .bad count _ => decodeLossy (count - 1) (Char.ofNat 0xFFFD :: acc) rest

def octet (n : Nat) : UInt8 := UInt8.ofNat n

def encodeChar (c : Char) : List UInt8 :=
  let n := c.toNat
  if n < 0x80 then [octet n]
  else if n < 0x800 then [octet (0xC0 + n / 64), octet (0x80 + n % 64)]
  else if n < 0x10000 then [octet (0xE0 + n / 4096), octet (0x80 + n / 64 % 64), octet (0x80 + n % 64)]
  else [octet (0xF0 + n / 262144), octet (0x80 + n / 4096 % 64), octet (0x80 + n / 64 % 64), octet (0x80 + n % 64)]

def encode (cs : List Char) : List UInt8 := cs.flatMap encodeChar

def Reason.message : Reason → String
  | .start => "invalid start byte"
  | .continuation => "invalid continuation byte"
  | .ended => "unexpected end of data"

def hexOctet (b : UInt8) : String :=
  let digit (n : Nat) : Char := if n < 10 then Char.ofNat (48 + n) else Char.ofNat (87 + n)
  String.ofList [digit (b.toNat / 16), digit (b.toNat % 16)]

def Fault.message (f : Fault) : String :=
  if f.length = 1 then
    "'utf-8' codec can't decode byte 0x" ++ hexOctet f.octet ++ " in position " ++ toString f.first
      ++ ": " ++ f.reason.message
  else
    "'utf-8' codec can't decode bytes in position " ++ toString f.first ++ "-"
      ++ toString (f.first + f.length - 1) ++ ": " ++ f.reason.message

end AccessFix.Text.Utf8
