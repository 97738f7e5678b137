import AccessFix.Json
import AccessFix.Text.Numeral

/-! Reading JSON. Besides the standard's grammar, `NaN`, `Infinity` and `-Infinity` are numbers; a number with
a point or an exponent is binary64; of members with one name the last value counts, in the first one's place.
Escapes of two surrogates that make a pair are one character, and a surrogate without its other half stays as it is.
Collections may be nested only so deep. A fault carries what was left of the text, from which its position follows. -/
namespace AccessFix.Json

inductive Innermost where
  | array
  | object
  deriving DecidableEq, Repr

def Innermost.message (i : Innermost) : String :=
  let kind := match i with
    | .array => "array"
    | .object => "object"
  "maximum recursion depth exceeded while decoding a JSON " ++ kind ++ " from a unicode string"

inductive Reason where
  | value
  | comma
  | colon
  | propertyName
  | unterminated
  | control
  | escape
  | unicodeEscape
  | extra
  | byteOrderMark
  | tooManyDigits (count : Nat)
  | tooDeep (innermost : Innermost)
  deriving DecidableEq, Repr

structure Fault where
  reason : Reason
  rest : Letters
  deriving DecidableEq, Repr

def isBlank (c : Letter) : Bool := c = ' ' || c = '\t' || c = '\n' || c = '\r'

def skip (cs : Letters) : Letters := cs.dropWhile isBlank

def isDigit (c : Letter) : Bool := decide (.char '0' ≤ c) && decide (c ≤ .char '9')

def digitValue (c : Letter) : Nat := c.code - '0'.toNat

def natOfDigits (cs : Letters) : Nat := cs.foldl (fun n c => 10 * n + digitValue c) 0

def hexValue? (c : Letter) : Option Nat :=
  if isDigit c then some (digitValue c)
  else if .char 'a' ≤ c ∧ c ≤ .char 'f' then some (c.code - 'a'.toNat + 10)
  else if .char 'A' ≤ c ∧ c ≤ .char 'F' then some (c.code - 'A'.toNat + 10)
  else none

def readFourHex : Letters → Option (Nat × Letters)
  | a :: b :: c :: d :: rest => do
    let a ← hexValue? a
    let b ← hexValue? b
    let c ← hexValue? c
    let d ← hexValue? d
    some (((a * 16 + b) * 16 + c) * 16 + d, rest)
  | _ => none

def simpleEscape? (c : Letter) : Option Letter :=
  if c = '"' then some '"'
  else if c = '\\' then some '\\'
  else if c = '/' then some '/'
  else if c = 'b' then some (.ofCode 8)
  else if c = 'f' then some (.ofCode 12)
  else if c = 'n' then some '\n'
  else if c = 'r' then some '\r'
  else if c = 't' then some '\t'
  else none

def isHighUnit (n : Nat) : Bool := decide (0xD800 ≤ n) && decide (n ≤ 0xDBFF)

def isLowUnit (n : Nat) : Bool := decide (0xDC00 ≤ n) && decide (n ≤ 0xDFFF)

def pairLetter (high low : Nat) : Letter := .ofCode (0x10000 + (high - 0xD800) * 1024 + (low - 0xDC00))

def readLowUnit : Letters → Except Fault (Option (Nat × Letters))
  | '\\' :: 'u' :: rest =>
    if rest.length < 5 then .ok none
    else match readFourHex rest with
      | none => .error ⟨.unicodeEscape, 'u' :: rest⟩
      | some (n, rest) => .ok (if isLowUnit n then some (n, rest) else none)
  | _ => .ok none

def readUnitEscape (cs : Letters) : Except Fault (Letter × Letters) :=
  if cs.length < 5 then .error ⟨.unicodeEscape, 'u' :: cs⟩
  else match readFourHex cs with
    | none => .error ⟨.unicodeEscape, 'u' :: cs⟩
    | some (n, rest) =>
      if isHighUnit n then do
        match ← readLowUnit rest with
        | some (m, rest) => .ok (pairLetter n m, rest)
        | none => .ok (.ofCode n, rest)
      else .ok (.ofCode n, rest)

def readChars : Nat → Letters → Letters → Letters → Except Fault (Letters × Letters)
  | 0, start, _, _ => .error ⟨.unterminated, start⟩
  | fuel + 1, start, acc, cs =>
    match cs with
    | [] => .error ⟨.unterminated, start⟩
    | c :: rest =>
      if c = '"' then .ok (acc.reverse, rest)
      else if c = '\\' then
        match rest with
        | [] => .error ⟨.unterminated, start⟩
        | e :: rest' =>
          if e = 'u' then
            match readUnitEscape rest' with
            | .ok (d, rest'') => readChars fuel start (d :: acc) rest''
            | .error f => .error f
          else
            match simpleEscape? e with
            | some d => readChars fuel start (d :: acc) rest'
            | none => .error ⟨.escape, cs⟩
      else if c.code < 32 then .error ⟨.control, cs⟩
      else readChars fuel start (c :: acc) rest

def readString (cs : Letters) : Except Fault (Letters × Letters) :=
  readChars (cs.length + 1) ('"' :: cs) [] cs

def takeWhole : Letters → Option (Letters × Letters)
  | [] => none
  | c :: rest =>
    if c = '0' then some (['0'], rest)
    else if isDigit c then some (c :: rest.takeWhile isDigit, rest.dropWhile isDigit)
    else none

def takeFraction : Letters → Letters × Letters
  | '.' :: c :: rest =>
    if isDigit c then (c :: rest.takeWhile isDigit, rest.dropWhile isDigit) else ([], '.' :: c :: rest)
  | cs => ([], cs)

def takeExponent (cs : Letters) : Option Int × Letters :=
  match cs with
  | e :: rest =>
    if e = 'e' ∨ e = 'E' then
      let (negative, digits) := match rest with
        | '-' :: r => (true, r)
        | '+' :: r => (false, r)
        | r => (false, r)
      let ds := digits.takeWhile isDigit
      if ds.isEmpty then (none, cs)
      else
        let n : Int := natOfDigits ds
        (some (if negative then -n else n), digits.dropWhile isDigit)
    else (none, cs)
  | [] => (none, cs)

def readNumber (cs : Letters) : Except Fault (Number × Letters) :=
  let (negative, body) := match cs with
    | '-' :: r => (true, r)
    | r => (false, r)
  match takeWhole body with
  | none => .error ⟨.value, cs⟩
  | some (whole, rest) =>
    let (fraction, rest) := takeFraction rest
    let (exponent, rest) := takeExponent rest
    if fraction.isEmpty && exponent.isNone then
      if Text.digitLimit < whole.length then .error ⟨.tooManyDigits whole.length, cs⟩
      else
        let n : Int := natOfDigits whole
        .ok (.int (if negative then -n else n), rest)
    else
      let scale : Int := exponent.getD 0 - (fraction.length : Int)
      .ok (.real (Double.ofDecimal negative (natOfDigits (whole ++ fraction)) scale), rest)

def readWord? (cs : Letters) : Option (Json × Letters) :=
  let word (w : String) (v : Json) : Option (Json × Letters) :=
    if (letters w).isPrefixOf cs then some (v, cs.drop w.length) else none
  (word "null" .null) <|> (word "true" (.bool true)) <|> (word "false" (.bool false))
    <|> (word "NaN" (.number (.real (.nan 0))))
    <|> (word "Infinity" (.number (.real (.infinite false))))
    <|> (word "-Infinity" (.number (.real (.infinite true))))

mutual

def readValue : (fuel : Nat) → (room : Nat) → Letters → Except Fault (Json × Letters)
  | 0, _, cs => .error ⟨.value, cs⟩
  | fuel + 1, room, cs =>
    match cs with
    | [] => .error ⟨.value, []⟩
    | '"' :: rest => (readString rest).map fun r => (.string r.1, r.2)
    | '\x7b' :: rest =>
      match room with
      | 0 => .error ⟨.tooDeep .object, cs⟩
      | room + 1 =>
        match skip rest with
        | '\x7d' :: rest => .ok (.object [], rest)
        | rest => (readMembers fuel room [] rest).map fun r => (.object r.1, r.2)
    | '[' :: rest =>
      match room with
      | 0 => .error ⟨.tooDeep .array, cs⟩
      | room + 1 =>
        match skip rest with
        | ']' :: rest => .ok (.array [], rest)
        | rest => (readItems fuel room [] rest).map fun r => (.array r.1, r.2)
    | c :: rest =>
      match readWord? (c :: rest) with
      | some r => .ok r
      | none => (readNumber (c :: rest)).map fun r => (.number r.1, r.2)

def readItems : (fuel : Nat) → (room : Nat) → List Json → Letters → Except Fault (List Json × Letters)
  | 0, _, _, cs => .error ⟨.value, cs⟩
  | fuel + 1, room, acc, cs =>
    match readValue fuel room cs with
    | .error f => .error f
    | .ok (v, rest) =>
      match skip rest with
      | ']' :: rest => .ok ((v :: acc).reverse, rest)
      | ',' :: rest => readItems fuel room (v :: acc) (skip rest)
      | rest => .error ⟨.comma, rest⟩

def readMembers : (fuel : Nat) → (room : Nat) → List (Letters × Json) → Letters →
    Except Fault (List (Letters × Json) × Letters)
  | 0, _, _, cs => .error ⟨.value, cs⟩
  | fuel + 1, room, acc, cs =>
    match cs with
    | '"' :: rest =>
      match readString rest with
      | .error f => .error f
      | .ok (name, rest) =>
        match skip rest with
        | ':' :: rest =>
          match readValue fuel room (skip rest) with
          | .error f => .error f
          | .ok (v, rest) =>
            match skip rest with
            | '\x7d' :: rest => .ok (setMember name v acc, rest)
            | ',' :: rest => readMembers fuel room (setMember name v acc) (skip rest)
            | rest => .error ⟨.comma, rest⟩
        | rest => .error ⟨.colon, rest⟩
    | cs => .error ⟨.propertyName, cs⟩

end

def nestingLimit : Nat := 980

def read (cs : Letters) : Except Fault Json :=
  match cs with
  | c :: _ =>
    if c.code = 0xFEFF then .error ⟨.byteOrderMark, cs⟩
    else
      match readValue (2 * cs.length + 2) nestingLimit (skip cs) with
      | .error f => .error f
      | .ok (v, rest) => if (skip rest).isEmpty then .ok v else .error ⟨.extra, skip rest⟩
  | [] => .error ⟨.value, []⟩

def Reason.message : Reason → String
  | .value => "Expecting value"
  | .comma => "Expecting ',' delimiter"
  | .colon => "Expecting ':' delimiter"
  | .propertyName => "Expecting property name enclosed in double quotes"
  | .unterminated => "Unterminated string starting at"
  | .control => "Invalid control character at"
  | .escape => "Invalid \\escape"
  | .unicodeEscape => "Invalid \\uXXXX escape"
  | .extra => "Extra data"
  | .byteOrderMark => "Unexpected UTF-8 BOM (decode using utf-8-sig)"
  | .tooManyDigits n => Text.tooManyDigits n
  | .tooDeep innermost => innermost.message

def Fault.message (cs : Letters) (f : Fault) : String :=
  match f.reason with
  | .tooManyDigits _ | .tooDeep _ => f.reason.message
  | reason =>
    let offset := cs.length - f.rest.length
    let before := cs.take offset
    let line := before.count (.char '\n') + 1
    let column := (before.reverse.takeWhile (· ≠ .char '\n')).length + 1
    reason.message ++ ": line " ++ toString line ++ " column " ++ toString column
      ++ " (char " ++ toString offset ++ ")"

end AccessFix.Json
