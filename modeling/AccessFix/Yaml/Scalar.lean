import AccessFix.Text.Numeral
import AccessFix.Value
import AccessFix.Text.Base64
import AccessFix.Yaml.Cursor

/-! Scalars of YAML: which kind the text of a plain scalar implies, and the value of a text of each kind. -/
namespace AccessFix.Yaml

def standard (name : String) : String := "tag:yaml.org,2002:" ++ name

abbrev Rest := Option (List Char)

namespace Pattern

def optional (p : Char → Bool) : List Char → List Char
  | c :: rest => if p c then rest else c :: rest
  | [] => []

def one (p : Char → Bool) : List Char → Rest
  | c :: rest => if p c then some rest else none
  | [] => none

def many (p : Char → Bool) (cs : List Char) : List Char := cs.dropWhile p

def some? (p : Char → Bool) (cs : List Char) : Rest := (one p cs).map (many p)

def sign (cs : List Char) : List Char := optional (fun c => c = '+' || c = '-') cs

def spaced (c : Char) : Bool := isDigit c || c = '_'

def sixties : Nat → List Char → Rest
  | 0, _ => none
  | fuel + 1, ':' :: a :: rest =>
    let two : Rest := match rest with
      | b :: rest' => if '0' ≤ a && a ≤ '5' && isDigit b then some rest' else none
      | [] => none
    let oneDigit : Rest := if isDigit a then some rest else none
    let continueFrom (r : Rest) : Rest := match r with
      | some cs => if cs.head? = some ':' then sixties fuel cs else some cs
      | none => none
    (continueFrom two) <|> (continueFrom oneDigit)
  | _, _ => none

def exponent (cs : List Char) : List Char :=
  match cs with
  | e :: s :: d :: rest =>
    if (e = 'e' || e = 'E') && (s = '+' || s = '-') && isDigit d then many isDigit rest else cs
  | _ => cs

def isAll (r : Rest) : Bool := r = some []

def dropFinalBreak (cs : List Char) : List Char :=
  if cs.getLast? = some '\n' ∧ cs.length ≠ 1 then cs.dropLast else cs

def isFloat (cs : List Char) : Bool :=
  let body := sign cs
  let name := String.ofList body
  isAll (do
    let r ← some? isDigit body
    let r ← one (· = '.') (many spaced r)
    return exponent (many spaced r))
  || isAll (do
    let r ← one (· = '.') cs
    let r ← one isDigit r
    return exponent (many spaced r))
  || isAll (do
    let r ← one isDigit body
    let r ← sixties cs.length (many spaced r)
    let r ← one (· = '.') r
    return many spaced r)
  || name = ".inf" || name = ".Inf" || name = ".INF"
  || cs = ".nan".toList || cs = ".NaN".toList || cs = ".NAN".toList

def isInt (cs : List Char) : Bool :=
  let body := sign cs
  let based (mark : Char) (digit : Char → Bool) : Bool :=
    match body with
    | '0' :: m :: d :: rest => m = mark && (digit d || d = '_') && rest.all fun c => digit c || c = '_'
    | _ => false
  let octal : Bool := match body with
    | '0' :: d :: rest => (d :: rest).all fun c => ('0' ≤ c && c ≤ '7') || c = '_'
    | _ => false
  let startsHigh : Bool := match body with
    | c :: _ => '1' ≤ c && c ≤ '9'
    | [] => false
  based 'b' (fun c => c = '0' || c = '1') || octal || body = ['0']
    || (startsHigh && body.all spaced)
    || based 'x' (fun c => isDigit c || ('a' ≤ c && c ≤ 'f') || ('A' ≤ c && c ≤ 'F'))
    || (startsHigh && isAll (sixties cs.length (many spaced body)))

def isBoolWord (s : String) : Bool :=
  ["yes", "Yes", "YES", "no", "No", "NO", "true", "True", "TRUE", "false", "False", "FALSE",
    "on", "On", "ON", "off", "Off", "OFF"].contains s

def isNullWord (s : String) : Bool := ["", "~", "null", "Null", "NULL"].contains s

end Pattern

structure TimestampText where
  year : List Char
  month : List Char
  day : List Char
  time : Option (List Char × List Char × List Char)
  fraction : List Char
  zone : Option (Char × List Char × List Char)
  deriving DecidableEq, Repr

namespace TimestampText

def field (least : Nat) (cs : List Char) : Option (List Char × List Char) :=
  let ds := (cs.take 2).takeWhile isDigit
  if ds.length < least then none else some (ds, cs.drop ds.length)

def char (c : Char) : List Char → Option (List Char)
  | x :: rest => if x = c then some rest else none
  | [] => none

def blanks (cs : List Char) : List Char := cs.dropWhile fun c => c = ' ' || c = '\t'

def readZone (cs : List Char) : Option (Option (Char × List Char × List Char)) :=
  if cs.isEmpty then some none
  else
    match blanks cs with
    | ['Z'] => some (some ('Z', [], []))
    | s :: rest =>
      if s = '+' ∨ s = '-' then do
        let (hours, rest) ← field 1 rest
        if rest.isEmpty then return some (s, hours, [])
        let rest ← char ':' rest
        let (minutes, rest) ← field 2 rest
        if rest.isEmpty then return some (s, hours, minutes) else none
      else none
    | [] => none

def read (strict : Bool) (cs : List Char) : Option TimestampText := do
  let cs := Pattern.dropFinalBreak cs
  let year := cs.take 4
  if year.length ≠ 4 ∨ !year.all isDigit then none
  let rest ← char '-' (cs.drop 4)
  let (month, rest) ← field 1 rest
  let rest ← char '-' rest
  let (day, rest) ← field 1 rest
  if rest.isEmpty then
    if strict && (month.length ≠ 2 || day.length ≠ 2) then none
    else return ⟨year, month, day, none, [], none⟩
  else
    let rest ← match rest with
      | 'T' :: r => some r
      | 't' :: r => some r
      | c :: r => if c = ' ' ∨ c = '\t' then some (blanks r) else none
      | [] => none
    let (hour, rest) ← field 1 rest
    let rest ← char ':' rest
    let (minute, rest) ← field 2 rest
    let rest ← char ':' rest
    let (second, rest) ← field 2 rest
    let (fraction, rest) := match rest with
      | '.' :: r => (r.takeWhile isDigit, r.dropWhile isDigit)
      | r => ([], r)
    let zone ← readZone rest
    return ⟨year, month, day, some (hour, minute, second), fraction, zone⟩

def value (t : TimestampText) : Except Fault Value :=
  let n := Text.natOf
  let lift {α : Type} (r : Except CalendarFault α) : Except Fault α := r.mapError .calendar
  match t.time with
  | none => do return .date (← lift (Date.new (n t.year) (n t.month) (n t.day)))
  | some (hour, minute, second) => do
    let micro := n ((t.fraction ++ List.replicate 6 '0').take 6)
    let offset : Option Int := match t.zone with
      | none => none
      | some (s, hours, minutes) =>
        let m : Int := n hours * 60 + n minutes
        some (if s = '-' then -m else m)
    return .dateTime
      (← lift (DateTime.new (n t.year) (n t.month) (n t.day) (n hour) (n minute) (n second) micro offset))

end TimestampText

def impliedTagOf (cs : List Char) : String :=
  let cs := Pattern.dropFinalBreak cs
  let text := String.ofList cs
  if Pattern.isBoolWord text then standard "bool"
  else if Pattern.isFloat cs then standard "float"
  else if Pattern.isInt cs then standard "int"
  else if text = "<<" then standard "merge"
  else if Pattern.isNullWord text then standard "null"
  else if (TimestampText.read true cs).isSome then standard "timestamp"
  else if text = "=" then standard "value"
  else if ["!", "&", "*"].contains text then standard "yaml"
  else standard "str"

def impliedTag (text : Letters) : String := text.chars?.elim (standard "str") impliedTagOf

def digitIn? (base : Nat) (c : Char) : Option Nat := do
  let v ← if isDigit c then some (c.toNat - '0'.toNat)
    else if 'a' ≤ c ∧ c ≤ 'f' then some (c.toNat - 'a'.toNat + 10)
    else if 'A' ≤ c ∧ c ≤ 'F' then some (c.toNat - 'A'.toNat + 10)
    else none
  if v < base then some v else none

def readBased (base : Nat) (cs : Letters) : Except Fault Int :=
  let (negative, body) := Text.takeSign (Text.foldDigits (Text.trimMargins cs))
  let marked (m : Char) : Bool := (base = 2 && (m = 'b' || m = 'B')) || (base = 8 && (m = 'o' || m = 'O'))
    || (base = 16 && (m = 'x' || m = 'X'))
  let body := match body with
    | '0' :: m :: rest => if marked m then rest else body
    | _ => body
  match body.mapM (digitIn? base) with
  | some (d :: ds) =>
    let n : Int := Text.valueOf base (d :: ds)
    .ok (if negative then -n else n)
  | _ => .error (.integer cs base)

def readPlainInt (cs : Letters) : Except Fault Int :=
  match Text.readInt cs with
  | .ok n => .ok n
  | .error .malformed => .error (.integer cs 10)
  | .error (.tooManyDigits n) => .error (.tooManyDigits n)

def colonParts (cs : Letters) : List Letters := cs.splitOn ':'

def intValue (text : Letters) : Except Fault Int :=
  let cs := text.filter (· ≠ .char '_')
  match cs with
  | [] => .error .emptyNumber
  | first :: rest =>
    let negative := first = '-'
    let body := if first = '-' ∨ first = '+' then rest else cs
    let signed (n : Int) : Int := if negative then -n else n
    match body with
    | [] => .error .emptyNumber
    | ['0'] => .ok 0
    | '0' :: 'b' :: ds => (readBased 2 ds).map signed
    | '0' :: 'x' :: ds => (readBased 16 ds).map signed
    | '0' :: _ => (readBased 8 body).map signed
    | _ =>
      if body.contains (.char ':') then do
        let parts ← (colonParts body).mapM readPlainInt
        return signed (parts.foldl (fun n d => n * 60 + d) 0)
      else (readPlainInt body).map signed

def readDouble (cs : Letters) : Except Fault Double :=
  match Text.readDouble? cs with
  | some x => .ok x
  | none => .error (.decimal cs)

def sumSixties : List Double → Nat → Double → Except Fault Double
  | [], _, sum => .ok sum
  | d :: rest, weight, sum =>
    match Double.ofInt? weight with
    | none => .error .hugeFactor
    | some w => sumSixties rest (weight * 60) (sum.add (d.mul w))

def lowerAscii (cs : Letters) : Letters := cs.map (Letter.mapChar Text.asciiLower)

def floatValue (mark : Nat) (text : Letters) : Except Fault Double :=
  let cs := lowerAscii (text.filter (· ≠ .char '_'))
  match cs with
  | [] => .error .emptyNumber
  | first :: rest =>
    let negative := first = '-'
    let body := if first = '-' ∨ first = '+' then rest else cs
    let signed (x : Double) : Double :=
      match x with
      | .nan _ => .nan mark
      | x => if negative then x.neg else x
    if body = ".inf" then .ok (signed (.infinite false))
    else if body = ".nan" then .ok (.nan 0)
    else if body.contains (.char ':') then do
      let parts ← (colonParts body).mapM readDouble
      return signed (← sumSixties parts.reverse 1 .zero)
    else (readDouble body).map signed

def boolValue (text : Letters) : Except Fault Bool :=
  let word := lowerAscii text
  if (["yes", "true", "on"] : List Letters).contains word then .ok true
  else if (["no", "false", "off"] : List Letters).contains word then .ok false
  else .error .notBoolean

def timestampValue (text : Letters) : Except Fault Value :=
  match text.chars?.bind (TimestampText.read false) with
  | some t => t.value
  | none => .error .notTimestamp

def octetsValue (text : Letters) : Except Fault Value :=
  if text.any fun c => 127 < c.code then .error .malformed
  else
    match Text.Base64.decode? text.chars with
    | some bs => .ok (.octets bs)
    | none => .error .malformed

def scalarValue (tag : String) (mark : Nat) (text : Letters) : Except Fault Value :=
  if tag = standard "str" then .ok (.string text)
  else if tag = standard "null" then .ok .null
  else if tag = standard "bool" then (boolValue text).map .bool
  else if tag = standard "int" then (intValue text).map fun n => .number (.int n)
  else if tag = standard "float" then (floatValue mark text).map fun x => .number (.real x)
  else if tag = standard "timestamp" then timestampValue text
  else if tag = standard "binary" then octetsValue text
  else .error .malformed

end AccessFix.Yaml
