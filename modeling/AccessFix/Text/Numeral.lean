import AccessFix.Double
import AccessFix.Text.Blank
import AccessFix.Text.Digit

/-! Numbers written by people: blanks around them are ignored, digits of every script count, and a single
underscore may stand between two digits. -/
namespace AccessFix.Text

def digitLimit : Nat := 4300

def tooManyDigits (count : Nat) : String :=
  "Exceeds the limit (" ++ toString digitLimit ++ " digits) for integer string conversion: value has "
    ++ toString count ++ " digits; use sys.set_int_max_str_digits() to increase the limit"

def tooManyDigitsToWrite : String :=
  "Exceeds the limit (" ++ toString digitLimit
    ++ " digits) for integer string conversion; use sys.set_int_max_str_digits() to increase the limit"

def isMargin (c : Letter) : Bool := isBlank c && !(28 ≤ c.code && c.code ≤ 31)

def trimMargins (cs : Letters) : Letters :=
  ((cs.dropWhile isMargin).reverse.dropWhile isMargin).reverse

def digitChar (n : Nat) : Char := Char.ofNat ('0'.toNat + n)

def foldDigits (cs : Letters) : List Char :=
  cs.map fun c => let c := c.char?.getD '?'; ((decimalValue? c).map digitChar).getD c

def isAsciiDigit (c : Char) : Bool := '0' ≤ c && c ≤ '9'

def valueOf (base : Nat) (digits : List Nat) : Nat := digits.foldl (fun n d => n * base + d) 0

def natOf (cs : List Char) : Nat := valueOf 10 (cs.map fun c => c.toNat - '0'.toNat)

def dropUnderscores? (afterDigit : Bool) : List Char → Option (List Char)
  | [] => some []
  | '_' :: c :: rest =>
    if afterDigit && isAsciiDigit c then (dropUnderscores? true rest).map (c :: ·) else none
  | c :: rest => if c = '_' then none else (dropUnderscores? (isAsciiDigit c) rest).map (c :: ·)

def takeSign : List Char → Bool × List Char
  | '-' :: rest => (true, rest)
  | '+' :: rest => (false, rest)
  | cs => (false, cs)

inductive NumeralFault where
  | malformed
  | tooManyDigits (count : Nat)
  deriving DecidableEq, Repr

def readInt (cs : Letters) : Except NumeralFault Int :=
  let (negative, body) := takeSign (foldDigits (trimMargins cs))
  let run := body.takeWhile fun c => isAsciiDigit c || c = '_'
  match dropUnderscores? false run with
  | none => .error .malformed
  | some ds =>
    if digitLimit < ds.length then .error (.tooManyDigits ds.length)
    else if ds.isEmpty || run.length < body.length then .error .malformed
    else .ok (if negative then -(natOf ds : Int) else natOf ds)

def writeLimit : Nat := Nat.pow 10 digitLimit

def isWritable (n : Int) : Bool := n.natAbs < writeLimit

def asciiLower (c : Char) : Char :=
  if 'A' ≤ c ∧ c ≤ 'Z' then Char.ofNat (c.toNat + 32) else c

def readExponent? : List Char → Option Int
  | [] => some 0
  | e :: rest =>
    if e = 'e' ∨ e = 'E' then
      let (negative, ds) := takeSign rest
      if ds.isEmpty || !ds.all isAsciiDigit then none
      else some (if negative then -(natOf ds : Int) else natOf ds)
    else none

def readDecimal? (negative : Bool) (cs : List Char) : Option Double := do
  let whole := cs.takeWhile isAsciiDigit
  let rest := cs.dropWhile isAsciiDigit
  let (fraction, rest) := match rest with
    | '.' :: r => (r.takeWhile isAsciiDigit, r.dropWhile isAsciiDigit)
    | r => ([], r)
  if whole.isEmpty && fraction.isEmpty then none
  else
    let exponent ← readExponent? rest
    some (Double.ofDecimal negative (natOf (whole ++ fraction)) (exponent - (fraction.length : Int)))

def readDouble? (cs : Letters) : Option Double :=
  let (negative, body) := takeSign (foldDigits (trimMargins cs))
  let name := String.ofList (body.map asciiLower)
  if name = "inf" ∨ name = "infinity" then some (.infinite negative)
  else if name = "nan" then some (.nan 0)
  else (dropUnderscores? false body).bind (readDecimal? negative)

end AccessFix.Text
