import AccessFix.Host.Characters
import AccessFix.Text.Composed
import AccessFix.Text.LowerCase
import AccessFix.Text.Punycode

/-! Labels of host names, and their form in ASCII. A label is in composed form, holds letters, digits and marks in lower
case, and signs only where their neighbours call for them. If a part of it is written from right to left, all of it is. -/
namespace AccessFix.Host

def isAscii (c : Char) : Bool := c.toNat < 128

inductive Direction where
  | left
  | right
  | european
  | arabic
  | nonspacing
  | other
  deriving DecidableEq, Repr

def direction (c : Char) : Direction :=
  let n := c.toNat
  if ('0' ≤ c ∧ c ≤ '9') ∨ (0x6F0 ≤ n ∧ n ≤ 0x6F9) then .european
  else if (0x660 ≤ n ∧ n ≤ 0x669) ∨ (0x10D30 ≤ n ∧ n ≤ 0x10D39) then .arabic
  else if c = '-' ∨ n = 0x200C ∨ n = 0x200D ∨ neutralRanges.holds c then .other
  else if nonspacingRanges.holds c then .nonspacing
  else if hebrewDirectionRanges.holds c ∨ arabicDirectionRanges.holds c then .right
  else .left

def isOneWay (label : List Char) : Bool :=
  let ds := label.map direction
  if !ds.contains .right && !ds.contains .arabic then true
  else
    ds.head? = some .right && !ds.contains .left && !(ds.contains .european && ds.contains .arabic)
      && (ds.reverse.find? (· ≠ .nonspacing)).all (· ≠ .other)

def joins (kind : Char → Bool) (cs : List Char) : Bool :=
  (cs.find? fun c => !transparentRanges.holds c).any kind

def isDigitOf (first : Nat) (c : Char) : Bool := first ≤ c.toNat && c.toNat < first + 10

def mayStand (label before : List Char) (c : Char) (after : List Char) : Bool :=
  if letterRanges.holds c then true
  else
    let n := c.toNat
    let afterVirama : Bool := before.head?.any viramaRanges.holds
    if n = 0x200C then
      afterVirama || (joins (fun d => leftJoiningRanges.holds d || dualJoiningRanges.holds d) before
        && joins (fun d => rightJoiningRanges.holds d || dualJoiningRanges.holds d) after)
    else if n = 0x200D then afterVirama
    else if n = 0xB7 then before.head? = some 'l' && after.head? = some 'l'
    else if n = 0x375 then after.head?.any greekRanges.holds
    else if n = 0x5F3 ∨ n = 0x5F4 then before.head?.any hebrewRanges.holds
    else if n = 0x30FB then label.any japaneseRanges.holds
    else if isDigitOf 0x660 c then !label.any (isDigitOf 0x6F0)
    else if isDigitOf 0x6F0 c then !label.any (isDigitOf 0x660)
    else false

def allMayStand (label before : List Char) : List Char → Bool
  | [] => true
  | c :: rest => mayStand label before c rest && allMayStand label (c :: before) rest

def isLabel (label : List Char) : Bool :=
  Text.composed label = label && label.head?.any (fun c => c ≠ '-' && !markRanges.holds c)
    && label.getLast? ≠ some '-' && (label.drop 2).take 2 ≠ ['-', '-']
    && allMayStand label [] label && isOneWay label

def asciiMark : List Char := ['x', 'n', '-', '-']

def isAsciiLabel (text : List Char) : Bool :=
  let text := Text.lower text
  if asciiMark.isPrefixOf text then
    let written := text.drop asciiMark.length
    written.getLast?.any (· ≠ '-') && (Text.Punycode.decode? written).any isLabel
  else isLabel text

def labelLimit : Nat := 63

def asciiLabel? (label : List Char) : Option (List Char) :=
  let ascii := if label.all isAscii then label else asciiMark ++ Text.Punycode.encode label
  if (if label.all isAscii then isAsciiLabel label else isLabel label) && ascii.length ≤ labelLimit then some ascii
  else none

def webLabel? (label : List Char) : Option (List Char) :=
  if label.all isAscii then some (Text.lower label) else asciiLabel? (Text.lower label)

def webName? (host : List Char) : Option (List Char) :=
  ((host.splitOn '.').mapM webLabel?).map (List.intercalate ['.'])

def isIgnored (c : Char) : Bool :=
  let n := c.toNat
  n = 0xAD || n = 0x34F || (0x180B ≤ n && n ≤ 0x180F) || n = 0x200B || n = 0x2060 || n = 0x2064 || n = 0xFEFF
    || (0xFE00 ≤ n && n ≤ 0xFE0F) || (0xE0100 ≤ n && n ≤ 0xE01EF)

def plainChar (c : Char) : List Char :=
  let n := c.toNat
  if n = 0x3002 ∨ n = 0xFF61 then ['.']
  else if 0xFF01 ≤ n ∧ n ≤ 0xFF5E then Text.lowerChar (Char.ofNat (n - 0xFEE0))
  else if c = Text.capitalSigma then [Char.ofNat 0x3C3]
  else if n = 0x1E9E then ['s', 's']
  else Text.lowerChar c

def nameLimit : Nat := 253

def asciiName? (host : List Char) : Option (List Char) := do
  let labels := (Text.composed ((host.filter fun c => !isIgnored c).flatMap plainChar)).splitOn '.'
  let dotted : Bool := labels.getLast? = some [] && labels.length > 1
  let ascii ← (if dotted then labels.dropLast else labels).mapM asciiLabel?
  let name := List.intercalate ['.'] ascii
  if nameLimit < name.length then none else some (if dotted then name ++ ['.'] else name)

end AccessFix.Host
