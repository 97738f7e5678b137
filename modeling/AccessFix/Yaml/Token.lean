import AccessFix.Json.Reader
import AccessFix.Text.Utf8
import AccessFix.Yaml.Cursor

/-! Tokens of YAML and the lexemes that take more than one character: directives, anchors, tags and scalars. Each reader
starts at the first character of its lexeme and returns the place after it. An escape in a scalar may name a surrogate, which
stays as it is, also beside another one. -/
namespace AccessFix.Yaml

structure WrittenTag where
  handle : Option String
  suffix : String
  deriving DecidableEq, Repr

inductive Directive where
  | version (major : Nat)
  | tag (handle tagPrefix : String)
  | other
  deriving DecidableEq, Repr

inductive Token where
  | directive (d : Directive)
  | documentStart
  | documentEnd
  | streamEnd
  | blockSequenceStart
  | blockMappingStart
  | blockEnd
  | flowSequenceStart
  | flowSequenceEnd
  | flowMappingStart
  | flowMappingEnd
  | flowEntry
  | blockEntry
  | key
  | value
  | alias (name : String)
  | anchor (name : String)
  | tag (tag : WrittenTag)
  | scalar (text : Letters) (plain : Bool)
  | broken (fault : Fault)
  deriving DecidableEq, Repr, Inhabited

def hexNumber (cs : List Char) : Option Nat :=
  cs.foldl (fun n (c : Char) => do return (← n) * 16 + (← Json.hexValue? c)) (some 0)

def readHex (c : Cursor) (n : Nat) : Except Fault (Nat × Cursor) :=
  match hexNumber (c.rest.take n) with
  | some v => do
    c.demand n
    if (c.rest.take n).length < n then throw .malformed
    return (v, c.advance n)
  | none => .error .malformed

def expect (c : Cursor) (p : Char → Bool) : Except Fault Unit :=
  if p c.peek then .ok () else c.refuse

def readWord (c : Cursor) : Except Fault (String × Cursor) :=
  let (cs, c) := c.takeWhile isWordChar
  if cs.isEmpty then c.refuse else .ok (String.ofList cs, c)

def readAnchor (c : Cursor) : Except Fault (String × Cursor) := do
  let (name, c) ← readWord c.next
  expect c fun x => isWhite x || "?:,]\x7d%@".toList.contains x || x.toNat = 0x60
  return (name, c)

def isUriChar (c : Char) : Bool :=
  isWordChar c || ";/?:@&=+$,.!~*'()[]".toList.contains c

def readOctets : Nat → List UInt8 → Cursor → Except Fault (List UInt8 × Cursor)
  | 0, acc, c => .ok (acc.reverse, c)
  | fuel + 1, acc, c =>
    if c.peek = '%' then do
      let (n, c) ← readHex c.next 2
      readOctets fuel (UInt8.ofNat n :: acc) c
    else .ok (acc.reverse, c)

def readUriFrom : Nat → List Char → Cursor → Except Fault (List Char × Cursor)
  | 0, acc, c => .ok (acc, c)
  | fuel + 1, acc, c =>
    if c.peek = '%' then do
      let (octets, c) ← readOctets c.rest.length [] c
      match Text.Utf8.decode octets with
      | .ok cs => readUriFrom fuel (acc ++ cs) c
      | .error _ => c.refuse
    else
      let (cs, c') := c.takeWhile isUriChar
      if cs.isEmpty then .ok (acc, c) else readUriFrom fuel (acc ++ cs) c'

def readUri (c : Cursor) : Except Fault (String × Cursor) := do
  let (cs, c) ← readUriFrom (c.rest.length + 1) [] c
  if cs.isEmpty then c.refuse else return (String.ofList cs, c)

def readHandle (c : Cursor) : Except Fault (String × Cursor) := do
  expect c (· = '!')
  if c.ahead 1 = ' ' then return ("!", c.next)
  let (cs, c') := c.next.takeWhile isWordChar
  if c'.peek = '!' then return (String.ofList ('!' :: cs ++ ['!']), c'.next)
  c'.refuse

def hasHandle (c : Cursor) : Except Fault Bool := do
  let stem := c.rest.drop 1 |>.takeWhile fun x => !isGap x
  if !stem.contains '!' then c.demand (stem.length + 2)
  return stem.contains '!'

def readTag (c : Cursor) : Except Fault (WrittenTag × Cursor) := do
  let (tag, c) ←
    if c.ahead 1 = '<' then do
      let (uri, c) ← readUri (c.advance 2)
      expect c (· = '>')
      pure ((⟨none, uri⟩ : WrittenTag), c.next)
    else if isWhite (c.ahead 1) then pure (⟨none, "!"⟩, c.next)
    else do
      let (handle, c) ← if ← hasHandle c then readHandle c else pure ("!", c.next)
      let (uri, c) ← readUri c
      pure (⟨some handle, uri⟩, c)
  expect c isGap
  return (tag, c)

def readVersionNumber (c : Cursor) : Except Fault (Nat × Cursor) :=
  let (cs, c) := c.takeWhile isDigit
  if cs.isEmpty then c.refuse
  else if Text.digitLimit < cs.length then .error (.tooManyDigits cs.length)
  else .ok (Text.natOf cs, c)

def skipToBreak (c : Cursor) : Except Fault Cursor := do
  let c := c.skipBlanks.skipComment
  expect c isBreakOrEnd
  return c.takeBreak.2

def readDirective (c : Cursor) : Except Fault (Directive × Cursor) := do
  let (name, c) ← readWord c.next
  expect c isGap
  let (directive, c) ←
    if name = "YAML" then do
      let (major, c) ← readVersionNumber c.skipBlanks
      expect c (· = '.')
      let (_, c) ← readVersionNumber c.next
      expect c isGap
      pure (Directive.version major, c)
    else if name = "TAG" then do
      let (handle, c) ← readHandle c.skipBlanks
      expect c (· = ' ')
      let (uri, c) ← readUri c.skipBlanks
      expect c isGap
      pure (Directive.tag handle uri, c)
    else pure (Directive.other, c.skipLine)
  return (directive, ← skipToBreak c)

inductive Chomping where
  | clip
  | strip
  | keep
  deriving DecidableEq, Repr

def chomping? (c : Char) : Option Chomping :=
  if c = '+' then some .keep else if c = '-' then some .strip else none

def readIndentDigit (c : Cursor) : Except Fault (Option Nat × Cursor) :=
  if isDigit c.peek then
    if c.peek = '0' then .error .malformed else .ok (some (Text.natOf [c.peek]), c.next)
  else .ok (none, c)

def readIndicators (c : Cursor) : Except Fault ((Chomping × Option Nat) × Cursor) := do
  let (chomping, increment, c) ←
    match chomping? c.peek with
    | some chomping => do
      let (increment, c) ← readIndentDigit c.next
      pure (chomping, increment, c)
    | none => do
      let (increment, c) ← readIndentDigit c
      match increment, chomping? c.peek with
      | some n, some chomping => pure (chomping, some n, c.next)
      | increment, _ => pure (Chomping.clip, increment, c)
  expect c isGap
  return ((chomping, increment), c)

def readIndentation : Nat → List Char → Nat → Cursor → List Char × Nat × Cursor
  | 0, breaks, widest, c => (breaks, widest, c)
  | fuel + 1, breaks, widest, c =>
    if c.peek = ' ' then
      let c := c.next
      readIndentation fuel breaks (max widest c.column) c
    else if isBreak c.peek then
      let (b, c) := c.takeBreak
      readIndentation fuel (breaks ++ b) widest c
    else (breaks, widest, c)

def skipIndent (c : Cursor) (indent : Nat) : Cursor :=
  c.advance ((c.rest.take (indent - c.column)).takeWhile (· = ' ')).length

def readBreaks (indent : Nat) : Nat → List Char → Cursor → List Char × Cursor
  | 0, breaks, c => (breaks, c)
  | fuel + 1, breaks, c =>
    let c := skipIndent c indent
    if isBreak c.peek then
      let (b, c) := c.takeBreak
      readBreaks indent fuel (breaks ++ b) c
    else (breaks, c)

def isBlankOrTab (c : Char) : Bool := c = ' ' || c = '\t'

def readBlockLines (folded : Bool) (indent : Nat) : Nat → List Char → List Char → List Char → Cursor →
    List Char × List Char × List Char × Cursor
  | 0, acc, lineBreak, breaks, c => (acc, lineBreak, breaks, c)
  | fuel + 1, acc, lineBreak, breaks, c =>
    if c.column = indent && !isEnd c.peek then
      let dense := !isBlankOrTab c.peek
      let (line, c) := c.takeWhile fun x => !isBreakOrEnd x
      let acc := acc ++ breaks ++ line
      let (lineBreak, c) := c.takeBreak
      let (breaks, c) := readBreaks indent (c.rest.length + 1) [] c
      if c.column = indent && !isEnd c.peek then
        if folded && lineBreak = ['\n'] && dense && !isBlankOrTab c.peek then
          readBlockLines folded indent fuel (if breaks.isEmpty then acc ++ [' '] else acc) lineBreak breaks c
        else readBlockLines folded indent fuel (acc ++ lineBreak) lineBreak breaks c
      else (acc, lineBreak, breaks, c)
    else (acc, lineBreak, breaks, c)

def readBlockScalar (parent : Int) (c : Cursor) : Except Fault (Letters × Cursor) := do
  let folded := c.peek = '>'
  let ((chomping, increment), c) ← readIndicators c.next
  let c ← skipToBreak c
  let least := max (parent + 1).toNat 1
  let (indent, breaks, c) :=
    match increment with
    | none =>
      let (breaks, widest, c) := readIndentation (c.rest.length + 1) [] 0 c
      (max least widest, breaks, c)
    | some n =>
      let indent := least + n - 1
      let (breaks, c) := readBreaks indent (c.rest.length + 1) [] c
      (indent, breaks, c)
  let (text, lineBreak, breaks, c) := readBlockLines folded indent (c.rest.length + 1) [] [] breaks c
  let text := match chomping with
    | .strip => text
    | .clip => text ++ lineBreak
    | .keep => text ++ lineBreak ++ breaks
  return (.ofChars text, c)

def escaped? (c : Char) : Option Char :=
  let code : Option Nat :=
    match c with
    | '0' => some 0 | 'a' => some 7 | 'b' => some 8 | 't' => some 9 | '\t' => some 9
    | 'n' => some 10 | 'v' => some 11 | 'f' => some 12 | 'r' => some 13 | 'e' => some 27
    | ' ' => some 32 | '"' => some 34 | '\\' => some 92 | '/' => some 47
    | 'N' => some 0x85 | '_' => some 0xA0 | 'L' => some 0x2028 | 'P' => some 0x2029
    | _ => none
  code.map Char.ofNat

def escapeDigits? (c : Char) : Option Nat :=
  if c = 'x' then some 2 else if c = 'u' then some 4 else if c = 'U' then some 8 else none

def readQuotedBreaks : Nat → List Char → Cursor → Except Fault (List Char × Cursor)
  | 0, breaks, c => .ok (breaks, c)
  | fuel + 1, breaks, c => do
    if ← c.atDocumentMarker then throw .malformed
    let c := c.skipWhile isBlankOrTab
    if isBreak c.peek then
      let (b, c) := c.takeBreak
      readQuotedBreaks fuel (breaks ++ b) c
    else return (breaks, c)

def letterOf (code : Nat) : Except Fault Letter :=
  if 0x10FFFF < code then .error (.beyondUnicode code) else .ok (.ofCode code)

def readEscape (c : Cursor) : Except Fault (Letters × Cursor) :=
  match escaped? c.peek with
  | some x => .ok ([.char x], c.next)
  | none =>
    match escapeDigits? c.peek with
    | some n => do
      let (code, c) ← readHex c.next n
      return ([← letterOf code], c)
    | none =>
      if isBreak c.peek then
        let (_, c) := c.takeBreak
        (readQuotedBreaks (c.rest.length + 1) [] c).map fun r => (.ofChars r.1, r.2)
      else c.refuse

def readQuotedSpace (c : Cursor) : Except Fault (List Char × Cursor) :=
  let (blanks, c) := c.takeWhile isBlankOrTab
  if c.rest.isEmpty then c.refuse
  else if isBreak c.peek then do
    let (lineBreak, c) := c.takeBreak
    let (breaks, c) ← readQuotedBreaks (c.rest.length + 1) [] c
    if lineBreak ≠ ['\n'] then return (lineBreak ++ breaks, c)
    return (if breaks.isEmpty then [' '] else breaks, c)
  else .ok (blanks, c)

def readQuotedFrom (double : Bool) : Nat → Letters → Cursor → Except Fault (Letters × Cursor)
  | 0, _, _ => .error .malformed
  | fuel + 1, acc, c =>
    match c.rest with
    | [] => c.refuse
    | x :: rest =>
      if x = (if double then '"' else '\'') then
        if !double && rest.head? = some '\'' then readQuotedFrom double fuel ('\'' :: acc) (c.advance 2)
        else .ok (acc.reverse, c.next)
      else if double && x = '\\' then do
        let (cs, c) ← readEscape c.next
        readQuotedFrom double fuel (cs.reverse ++ acc) c
      else if isBlankOrTab x || isBreak x then do
        let (cs, c) ← readQuotedSpace c
        readQuotedFrom double fuel ((Letters.ofChars cs).reverse ++ acc) c
      else readQuotedFrom double fuel (x :: acc) c.next

def readQuoted (c : Cursor) : Except Fault (Letters × Cursor) :=
  readQuotedFrom (c.peek = '"') (c.rest.length + 1) [] c.next

def plainLength (inFlow : Bool) : List Char → Nat
  | [] => 0
  | x :: rest =>
    let following := rest.head?.getD (Char.ofNat 0)
    if isWhite x || (x = ':' && (isWhite following || (inFlow && ",[]\x7b\x7d".toList.contains following)))
        || (inFlow && ",?[]\x7b\x7d".toList.contains x) then 0
    else plainLength inFlow rest + 1

def readPlainBreaks : Nat → List Char → Cursor → Except Fault (Option (List Char) × Cursor)
  | 0, breaks, c => .ok (some breaks, c)
  | fuel + 1, breaks, c => do
    if c.peek = ' ' then readPlainBreaks fuel breaks c.next
    else if isBreak c.peek then
      let (b, c) := c.takeBreak
      if ← c.atDocumentMarker then return (none, c)
      readPlainBreaks fuel (breaks ++ b) c
    else return (some breaks, c)

def readPlainSpace (c : Cursor) : Except Fault (Option (List Char) × Bool × Cursor) := do
  let (blanks, c) := c.takeWhile (· = ' ')
  if isBreak c.peek then
    let (lineBreak, c) := c.takeBreak
    if ← c.atDocumentMarker then return (none, true, c)
    match ← readPlainBreaks (c.rest.length + 1) [] c with
    | (none, c) => return (none, true, c)
    | (some breaks, c) =>
      if lineBreak ≠ ['\n'] then return (some (lineBreak ++ breaks), true, c)
      return (some (if breaks.isEmpty then [' '] else breaks), true, c)
  else return (if blanks.isEmpty then none else some blanks, false, c)

def readPlainFrom (inFlow : Bool) (indent : Int) : Nat → List Char → List Char → Bool → Cursor →
    Except Fault (List Char × Bool × Cursor)
  | 0, acc, _, broke, c => .ok (acc, broke, c)
  | fuel + 1, acc, space, broke, c => do
    if c.peek = '#' then return (acc, broke, c)
    let n := plainLength inFlow c.rest
    let stop := c.advance n
    stop.demand (if stop.peek = ':' then 2 else 1)
    if n = 0 then return (acc, broke, c)
    let acc := acc ++ space ++ c.rest.take n
    match ← readPlainSpace stop with
    | (none, broke, c) => return (acc, broke, c)
    | (some space, broke, c) =>
      if c.peek = '#' || (!inFlow && decide ((c.column : Int) < indent)) then return (acc, broke, c)
      readPlainFrom inFlow indent fuel acc space broke c

def readPlain (inFlow : Bool) (parent : Int) (c : Cursor) : Except Fault (Letters × Bool × Cursor) := do
  let (cs, broke, c) ← readPlainFrom inFlow (parent + 1) (c.rest.length + 1) [] [] false c
  return (.ofChars cs, broke, c)

end AccessFix.Yaml
