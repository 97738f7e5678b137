import AccessFix.Files
import AccessFix.Position
import AccessFix.Text.Line

/-! Text documents. A position is read in two ways: strictly, where its line has to exist, and clamped, where a line
beyond the last stands for the end of the text. Both take a character beyond a line's end to mean that end, before
the line's newline, and both refuse negative coordinates. -/
namespace AccessFix

structure Document where
  path : String
  text : Letters
  languageId : String
  scheme : String
  deriving DecidableEq, Repr, Inhabited

inductive PositionFault where
  | negative (position : Position) (path : String)
  | beyondLines (line : Number) (path : String) (count : Nat)
  | notInteger
  deriving DecidableEq, Repr

def PositionFault.message : PositionFault → String
  | .negative p path => "Negative position " ++ p.text ++ " in '" ++ path ++ "'"
  | .beyondLines line path count =>
    "Line " ++ (line.addInt 1).text ++ " is out of range for '" ++ path ++ "' (" ++ toString count ++ " lines)"
  | .notInteger => "a position that is no integer"

inductive OpenFault where
  | file (fault : FileFault)
  | encoding (fault : Text.Utf8.Fault)
  deriving DecidableEq, Repr

def OpenFault.message : OpenFault → String
  | .file f => f.message
  | .encoding f => f.message

def Files.readText (files : Files) (path : String) : Except OpenFault Letters :=
  match files.read path with
  | .error f => .error (.file f)
  | .ok octets =>
    match Text.Utf8.decode octets with
    | .error f => .error (.encoding f)
    | .ok cs => .ok (Text.unifyNewlines (.ofChars cs))

def languageOf (suffix : String) : String :=
  if suffix = ".jsx" then "javascriptreact"
  else if suffix = ".tsx" then "typescriptreact"
  else "plaintext"

namespace Document

def ofFile (files : Files) (path : String) : Except OpenFault Document := do
  let route := Path.resolve files.here path
  let resolved := Path.ofRoute route
  let text ← files.readText resolved
  return ⟨resolved, text, languageOf (Path.suffixOf (route.getLast?.getD "")), "file"⟩

def linesOf (text : Letters) : List Letters :=
  let lines := Text.lines text
  match text.getLast? with
  | none => lines ++ [[]]
  | some c => if c = '\n' ∨ c = '\r' then lines ++ [[]] else lines

def lines (d : Document) : List Letters := linesOf d.text

def lineCount (d : Document) : Nat := d.lines.length

def offsetIn (lines : List Letters) (line : Nat) (character : Number) : Number :=
  (character.least (.int (Text.trimNewline (lines[line]?.getD [])).length)).addInt (lines.take line).flatten.length

def place (d : Document) (p : Position) : Except PositionFault (Option Number) :=
  let lines := d.lines
  if p.line.less 0 || p.character.less 0 then .error (.negative p d.path)
  else if (Number.int lines.length).atMost p.line then .ok none
  else
    match p.line with
    | .real _ => .error .notInteger
    | .int line => .ok (some (offsetIn lines line.toNat p.character))

def offsetAt (d : Document) (p : Position) : Except PositionFault Number := do
  match ← d.place p with
  | some offset => return offset
  | none => throw (.beyondLines p.line d.path d.lineCount)

def clampedOffset (d : Document) (p : Position) : Except PositionFault Number := do
  return (← d.place p).getD (.int d.text.length)

def slice (text : Letters) (start stop : Nat) : Letters := (text.drop start).take (stop - start)

def cut (text : Letters) : Number → Number → Except PositionFault Letters
  | .int start, .int stop => .ok (slice text start.toNat stop.toNat)
  | _, _ => .error .notInteger

def read (d : Document) (r : Range) : Except PositionFault Letters := do
  let start ← d.clampedOffset r.start
  let stop ← d.clampedOffset r.stop
  cut d.text start stop

def save (d : Document) (files : Files) : Except WriteFault Unit × Files :=
  files.writeText (Path.normal d.path) d.text

end Document

end AccessFix
