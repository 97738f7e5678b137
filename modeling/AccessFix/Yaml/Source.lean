import AccessFix.Double
import AccessFix.Text.Line
import AccessFix.Yaml.Cursor

/-! The text of a YAML file. Octets are decoded in chunks, and characters are handed out in pieces. A piece that cannot be
decoded, or that holds a character that no YAML text may hold, ends what can be read of the text. -/
namespace AccessFix.Yaml

/-- A file that is being decoded: the octets to come, the start of a character that the last chunk cut off, whether that
chunk ended in a carriage return, how many octets a character of it took, and the characters not yet handed out. -/
structure Intake where
  octets : List UInt8
  cutOff : List UInt8
  held : Bool
  perChar : Double
  ready : List Char
  deriving Repr

namespace Intake

def start (octets : List UInt8) : Intake := ⟨octets, [], false, .zero, []⟩

def leastChunk : Nat := 8192

def chunkSize (i : Intake) (wanted : Nat) : Nat :=
  max leastChunk (((i.perChar.mul (.ofRatio false wanted 1)).truncate?.getD 0).toNat)

def decodeChunk (i : Intake) (wanted : Nat) : Except Text.Utf8.Fault Intake := do
  let chunk := i.octets.take (i.chunkSize wanted)
  let (cs, cutOff) ←
    if chunk.isEmpty then do pure (← Text.Utf8.decode i.cutOff, []) else Text.Utf8.decodePart (i.cutOff ++ chunk)
  let released := i.held && (chunk.isEmpty || !cs.isEmpty)
  let cs := if released then '\r' :: cs else cs
  let hold := !chunk.isEmpty && cs.getLast? = some '\r'
  let cs := (Text.unifyNewlines (.ofChars (if hold then cs.dropLast else cs))).chars
  let perChar := if cs.isEmpty then .zero else .ofRatio false chunk.length cs.length
  return ⟨i.octets.drop chunk.length, cutOff, hold || (i.held && !released), perChar, i.ready ++ cs⟩

def fill : (fuel : Nat) → (wanted : Nat) → Intake → Except Text.Utf8.Fault Intake
  | 0, _, i => .ok i
  | fuel + 1, wanted, i =>
    if wanted ≤ i.ready.length || (i.octets.isEmpty && i.cutOff.isEmpty && !i.held) then .ok i
    else do fill fuel wanted (← i.decodeChunk (wanted - i.ready.length))

def pieceSize : Nat := 4096

def piece (i : Intake) : Except Text.Utf8.Fault (List Char × Intake) := do
  let i ← fill (i.octets.length + 2) pieceSize i
  return (i.ready.take pieceSize, { i with ready := i.ready.drop pieceSize })

end Intake

namespace Source

def extend : (fuel : Nat) → (text : List Char) → Intake → Source
  | 0, text, _ => ⟨text, none⟩
  | fuel + 1, text, i =>
    match i.piece with
    | .error f => ⟨text, some (.encoding f)⟩
    | .ok ([], _) => ⟨text, none⟩
    | .ok (cs, i) => if cs.all isAllowed then extend fuel (text ++ cs) i else ⟨text, some .malformed⟩

def ofOctets (octets : List UInt8) : Source :=
  let opening : Except Text.Utf8.Fault (List Char × Intake) := do
    let (first, i) ← (Intake.start octets).piece
    let (second, i) ← i.piece
    return (first ++ second, i)
  match opening with
  | .error f => ⟨[], some (.encoding f)⟩
  | .ok (cs, i) => if cs.all isAllowed then extend (octets.length + 1) cs i else ⟨[], some .malformed⟩

end Source

end AccessFix.Yaml
