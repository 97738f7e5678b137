import AccessFix.Text.Quoted
import AccessFix.Text.Utf8

/-! Texts as octets, in UTF-8 or with one octet for each of the first 256 characters. A text with a letter that has no
octets is refused as a whole; the fault names the first run of such letters. -/
namespace AccessFix.Text

structure Unencodable where
  run : Letters
  first : Nat
  deriving DecidableEq, Repr

inductive Codec where
  | utf8
  | latin
  deriving DecidableEq, Repr

namespace Codec

def name : Codec → String
  | .utf8 => "utf-8"
  | .latin => "latin-1"

def limit : Codec → String
  | .utf8 => "surrogates not allowed"
  | .latin => "ordinal not in range(256)"

def knows : Codec → Letter → Bool
  | .utf8, c => c.char?.isSome
  | .latin, c => c.code < 256

def refusal? (codec : Codec) (cs : Letters) : Option Unencodable :=
  let before := cs.takeWhile codec.knows
  match cs.drop before.length with
  | [] => none
  | rest => some ⟨rest.takeWhile fun c => !codec.knows c, before.length⟩

def octets : Codec → Letters → List UInt8
  | .utf8, cs => Utf8.encode cs.chars
  | .latin, cs => cs.map fun c => UInt8.ofNat c.code

def encode (codec : Codec) (cs : Letters) : Except Unencodable (List UInt8) :=
  match codec.refusal? cs with
  | some fault => .error fault
  | none => .ok (codec.octets cs)

def message (codec : Codec) (f : Unencodable) : String :=
  let place := match f.run with
    | [c] => "character '" ++ String.ofList (numbered c.code) ++ "' in position " ++ toString f.first
    | cs => "characters in position " ++ toString f.first ++ "-" ++ toString (f.first + cs.length - 1)
  "'" ++ codec.name ++ "' codec can't encode " ++ place ++ ": " ++ codec.limit

end Codec

end AccessFix.Text
