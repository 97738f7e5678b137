/-! Letters of a text: characters, and surrogates that stand alone. Escapes in data name a surrogate by its number, but no
octets stand for one, so a text with one of them has no encoding. The number given to `ofCode` is one of Unicode. -/
namespace AccessFix

inductive Letter where
  | char (c : Char)
  | surrogate (index : Fin 2048)
  deriving DecidableEq, Repr, Inhabited

abbrev Letters := List Letter

namespace Letter

instance : Coe Char Letter := ⟨.char⟩

def code : Letter → Nat
  | .char c => c.toNat
  | .surrogate i => 0xD800 + i.val

def ofCode (n : Nat) : Letter :=
  if h : 0xD800 ≤ n ∧ n < 0xE000 then .surrogate ⟨n - 0xD800, by omega⟩ else .char (Char.ofNat n)

def char? : Letter → Option Char
  | .char c => some c
  | .surrogate _ => none

def holds (p : Char → Bool) : Letter → Bool
  | .char c => p c
  | .surrogate _ => false

def mapChar (f : Char → Char) : Letter → Letter
  | .char c => .char (f c)
  | .surrogate i => .surrogate i

instance : LT Letter := ⟨fun a b => a.code < b.code⟩

instance : LE Letter := ⟨fun a b => a.code ≤ b.code⟩

instance (a b : Letter) : Decidable (a < b) := inferInstanceAs (Decidable (a.code < b.code))

instance (a b : Letter) : Decidable (a ≤ b) := inferInstanceAs (Decidable (a.code ≤ b.code))

end Letter

namespace Letters

def ofChars (cs : List Char) : Letters := cs.map .char

def chars (cs : Letters) : List Char := cs.filterMap Letter.char?

def chars? (cs : Letters) : Option (List Char) := cs.mapM Letter.char?

end Letters

def letters (s : String) : Letters := .ofChars s.toList

instance : Coe String Letters := ⟨letters⟩

end AccessFix
