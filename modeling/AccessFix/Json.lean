import AccessFix.Letter
import AccessFix.Number

/-! JSON values. An object lists its members in order, each name once.
Two values are the same if they are equal as data, where `true` and `1` count as one number. -/
namespace AccessFix

inductive Json where
  | null
  | bool (b : Bool)
  | number (n : Number)
  | string (s : Letters)
  | array (items : List Json)
  | object (members : List (Letters × Json))
  deriving Repr, Inhabited

def setMember {α : Type} (name : Letters) (value : α) : List (Letters × α) → List (Letters × α)
  | [] => [(name, value)]
  | (n, v) :: rest => if n = name then (n, value) :: rest else (n, v) :: setMember name value rest

namespace Json

def ofInt (n : Int) : Json := .number (.int n)

def member? (members : List (Letters × Json)) (name : Letters) : Option Json :=
  (members.find? fun m => m.1 = name).map Prod.snd

def member (members : List (Letters × Json)) (name : Letters) : Json :=
  (member? members name).getD .null

def isPresent : Json → Bool
  | .null => false
  | .bool b => b
  | .number n => !n.isZero
  | .string s => !s.isEmpty
  | .array items => !items.isEmpty
  | .object members => !members.isEmpty

def number? : Json → Option Number
  | .bool b => some (.int (if b then 1 else 0))
  | .number n => some n
  | _ => none

mutual

def sameKey : Json → Json → Bool
  | .null, .null => true
  | .string s, .string t => s = t
  | .array xs, .array ys => sameItems xs ys
  | .object ms, .object ns => ms.length == ns.length && sameMembers ms ns
  | .bool a, .bool b => a = b
  | .bool a, .number n | .number n, .bool a => (Number.int (if a then 1 else 0)).same n
  | .number m, .number n => m.sameKey n
  | _, _ => false

def sameItems : List Json → List Json → Bool
  | [], [] => true
  | x :: xs, y :: ys => sameKey x y && sameItems xs ys
  | _, _ => false

def sameMembers : List (Letters × Json) → List (Letters × Json) → Bool
  | [], _ => true
  | (n, v) :: ms, ns =>
    (match ns.find? fun m => m.1 = n with
      | some (_, w) => sameKey v w
      | none => false) && sameMembers ms ns

end

def same : Json → Json → Bool
  | .number m, .number n => m.same n
  | a, b => a.sameKey b

def isKey : Json → Bool
  | .array _ | .object _ => false
  | _ => true

end Json

end AccessFix
