import AccessFix.Letter

/-! Blank letters, and trimming and splitting text at them. -/
namespace AccessFix.Text

def isBlank (c : Letter) : Bool :=
  let n := c.code
  (9 ≤ n && n ≤ 13) || (28 ≤ n && n ≤ 32) || n == 0x85 || n == 0xA0 || n == 0x1680
    || (0x2000 ≤ n && n ≤ 0x200A) || n == 0x2028 || n == 0x2029 || n == 0x202F || n == 0x205F || n == 0x3000

def trimLeft (cs : Letters) : Letters := cs.dropWhile isBlank

def trimRight (cs : Letters) : Letters := (cs.reverse.dropWhile isBlank).reverse

def trim (cs : Letters) : Letters := trimRight (trimLeft cs)

def wordsFrom (word : Letters) : Letters → List Letters
  | [] => if word.isEmpty then [] else [word.reverse]
  | c :: rest =>
    if isBlank c then
      if word.isEmpty then wordsFrom [] rest else word.reverse :: wordsFrom [] rest
    else wordsFrom (c :: word) rest

def words (cs : Letters) : List Letters := wordsFrom [] cs

def joined (words : List Letters) : Letters := List.intercalate " " words

def take (n : Nat) (s : String) : String := String.ofList (s.toList.take n)

end AccessFix.Text
