import AccessFix.Letter

/-! Lines of a text and line breaks. A line ends at a line feed, a carriage return, both in a row, a vertical tab,
a form feed, one of three separators, the next-line control, or a line or paragraph separator.
Files are read with carriage returns, alone or before a line feed, as line feeds. -/
namespace AccessFix.Text

def isLineBreak (c : Letter) : Bool :=
  let n := c.code
  (10 ≤ n && n ≤ 13) || (28 ≤ n && n ≤ 30) || n == 0x85 || n == 0x2028 || n == 0x2029

def linesFrom (line : Letters) : Letters → List Letters
  | [] => if line.isEmpty then [] else [line.reverse]
  | '\r' :: '\n' :: rest => (('\n' : Letter) :: '\r' :: line).reverse :: linesFrom [] rest
  | c :: rest => if isLineBreak c then (c :: line).reverse :: linesFrom [] rest else linesFrom (c :: line) rest

def lines (cs : Letters) : List Letters := linesFrom [] cs

def trimNewline (line : Letters) : Letters :=
  (line.reverse.dropWhile fun c : Letter => c = '\n' || c = '\r').reverse

def unifyNewlines : Letters → Letters
  | [] => []
  | '\r' :: '\n' :: rest => '\n' :: unifyNewlines rest
  | '\r' :: rest => '\n' :: unifyNewlines rest
  | c :: rest => c :: unifyNewlines rest

end AccessFix.Text
