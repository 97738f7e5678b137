import AccessFix.Number

/-! Positions and ranges in a text, counted from zero. Coordinates are numbers as they come from data.
Positions are ordered by line and then by character. -/
namespace AccessFix

structure Position where
  line : Number
  character : Number
  deriving DecidableEq, Repr, Inhabited

structure Range where
  start : Position
  stop : Position
  deriving DecidableEq, Repr, Inhabited

namespace Position

def ofInts (line character : Int) : Position := ⟨.int line, .int character⟩

def same (p q : Position) : Bool := p.line.sameKey q.line && p.character.sameKey q.character

def less (p q : Position) : Bool :=
  if p.line.sameKey q.line then
    if p.character.sameKey q.character then false else p.character.less q.character
  else p.line.less q.line

def atMost (p q : Position) : Bool :=
  if p.line.sameKey q.line then
    if p.character.sameKey q.character then true else p.character.atMost q.character
  else p.line.atMost q.line

def text (p : Position) : String :=
  "Position(line=" ++ p.line.text ++ ", character=" ++ p.character.text ++ ")"

end Position

namespace Range

def single (line column : Number) : Range := ⟨⟨line, column⟩, ⟨line, column.addInt 1⟩⟩

def same (r s : Range) : Bool := r.start.same s.start && r.stop.same s.stop

def contains (r : Range) (p : Position) : Bool := r.start.atMost p && p.atMost r.stop

def intersects (r s : Range) : Bool := r.start.atMost s.stop && s.start.atMost r.stop

end Range

end AccessFix
