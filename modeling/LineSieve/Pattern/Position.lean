/-!
# Places in a pattern

Lines and columns count from one; a column is a number of characters. A span reaches from its
start up to its stop, which it does not include.
-/

namespace LineSieve.Pattern

structure Position where
  line : Nat
  column : Nat
  deriving DecidableEq, Inhabited, Repr

namespace Position

def first : Position := ⟨1, 1⟩

/-- The place after the character `c`. -/
def after (p : Position) (c : Char) : Position :=
  if c = '\n' then ⟨p.line + 1, 1⟩ else ⟨p.line, p.column + 1⟩

def le (p q : Position) : Bool := p.line < q.line || (p.line = q.line && p.column ≤ q.column)

end Position

structure Span where
  start : Position
  stop : Position
  deriving DecidableEq, Inhabited, Repr

namespace Span

/-- The empty span at a place. -/
def point (p : Position) : Span := ⟨p, p⟩

def onOneLine (s : Span) : Bool := s.start.line = s.stop.line

/-- Spans in the order of their starts, then of their stops. -/
def le (s t : Span) : Bool := if s.start = t.start then s.stop.le t.stop else s.start.le t.start

end Span

end LineSieve.Pattern
