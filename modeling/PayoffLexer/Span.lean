import PayoffLexer.Text.Slice

/-!
# Places and spans

A place in a source is a byte offset together with the line and column it falls on, both counted
from one and the column in characters. A span is the stretch from a place to a later byte.
-/

namespace PayoffLexer

structure Place where
  position : Nat
  line : UInt32
  column : UInt32
deriving DecidableEq

namespace Place

def origin : Place := ⟨0, 1, 1⟩

def past (place : Place) (c : Char) : Place :=
  if c = '\n' then ⟨place.position + c.utf8Size, place.line + 1, 1⟩
  else ⟨place.position + c.utf8Size, place.line, place.column + 1⟩

@[simp] theorem past_position (place : Place) (c : Char) :
    (place.past c).position = place.position + c.utf8Size := by
  unfold past
  split <;> rfl

end Place

/-- The bytes from `start` up to `stop`; line and column are those of `start`. -/
structure Span where
  start : Nat
  stop : Nat
  line : UInt32
  column : UInt32
deriving DecidableEq

namespace Span

/-- The span of a text without a known location. Line zero is no line of any source. -/
def unknown : Span := ⟨0, 0, 0, 0⟩

def point (offset : Nat) (line column : UInt32) : Span := ⟨offset, offset, line, column⟩

def between (place : Place) (stop : Nat) : Span :=
  ⟨place.position, stop, place.line, place.column⟩

def isEmpty (span : Span) : Bool := span.stop ≤ span.start

/-- The number of bytes; a span whose ends are reversed has none. -/
def size (span : Span) : Nat := span.stop - span.start

def text? (span : Span) (source : String) : Option String :=
  Text.slice? source span.start span.stop

end Span

end PayoffLexer
