import PayoffLexer.Span
import PayoffLexer.Unicode.WhiteSpace

/-!
# The cursor

A cursor stands between two characters of a source and counts bytes, lines and columns on its way.
It moves forward over whole characters, and only a line feed begins a new line.
-/

namespace PayoffLexer

structure Cursor extends Place where
  source : String
deriving DecidableEq

namespace Cursor

def atStart (source : String) : Cursor := ⟨.origin, source⟩

def atEnd (c : Cursor) : Bool := c.source.utf8ByteSize ≤ c.position

def bytesLeft (c : Cursor) : Nat := c.source.utf8ByteSize - c.position

def current? (c : Cursor) : Option Char :=
  if c.atEnd then none else some (String.Pos.Raw.get c.source ⟨c.position⟩)

def advance (c : Cursor) : Cursor :=
  match c.current? with
  | none => c
  | some ch => { c with toPlace := c.toPlace.past ch }

/-- A move past a character takes at least one byte. -/
theorem bytesLeft_advance_lt {c : Cursor} {ch : Char} (h : c.current? = some ch) :
    c.advance.bytesLeft < c.bytesLeft := by
  have hroom : c.position < c.source.utf8ByteSize := by
    refine Nat.lt_of_not_le fun hfull => ?_
    simp [current?, atEnd, hfull] at h
  have hsize := Char.utf8Size_pos ch
  simp only [advance, h, bytesLeft, Place.past_position]
  omega

/-- Moves past `n` characters, or to the end if fewer are left. -/
def advanceBy (c : Cursor) : Nat → Cursor
  | 0 => c
  | n + 1 => if c.atEnd then c else c.advance.advanceBy n

def advanceWhile (p : Char → Bool) (c : Cursor) : Cursor :=
  match _h : c.current? with
  | none => c
  | some ch => if p ch then c.advance.advanceWhile p else c
termination_by c.bytesLeft
decreasing_by exact bytesLeft_advance_lt _h

def skipWhiteSpace (c : Cursor) : Cursor := c.advanceWhile Unicode.isWhiteSpace

def accept? (c : Cursor) (expected : Char) : Option Cursor :=
  if c.current? = some expected then some c.advance else none

def rewind (c : Cursor) : Cursor := atStart c.source

/-- The text from a byte offset up to the cursor, if that is a range of the source. -/
def textFrom? (c : Cursor) (start : Nat) : Option String :=
  Text.slice? c.source start c.position

/-- The text after the cursor, if the cursor is on a boundary of the source. -/
def remaining? (c : Cursor) : Option String :=
  Text.slice? c.source c.position c.source.utf8ByteSize

end Cursor

end PayoffLexer
