import PayoffLexer.Cursor

/-!
# Looking ahead

The character `n` characters ahead is read without moving. Where all bytes up to it are ASCII a
character is a byte and the answer is one look at the source; elsewhere a walk over the characters
gives it.
-/

namespace PayoffLexer.Cursor

/-- Stands for the character that is missing past the end of a source. -/
def endMark : Char := '\x00'

/-- The ASCII character at a byte offset; none past the end and inside or before a longer
character. -/
def asciiAt? (source : String) (place : Nat) : Option Char :=
  if h : place < source.utf8ByteSize then
    let byte := source.getUTF8Byte ⟨place⟩ h
    if byte < 0x80 then some (Char.ofUInt8 byte) else none
  else
    none

/-- The character `n` bytes after `place`, if all bytes from `place` up to it are ASCII. -/
def asciiAhead? (source : String) (place : Nat) : Nat → Option Char
  | 0 => asciiAt? source place
  | n + 1 => if (asciiAt? source place).isSome then asciiAhead? source (place + 1) n else none

def walkAhead? (c : Cursor) : Nat → Option Char
  | 0 => c.current?
  | n + 1 => if c.atEnd then none else c.advance.walkAhead? n

/-- The character `n` characters ahead, or the end mark if the source ends before it. -/
def peek (c : Cursor) (n : Nat) : Char :=
  match asciiAhead? c.source c.position n with
  | some ch => ch
  | none => (c.walkAhead? n).getD endMark

def current (c : Cursor) : Char := c.peek 0

end PayoffLexer.Cursor
