import PayoffLexer.Cursor.Lookahead
import PayoffLexer.Token.Symbol
import PayoffLexer.Word

/-!
# Lexemes

A lexeme is the text of one token. Its shape is decided by its first characters, and the cursor
past it is found without regard to which words are reserved.

A number is digits with an optional point, and an exponent only if digits follow its letter and
sign; otherwise the letter is left for the next lexeme. A number that a point follows directly is
malformed and takes all further digits and points.
-/

namespace PayoffLexer

inductive Shape
  | word
  | number
  | malformedNumber
  | symbol (kind : Kind)
  | unexpected (c : Char)
deriving DecidableEq

namespace Cursor

def skipDigits (c : Cursor) : Cursor := c.advanceWhile Char.isDigit

def skipFraction (c : Cursor) : Cursor :=
  match c.accept? '.' with
  | some after => after.skipDigits
  | none => c

/-- The number of characters before the digits of an exponent: its letter and perhaps a sign. -/
def exponentLead (c : Cursor) : Nat :=
  if c.peek 1 = '+' ∨ c.peek 1 = '-' then 2 else 1

/-- Past an exponent, if a complete one begins here. -/
def skipExponent (c : Cursor) : Cursor :=
  if c.current = 'e' ∨ c.current = 'E' then
    if (c.peek c.exponentLead).isDigit then (c.advanceBy c.exponentLead).skipDigits else c
  else c

def skipNumber (exponents : Bool) (c : Cursor) : Cursor :=
  let mantissa := c.skipDigits.skipFraction
  if exponents then mantissa.skipExponent else mantissa

/-- The kind of the first symbol of the table that the rest of the source begins with, and the
cursor past it. A symbol is ASCII, so it has as many characters as bytes. -/
def symbol? (c : Cursor) : Option (Kind × Cursor) :=
  c.remaining?.bind fun rest =>
    (symbols.find? fun (text, _) => rest.startsWith text).map fun (text, kind) =>
      (kind, c.advanceBy text.utf8ByteSize)

def numberLexeme (exponents : Bool) (c : Cursor) : Shape × Cursor :=
  let after := c.skipNumber exponents
  if after.current = '.' ∧ after.atEnd = false then
    (.malformedNumber, after.advanceWhile fun ch => ch.isDigit || ch == '.')
  else (.number, after)

/-- The shape of the lexeme that begins here, and the cursor past it. -/
def lexeme (exponents : Bool) (c : Cursor) : Shape × Cursor :=
  if startsNumber c.current (c.peek 1) then c.numberLexeme exponents
  else if startsWord c.current then (.word, c.advanceWhile continuesWord)
  else
    match c.symbol? with
    | some (kind, after) => (.symbol kind, after)
    | none => (.unexpected c.current, c.advance)

end Cursor

end PayoffLexer
