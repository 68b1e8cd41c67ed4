import PayoffLexer.Lexeme
import PayoffLexer.Vocabulary

/-!
# The lexer

A lexer is a cursor with a vocabulary. It marks the place where a token begins, and the text, the
span and the line and column of the token are read off the mark and the cursor. Tokens are made of
them, and faults reported, by the session that the lexer belongs to.
-/

namespace PayoffLexer

structure Lexer where
  cursor : Cursor
  /-- Where the token that was scanned last begins. -/
  mark : Place
  vocabulary : Vocabulary
  /-- Do exponents belong to numbers? -/
  exponents : Bool
deriving DecidableEq

namespace Lexer

def start (source : String) (vocabulary : Vocabulary) (exponents : Bool) : Lexer :=
  ⟨.atStart source, .origin, vocabulary, exponents⟩

def span (lexer : Lexer) : Span := .between lexer.mark lexer.cursor.position

def text? (lexer : Lexer) : Option String := lexer.cursor.textFrom? lexer.mark.position

/-- The lexer past white space, with its mark there. -/
def approach (lexer : Lexer) : Lexer :=
  let cursor := lexer.cursor.skipWhiteSpace
  { lexer with cursor, mark := cursor.toPlace }

/-- Back to the start of the source; reserved words stay reserved. -/
def rewind (lexer : Lexer) : Lexer :=
  { lexer with cursor := lexer.cursor.rewind, mark := .origin }

end Lexer

end PayoffLexer
