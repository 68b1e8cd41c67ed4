import PayoffLexer.Decimal.Literal
import PayoffLexer.Span
import PayoffLexer.Token.Kind

/-!
# Tokens

A token is a kind, the text it was scanned from exactly as written, and the span of that text.
-/

namespace PayoffLexer

structure Token where
  kind : Kind
  text : String
  span : Span
deriving DecidableEq

namespace Token

def eof : Token := ⟨.endOfInput, "", .unknown⟩

def isEof (token : Token) : Bool := token.kind == .endOfInput

/-- Are two tokens the same lexical unit, wherever they stand? -/
def agrees (a b : Token) : Bool := a.kind == b.kind && a.text == b.text

def value? (token : Token) : Option Decimal.Binary64 :=
  if token.kind = .number then Decimal.read? token.text else none

/-- The token as it is shown: kind and text, and for the end of the source its kind twice. -/
def display (token : Token) : String :=
  let text := if token.isEof then token.kind.name else token.text
  "Tok(t=" ++ token.kind.name ++ ", v=" ++ text ++ ")"

end Token

end PayoffLexer
