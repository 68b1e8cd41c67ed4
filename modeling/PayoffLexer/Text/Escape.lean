import PayoffLexer.Unicode.GraphemeExtend
import PayoffLexer.Unicode.Unprintable

/-!
# A character in a message

A message shows a character as itself unless it would be lost, would join its neighbour, or has a
meaning of its own between quotes. Then an escape takes its place.
-/

namespace PayoffLexer.Text

def shortEscape? (c : Char) : Option String :=
  if c = '\x00' then some "\\0"
  else if c = '\t' then some "\\t"
  else if c = '\n' then some "\\n"
  else if c = '\r' then some "\\r"
  else if c = '\'' then some "\\'"
  else if c = '"' then some "\\\""
  else if c = '\\' then some "\\\\"
  else none

/-- The escape by code point: lower-case hexadecimal digits in braces, without padding. -/
def codeEscape (c : Char) : String :=
  "\\u\x7b" ++ String.ofList (Nat.toDigits 16 c.toNat) ++ "\x7d"

def escape (c : Char) : String :=
  match shortEscape? c with
  | some short => short
  | none =>
    if Unicode.isGraphemeExtend c || Unicode.isUnprintable c then codeEscape c
    else String.singleton c

end PayoffLexer.Text
