import PayoffLexer.Unicode.Alphabetic

/-!
# Characters of words and numbers

A word is a letter or an underscore followed by letters, ASCII digits and underscores. A number
begins with an ASCII digit, or with a point that an ASCII digit follows.
-/

namespace PayoffLexer

def startsWord (c : Char) : Bool :=
  c == '_' || Unicode.isAlphabetic c

/-- May a word go on with this character? Digits of other scripts end it. -/
def continuesWord (c : Char) : Bool :=
  c == '_' || Unicode.isAlphabetic c || c.isDigit

def startsNumber (c next : Char) : Bool :=
  c.isDigit || (c == '.' && next.isDigit)

def isWord (text : String) : Bool :=
  match text.toList with
  | [] => false
  | first :: rest => startsWord first && rest.all continuesWord

end PayoffLexer
