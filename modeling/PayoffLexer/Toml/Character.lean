/-!
# Characters in TOML

Which characters stand for themselves, which may be in a key without quotes, and what the letters
and digits of an escape mean.
-/

namespace PayoffLexer.Toml

/-- May the character stand for itself in comments and strings? Controls other than the tab may
not. -/
def isPlain (c : Char) : Bool :=
  c == '\t' || (0x20 ≤ c.toNat && c.toNat != 0x7F)

def isBlank (c : Char) : Bool := c == ' ' || c == '\t'

def isBareKeyChar (c : Char) : Bool := c.isAlphanum || c == '_' || c == '-'

def hexValue? (c : Char) : Option Nat :=
  if c.isDigit then some (c.toNat - '0'.toNat)
  else if 'a' ≤ c ∧ c ≤ 'f' then some (c.toNat - 'a'.toNat + 10)
  else if 'A' ≤ c ∧ c ≤ 'F' then some (c.toNat - 'A'.toNat + 10)
  else none

/-- The character whose code point the hexadecimal digits denote, read on from `code`. -/
def charOfHex? (code : Nat) : List Char → Option Char
  | [] => if code.isValidChar then some (Char.ofNat code) else none
  | digit :: digits => (hexValue? digit).bind fun value => charOfHex? (16 * code + value) digits

def unescape? (letter : Char) : Option Char :=
  if letter = 'b' then some '\x08'
  else if letter = 't' then some '\t'
  else if letter = 'n' then some '\n'
  else if letter = 'f' then some '\x0c'
  else if letter = 'r' then some '\r'
  else if letter = '"' then some '"'
  else if letter = '\\' then some '\\'
  else none

end PayoffLexer.Toml
