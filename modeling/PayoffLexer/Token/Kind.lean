/-!
# Kinds of tokens

The kinds are closed: one for each class of words and literals, and one for each symbol of the
language.
-/

namespace PayoffLexer

inductive Kind
  /-- The end of the source. -/
  | endOfInput
  /-- A word that is not reserved. -/
  | identifier
  /-- A decimal literal. -/
  | number
  /-- A statement keyword or a word reserved by the user. -/
  | keyword
  /-- The name of a built-in function. -/
  | function
  /-- The word `AND`. -/
  | conjunction
  /-- The word `OR`. -/
  | disjunction
  /-- The word `NOT`. -/
  | negation
  | plus
  | minus
  | times
  | divide
  | power
  | less
  | greater
  | lessEqual
  | greaterEqual
  | smoothLess
  | smoothGreater
  | equal
  | doubleEqual
  | assign
  | plusAssign
  | minusAssign
  | timesAssign
  | divideAssign
  | powerAssign
  | comma
  | leftParen
  | rightParen
  | leftBracket
  | rightBracket
  /-- A character that starts no token, or a malformed number. -/
  | invalid
deriving DecidableEq

namespace Kind

def name : Kind → String
  | endOfInput => "eof"
  | identifier => "id"
  | number => "num"
  | keyword => "keyW"
  | function => "fun"
  | conjunction => "and"
  | disjunction => "or"
  | negation => "not"
  | plus => "plus"
  | minus => "minus"
  | times => "mul"
  | divide => "div"
  | power => "pow"
  | less => "lt"
  | greater => "gt"
  | lessEqual => "le"
  | greaterEqual => "ge"
  | smoothLess => "smooth_lt"
  | smoothGreater => "smooth_gt"
  | equal => "eq"
  | doubleEqual => "eq_eq"
  | assign => "assign"
  | plusAssign => "plus_assign"
  | minusAssign => "minus_assign"
  | timesAssign => "mul_assign"
  | divideAssign => "div_assign"
  | powerAssign => "pow_assign"
  | comma => "comma"
  | leftParen => "lparen"
  | rightParen => "rparen"
  | leftBracket => "lbracket"
  | rightBracket => "rbracket"
  | invalid => "invalid"

def isOperator : Kind → Bool
  | conjunction | disjunction | negation
  | plus | minus | times | divide | power
  | less | greater | lessEqual | greaterEqual | smoothLess | smoothGreater | equal | doubleEqual
  | assign | plusAssign | minusAssign | timesAssign | divideAssign | powerAssign => true
  | _ => false

/-- Kinds of the tokens that are words: identifiers and reserved words. -/
def isWordKind : Kind → Bool
  | identifier | keyword | function | conjunction | disjunction | negation => true
  | _ => false

end Kind

end PayoffLexer
