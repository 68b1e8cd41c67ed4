import PayoffLexer.Token.Kind

/-!
# Symbols

The symbols of the language in the order in which they are tried. A symbol stands before each of
its proper beginnings, so the first that fits is the longest.
-/

namespace PayoffLexer

def symbols : List (String × Kind) := [
  ("**=", .powerAssign), ("**", .power), ("*=", .timesAssign), ("+=", .plusAssign),
  ("-=", .minusAssign), ("/=", .divideAssign), (":=", .assign), ("<=", .lessEqual),
  (">=", .greaterEqual), ("<<", .smoothLess), (">>", .smoothGreater), ("==", .doubleEqual),
  ("+", .plus), ("-", .minus), ("*", .times), ("/", .divide), ("<", .less), (">", .greater),
  ("=", .equal), (",", .comma), ("(", .leftParen), (")", .rightParen), ("[", .leftBracket),
  ("]", .rightBracket)]

end PayoffLexer
