import PayoffLexer.Token.Kind

/-!
# How operators bind

What a parser of expressions needs to know of a token: how strongly it binds, how it groups with
itself, and on which side of an operand it may stand. Opening brackets bind with strength zero, so
nothing reaches past an open group.
-/

namespace PayoffLexer

/-- The place of a kind in an expression; the greater precedence binds tighter. -/
structure Binding where
  precedence : Nat
  /-- Does `a op b op c` group as `(a op b) op c`? -/
  leftAssociative : Bool
  /-- May the token begin an operand? -/
  maybePrefix : Bool
  /-- May the token stand between two operands? -/
  maybeInfix : Bool
  /-- Does the token stand nowhere else than between two operands? -/
  onlyInfix : Bool
deriving DecidableEq

namespace Binding

def between (precedence : Nat) (leftAssociative : Bool) : Binding :=
  ⟨precedence, leftAssociative, false, true, true⟩

def betweenOrBefore (precedence : Nat) : Binding :=
  ⟨precedence, true, true, true, false⟩

def before (precedence : Nat) : Binding :=
  ⟨precedence, true, true, false, false⟩

end Binding

namespace Kind

/-- The binding of operators, commas and opening brackets; other kinds have none. -/
def binding? : Kind → Option Binding
  | power => some (.between 9 false)
  | times | divide => some (.between 7 true)
  | plus | minus => some (.betweenOrBefore 6)
  | less | greater | lessEqual | greaterEqual | smoothLess | smoothGreater | equal | doubleEqual =>
    some (.between 5 false)
  | negation => some (.between 4 false)
  | conjunction => some (.between 3 false)
  | disjunction => some (.between 2 false)
  | comma => some (.between 1 true)
  | leftParen => some (.betweenOrBefore 0)
  | leftBracket => some (.before 0)
  | _ => none

def precedence? (kind : Kind) : Option Nat := kind.binding?.map (·.precedence)

def isLeftAssociative (kind : Kind) : Bool := kind.binding?.all (·.leftAssociative)

def maybePrefix (kind : Kind) : Bool := kind.binding?.any (·.maybePrefix)

def onlyInfix (kind : Kind) : Bool := kind.binding?.any (·.onlyInfix)

end Kind

end PayoffLexer
