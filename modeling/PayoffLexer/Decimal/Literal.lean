import PayoffLexer.Decimal.Binary64

/-!
# Decimal literals

A literal is an optional sign and either digits with an optional point among or beside them and an
optional exponent, or the word for infinity or for not a number in letters of either case. Its
value is the nearest double.
-/

namespace PayoffLexer.Decimal

/-- The number that a run of digits denotes, read on from `value`. -/
def digitsValue (value : Nat) (digits : List Char) : Nat :=
  digits.foldl (fun value d => 10 * value + (d.toNat - '0'.toNat)) value

def splitDigits (text : List Char) : List Char × List Char :=
  text.span Char.isDigit

/-- The sign at the front, true if negative, and what follows it. -/
def splitSign : List Char → Bool × List Char
  | '-' :: rest => (true, rest)
  | '+' :: rest => (false, rest)
  | rest => (false, rest)

/-- The exponent that makes up the whole text; none is zero. -/
def readExponent? : List Char → Option Int
  | [] => some 0
  | mark :: rest =>
    if mark = 'e' ∨ mark = 'E' then
      match splitSign rest with
      | (negative, rest) =>
        match splitDigits rest with
        | ([], _) => none
        | (digits, []) =>
          let size : Int := digitsValue 0 digits
          some (if negative then -size else size)
        | (_, _ :: _) => none
    else none

def splitFraction : List Char → List Char × List Char
  | '.' :: rest => splitDigits rest
  | rest => ([], rest)

def readDigits? (negative : Bool) (text : List Char) : Option Binary64 :=
  let (whole, rest) := splitDigits text
  let (fraction, rest) := splitFraction rest
  if whole.isEmpty && fraction.isEmpty then none
  else
    (readExponent? rest).map fun exponent =>
      .ofScientific negative (digitsValue (digitsValue 0 whole) fraction)
        (exponent - fraction.length)

def readWord? (negative : Bool) (text : List Char) : Option Binary64 :=
  let word := String.ofList (text.map Char.toLower)
  if word = "inf" ∨ word = "infinity" then some (.infinity negative)
  else if word = "nan" then some .nan
  else none

def read? (text : String) : Option Binary64 :=
  match splitSign text.toList with
  | (negative, rest) =>
    match readWord? negative rest with
    | some value => some value
    | none => readDigits? negative rest

end PayoffLexer.Decimal
