import PayoffLexer.Decimal.Literal
import PayoffLexer.Toml.Quoted
import PayoffLexer.Toml.Value

/-!
# Numbers in TOML

Single underscores may stand between digits. Integers fit in sixty-four bits with a sign; those in
other bases than ten have a mark in front and no sign. A float has a fraction, an exponent or
both, and digits on either side of its point.
-/

namespace PayoffLexer.Toml

/-- Further digits of a run: each may have one underscore before it. -/
def moreDigits (isDigit : Char → Bool) : List Char → List Char × List Char
  | '_' :: digit :: rest =>
    if isDigit digit then
      let (digits, rest) := moreDigits isDigit rest
      (digit :: digits, rest)
    else ([], '_' :: digit :: rest)
  | c :: rest =>
    if isDigit c then
      let (digits, rest) := moreDigits isDigit rest
      (c :: digits, rest)
    else ([], c :: rest)
  | [] => ([], [])

/-- A run of at least one digit, given without its underscores. -/
def readDigits (isDigit : Char → Bool) : Reader (List Char)
  | [] => none
  | c :: rest =>
    if isDigit c then
      let (digits, rest) := moreDigits isDigit rest
      some (c :: digits, rest)
    else none

/-- The digits of a whole number in base ten, which do not begin with a zero unless that is all.
-/
def readWhole : Reader (List Char)
  | '0' :: rest => some (['0'], rest)
  | rest => readDigits Char.isDigit rest

def readFraction? : Reader (List Char)
  | '.' :: rest => readDigits Char.isDigit rest
  | _ => none

def readExponent? : Reader Int
  | mark :: rest =>
    if mark = 'e' ∨ mark = 'E' then
      let (negative, rest) := Decimal.splitSign rest
      (readDigits Char.isDigit rest).map fun (digits, rest) =>
        let size : Int := Decimal.digitsValue 0 digits
        (if negative then -size else size, rest)
    else none
  | [] => none

def integer? (value : Int) : Option Value :=
  if -0x8000000000000000 ≤ value ∧ value < 0x8000000000000000 then some (.integer value)
  else none

/-- The float nearest to a decimal as a value. A document may not hold one that is out of range
above. -/
def float? (negative : Bool) (significand : Nat) (exponent : Int) : Option Value :=
  let value := Decimal.Binary64.ofScientific negative significand exponent
  if value = .infinity false then none else some (.float value)

def valueInBase (base : Nat) (digits : List Char) : Nat :=
  digits.foldl (fun value digit => base * value + (hexValue? digit).getD 0) 0

def isDigitIn (base : Nat) (c : Char) : Bool := (hexValue? c).any (· < base)

/-- An integer in the base that its mark names, read after the mark. -/
def readInBase (base : Nat) (text : List Char) : Option (Value × List Char) :=
  (readDigits (isDigitIn base) text).bind fun (digits, rest) =>
    (integer? (valueInBase base digits)).map fun value => (value, rest)

def readDecimal (negative : Bool) (text : List Char) : Option (Value × List Char) :=
  (readWhole text).bind fun (whole, rest) =>
    let (fraction?, rest) :=
      match readFraction? rest with
      | some (fraction, rest) => (some fraction, rest)
      | none => (none, rest)
    let (exponent?, rest) :=
      match readExponent? rest with
      | some (exponent, rest) => (some exponent, rest)
      | none => (none, rest)
    let size := Decimal.digitsValue 0 whole
    if fraction?.isNone && exponent?.isNone then
      (integer? (if negative then -size else size)).map fun value => (value, rest)
    else
      let fraction := fraction?.getD []
      (float? negative (Decimal.digitsValue size fraction)
        (exponent?.getD 0 - fraction.length)).map fun value => (value, rest)

def readNumber : Reader Value
  | '0' :: 'x' :: rest => readInBase 16 rest
  | '0' :: 'o' :: rest => readInBase 8 rest
  | '0' :: 'b' :: rest => readInBase 2 rest
  | text =>
    match Decimal.splitSign text with
    | (negative, 'i' :: 'n' :: 'f' :: rest) => some (.float (.infinity negative), rest)
    | (_, 'n' :: 'a' :: 'n' :: rest) => some (.float .nan, rest)
    | (negative, rest) => readDecimal negative rest

end PayoffLexer.Toml
