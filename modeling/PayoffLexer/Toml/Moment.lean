import PayoffLexer.Decimal.Literal
import PayoffLexer.Toml.Blank

/-!
# Dates and times in TOML

A date is a year, month and day that the calendar has; a time has hours, minutes and seconds, and
may have a fraction. A date may have a time after it, and that an offset from the prime
meridian's. The readers say what follows a moment.
-/

namespace PayoffLexer.Toml

/-- The number that exactly `count` digits at the front denote. -/
def readPadded (count : Nat) (text : List Char) : Option (Nat × List Char) :=
  let digits := text.take count
  if digits.length = count ∧ digits.all Char.isDigit then
    some (Decimal.digitsValue 0 digits, text.drop count)
  else none

def readBetween (low high : Nat) (text : List Char) : Option (Nat × List Char) :=
  (readPadded 2 text).filter fun (value, _) => low ≤ value ∧ value ≤ high

def skipChar? (expected : Char) : List Char → Option (List Char)
  | c :: rest => if c = expected then some rest else none
  | [] => none

def isLeapYear (year : Nat) : Bool :=
  year % 4 == 0 && (year % 100 != 0 || year % 400 == 0)

def daysIn (year month : Nat) : Nat :=
  if month = 2 then if isLeapYear year then 29 else 28
  else if month = 4 ∨ month = 6 ∨ month = 9 ∨ month = 11 then 30
  else 31

def skipDate? (text : List Char) : Option (List Char) := do
  let (year, rest) ← readPadded 4 text
  let rest ← skipChar? '-' rest
  let (month, rest) ← readBetween 1 12 rest
  let rest ← skipChar? '-' rest
  let (_, rest) ← readBetween 1 (daysIn year month) rest
  return rest

/-- What follows the fraction of a second, if a point and a digit begin one. -/
def skipFraction : List Char → List Char
  | '.' :: digit :: rest =>
    if digit.isDigit then rest.dropWhile Char.isDigit else '.' :: digit :: rest
  | rest => rest

/-- What follows a time of the day; a minute may have a leap second. -/
def skipTime? (text : List Char) : Option (List Char) := do
  let (_, rest) ← readBetween 0 23 text
  let rest ← skipChar? ':' rest
  let (_, rest) ← readBetween 0 59 rest
  let rest ← skipChar? ':' rest
  let (_, rest) ← readBetween 0 60 rest
  return skipFraction rest

/-- What follows an offset: `Z`, or hours and minutes with a sign. -/
def skipOffset? : List Char → Option (List Char)
  | [] => none
  | c :: rest =>
    if c = 'Z' ∨ c = 'z' then some rest
    else if c = '+' ∨ c = '-' then do
      let (_, rest) ← readBetween 0 23 rest
      let rest ← skipChar? ':' rest
      let (_, rest) ← readBetween 0 59 rest
      return rest
    else none

/-- What follows the time after a date and its offset, or the date alone if no time follows it. -/
def skipTimeOfDate (text : List Char) : List Char :=
  match text with
  | [] => []
  | c :: rest =>
    if c = 'T' ∨ c = 't' ∨ c = ' ' then
      match skipTime? rest with
      | some rest => (skipOffset? rest).getD rest
      | none => text
    else text

def skipMoment? (text : List Char) : Option (List Char) :=
  match skipDate? text with
  | some rest => some (skipTimeOfDate rest)
  | none => skipTime? text

def readMoment : Reader String := fun text =>
  (skipMoment? text).map fun rest => (String.ofList (text.take (text.length - rest.length)), rest)

end PayoffLexer.Toml
