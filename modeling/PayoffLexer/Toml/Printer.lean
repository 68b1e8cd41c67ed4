import PayoffLexer.Toml.Character

/-!
# Writing TOML

A string is written in the first of four forms that holds its text with nothing but tabs to escape:
between double quotes, between single quotes, between three double quotes, between three single
quotes. A text that no form holds so is escaped between double quotes, three of them if it runs
over lines.
-/

namespace PayoffLexer.Toml

inductive StringForm
  | basic
  | literal
  | basicLines
  | literalLines
deriving DecidableEq

/-- Is the character a control that may stand in no string as it is? The tab and the line feed may.
-/
def isControl (c : Char) : Bool := !isPlain c && c != '\n'

def hasTriple (quote : Char) : List Char → Bool
  | a :: b :: c :: rest =>
    (a == quote && b == quote && c == quote) || hasTriple quote (b :: c :: rest)
  | _ => false

/-- Does a form hold the text with nothing but tabs to escape? Two quotes in a row do no harm
between three. -/
def StringForm.holds (text : List Char) (form : StringForm) : Bool :=
  !text.any isControl &&
    match form with
    | .basic => !text.contains '"' && !text.contains '\\' && !text.contains '\n'
    | .literal => !text.contains '\'' && !text.contains '\n'
    | .basicLines => !text.contains '\\' && !hasTriple '"' text
    | .literalLines => !hasTriple '\'' text

def StringForm.of (text : List Char) : StringForm :=
  if StringForm.basic.holds text then .basic
  else if StringForm.literal.holds text then .literal
  else if StringForm.basicLines.holds text then .basicLines
  else if StringForm.literalLines.holds text then .literalLines
  else if text.contains '\n' then .basicLines
  else .basic

def hexDigit (value : Nat) : Char := (Nat.digitChar value).toUpper

def fourHexDigits (code : Nat) : List Char :=
  [hexDigit (code / 4096 % 16), hexDigit (code / 256 % 16), hexDigit (code / 16 % 16),
    hexDigit (code % 16)]

def escapeChar (c : Char) : List Char :=
  if c = '\x08' then ['\\', 'b']
  else if c = '\t' then ['\\', 't']
  else if c = '\n' then ['\\', 'n']
  else if c = '\x0c' then ['\\', 'f']
  else if c = '\r' then ['\\', 'r']
  else if c = '"' then ['\\', '"']
  else if c = '\\' then ['\\', '\\']
  else if isControl c then '\\' :: 'u' :: fourHexDigits c.toNat
  else [c]

/-- A text as it stands in a basic string over lines, after a number of double quotes in a row. The
third is escaped, which ends the row. -/
def escapeLines (quotes : Nat) : List Char → List Char
  | [] => []
  | c :: rest =>
    if c = '"' then
      if quotes < 2 then '"' :: escapeLines (quotes + 1) rest
      else '\\' :: '"' :: escapeLines 0 rest
    else if c = '\n' then '\n' :: escapeLines 0 rest
    else escapeChar c ++ escapeLines 0 rest

/-- The line break after opening quotes: a text of several lines starts on a line of its own. -/
def firstBreak (text : List Char) : List Char := if text.contains '\n' then ['\n'] else []

def StringForm.write (text : List Char) : StringForm → List Char
  | .basic => '"' :: (text.flatMap escapeChar ++ ['"'])
  | .literal => '\'' :: (text ++ ['\''])
  | .basicLines =>
    '"' :: '"' :: '"' :: (firstBreak text ++ escapeLines 0 text ++ ['"', '"', '"'])
  | .literalLines =>
    '\'' :: '\'' :: '\'' :: (firstBreak text ++ text ++ ['\'', '\'', '\''])

def writeString (text : String) : String :=
  String.ofList ((StringForm.of text.toList).write text.toList)

end PayoffLexer.Toml
