import PayoffLexer.Toml.Character

/-!
# White space and comments in TOML

Statements end with their line. A comment runs from a number sign to the end of its line and may
hold any character but the controls other than the tab.
-/

namespace PayoffLexer.Toml

/-- A reader takes a value off the front of a text and gives what follows it. -/
abbrev Reader (α : Type) := List Char → Option (α × List Char)

def skipBlank (text : List Char) : List Char := text.dropWhile isBlank

/-- What follows the line break at the front: a line feed, or a carriage return with a line feed.
-/
def newline? : List Char → Option (List Char)
  | '\n' :: rest => some rest
  | '\r' :: '\n' :: rest => some rest
  | _ => none

def skipComment : List Char → List Char
  | '#' :: rest => rest.dropWhile isPlain
  | rest => rest

/-- What follows the rest of a line that holds at most a comment. -/
def endLine? (text : List Char) : Option (List Char) :=
  match skipComment (skipBlank text) with
  | [] => some []
  | rest => newline? rest

/-- What follows white space, line breaks and comments; `inComment` tells whether the text begins
inside a comment. -/
def skipFiller (inComment : Bool) : List Char → List Char
  | [] => []
  | c :: rest =>
    if c = '\n' then skipFiller false rest
    else if c = '\r' ∧ rest.head? = some '\n' then skipFiller false rest
    else if inComment then
      if isPlain c then skipFiller true rest else c :: rest
    else if isBlank c then skipFiller false rest
    else if c = '#' then skipFiller true rest
    else c :: rest

end PayoffLexer.Toml
