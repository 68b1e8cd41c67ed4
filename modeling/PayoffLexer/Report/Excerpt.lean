import PayoffLexer.Unicode.WhiteSpace

/-!
# Excerpts

An excerpt shows one line of a source and, under it, carets below a range of columns. Both of its
lines begin with a gutter of the same width. The padding before the carets repeats the white space
of the line, so that tabs keep their width.
-/

namespace PayoffLexer

/-- A numbered line with columns to point at, from `startColumn` up to but not including
`endColumn`; columns count characters from one. -/
structure Excerpt where
  line : String
  lineNumber : Nat
  startColumn : Nat
  endColumn : Nat
deriving DecidableEq

namespace Excerpt

def numberDigits (excerpt : Excerpt) : List Char := Nat.toDigits 10 excerpt.lineNumber

def gutterWidth (excerpt : Excerpt) : Nat := max 3 excerpt.numberDigits.length

/-- A gutter that holds the given characters at its right end. -/
def gutter (excerpt : Excerpt) (content : List Char) : List Char :=
  List.replicate (excerpt.gutterWidth - content.length) ' ' ++ content ++ [' ', '|', ' ']

def padding (excerpt : Excerpt) : List Char :=
  (excerpt.line.toList.take (excerpt.startColumn - 1)).map fun c =>
    if Unicode.isWhiteSpace c then c else ' '

/-- At least one caret, and one for each column of the range. -/
def carets (excerpt : Excerpt) : List Char :=
  List.replicate (max 1 (excerpt.endColumn - excerpt.startColumn)) '^'

def format (excerpt : Excerpt) : String :=
  String.ofList (excerpt.gutter excerpt.numberDigits) ++ excerpt.line ++ "\n"
    ++ String.ofList (excerpt.gutter [] ++ excerpt.padding ++ excerpt.carets)

end Excerpt

end PayoffLexer
