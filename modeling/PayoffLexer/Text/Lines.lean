/-!
# Lines

A line ends at a line feed, or at the end of the text if it holds anything. One carriage return
directly before the line feed belongs to the line's end; a carriage return anywhere else is part
of the line.
-/

namespace PayoffLexer.Text

/-- The lines of a text without their ends; no empty line follows a final line feed. -/
def breakLines : List Char → List (List Char)
  | [] => []
  | c :: rest =>
    if c = '\n' then [] :: breakLines rest
    else if c = '\r' ∧ rest.head? = some '\n' then breakLines rest
    else
      match breakLines rest with
      | [] => [[c]]
      | line :: others => (c :: line) :: others

def line? (text : String) (index : Nat) : Option String :=
  (breakLines text.toList)[index]?.map String.ofList

end PayoffLexer.Text
