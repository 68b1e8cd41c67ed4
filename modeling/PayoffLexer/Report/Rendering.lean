import PayoffLexer.Report.Diagnostic
import PayoffLexer.Report.Excerpt
import PayoffLexer.Text.Lines

/-!
# Reports

A report is the header of a diagnostic, the line at fault with carets under the fault, and the
notes of help. The line is left out if the span names none of the source.
-/

namespace PayoffLexer.Diagnostic

/-- The number of characters at fault; one if the span is no range of the source. -/
def width (diagnostic : Diagnostic) (source : String) : Nat :=
  match diagnostic.span.text? source with
  | some text => text.length
  | none => 1

/-- The line at fault with carets from the column of the span on. -/
def excerpt? (diagnostic : Diagnostic) (source : String) : Option Excerpt :=
  let line := diagnostic.span.line.toNat
  let column := diagnostic.span.column.toNat
  if line = 0 then none
  else
    (Text.line? source (line - 1)).map fun text =>
      ⟨text, line, column, column + diagnostic.width source⟩

def location (diagnostic : Diagnostic) (source : String) : String :=
  match diagnostic.excerpt? source with
  | some excerpt =>
    "  --> " ++ toString excerpt.lineNumber ++ ":" ++ toString excerpt.startColumn ++ "\n"
      ++ excerpt.format ++ "\n"
  | none => ""

def helpLine (help : String) : String := "  = help: " ++ help ++ "\n"

def render (diagnostic : Diagnostic) (source : String) : String :=
  diagnostic.header ++ "\n" ++ diagnostic.location source
    ++ String.join (diagnostic.helps.map helpLine)

end PayoffLexer.Diagnostic
