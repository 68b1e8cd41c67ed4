import PayoffLexer.Report.Diagnostic
import PayoffLexer.Text.Escape

/-!
# Lexical faults

What can be wrong with the text of a token, and the diagnostic that says so.
-/

namespace PayoffLexer

inductive Fault
  | unexpectedCharacter (c : Char)
  | malformedNumber (text : String)
deriving DecidableEq

namespace Fault

def code : Fault → ErrorCode
  | unexpectedCharacter _ => .unexpectedCharacter
  | malformedNumber _ => .invalidNumber

def message : Fault → String
  | unexpectedCharacter c => "unexpected character '" ++ Text.escape c ++ "'"
  | malformedNumber text => "invalid number literal '" ++ text ++ "'"

/-- Notes of help: a lone colon is most often meant as an assignment. -/
def helps : Fault → List String
  | unexpectedCharacter c => if c = ':' then ["assignment is written ':='"] else []
  | malformedNumber _ => ["a number has at most one decimal point"]

def diagnostic (fault : Fault) (span : Span) : Diagnostic :=
  ⟨fault.message, span, some fault.code, fault.helps⟩

end Fault

end PayoffLexer
