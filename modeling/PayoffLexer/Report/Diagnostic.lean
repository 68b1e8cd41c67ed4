import PayoffLexer.Span

/-!
# Diagnostics

A diagnostic names a fault in a source: a message, the span at fault, an optional code and notes
of help.
-/

namespace PayoffLexer

/-- A stable number of a kind of fault; its thousands name the phase, and the lexer is the first.
-/
structure ErrorCode where
  number : UInt32
deriving DecidableEq

namespace ErrorCode

def unexpectedCharacter : ErrorCode := ⟨1001⟩

def invalidNumber : ErrorCode := ⟨1003⟩

/-- The letter `E` and the number in at least four digits. -/
def label (code : ErrorCode) : String :=
  let digits := Nat.toDigits 10 code.number.toNat
  String.ofList ('E' :: (List.replicate (4 - digits.length) '0' ++ digits))

def describe (code : ErrorCode) : String := "DiagnosticCode(" ++ code.label ++ ")"

end ErrorCode

structure Diagnostic where
  message : String
  span : Span
  code : Option ErrorCode
  helps : List String
deriving DecidableEq

namespace Diagnostic

/-- The first line of a report: severity, code and message. -/
def header (diagnostic : Diagnostic) : String :=
  match diagnostic.code with
  | some code => "error[" ++ code.label ++ "]: " ++ diagnostic.message
  | none => "error: " ++ diagnostic.message

end Diagnostic

end PayoffLexer
