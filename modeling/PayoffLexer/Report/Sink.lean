import PayoffLexer.Report.Diagnostic

/-!
# Sinks

A sink receives diagnostics. It either keeps them in the order of their arrival, or stops the work
at the first.
-/

namespace PayoffLexer

inductive Policy
  | collect
  | halt
deriving DecidableEq

structure Sink where
  policy : Policy
  diagnostics : Array Diagnostic
deriving DecidableEq

namespace Sink

def empty (policy : Policy) : Sink := ⟨policy, #[]⟩

/-- The sink after a diagnostic; none if the diagnostic stops the work. -/
def emit? (sink : Sink) (diagnostic : Diagnostic) : Option Sink :=
  match sink.policy with
  | .collect => some { sink with diagnostics := sink.diagnostics.push diagnostic }
  | .halt => none

def clear (sink : Sink) : Sink := .empty sink.policy

def size (sink : Sink) : Nat := sink.diagnostics.size

def hasErrors (sink : Sink) : Bool := !sink.diagnostics.isEmpty

def haltMessage (diagnostic : Diagnostic) : String := "Diagnostic error: " ++ diagnostic.header

end Sink

end PayoffLexer
