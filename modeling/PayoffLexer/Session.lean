import PayoffLexer.Event
import PayoffLexer.Fault
import PayoffLexer.Lexer
import PayoffLexer.Report.Rendering
import PayoffLexer.Report.Sink
import PayoffLexer.Token

/-!
# Sessions

A session is a lexer with a sink for its diagnostics and a log. Its user pulls tokens one at a
time or many at once, reserves words, rewinds, and asks what was reported; every such operation
gives an answer and leaves a session to go on with, also one that a diagnostic has cut short.
-/

namespace PayoffLexer

structure Session where
  lexer : Lexer
  sink : Sink
  log : Array Event
deriving DecidableEq

inductive Halt
  /-- The sink stops the work at this diagnostic. -/
  | reported (diagnostic : Diagnostic)
  /-- The bytes of a token are no range of the source. -/
  | brokenRange (start stop : Nat)
deriving DecidableEq

def Halt.message : Halt → String
  | reported diagnostic => Sink.haltMessage diagnostic
  | brokenRange start stop =>
    "bytes " ++ toString start ++ " to " ++ toString stop ++ " are no range of the source"

namespace Session

def start (source : String) (policy : Policy) : Session :=
  ⟨.start source .standard Settings.standard.exponents, .empty policy, #[]⟩

def record (session : Session) (event : Event) : Session :=
  { session with log := session.log.push event }

/-- Puts settings into effect. Their words come first, and the first that cannot be reserved ends
it. -/
def adopt (session : Session) (settings : Settings) : Session × Except SetupError Unit :=
  match settings.vocabulary with
  | .error error => (session, .error error)
  | .ok vocabulary =>
    let session := { session with lexer.vocabulary := vocabulary }
    let session := { session with lexer.exponents := settings.exponents }
    (session.record (.ofSettings settings), .ok ())

/-- A session over a source with settings put into effect, if there are any. It is left with its log
also where they cannot be. -/
def launch (source : String) (policy : Policy) :
    Option Settings → Session × Except SetupError Unit
  | none => (start source policy, .ok ())
  | some settings => (start source policy).adopt settings

def configure (source : String) (policy : Policy) (settings : Settings) :
    Except SetupError Session :=
  let (session, result) := launch source policy (some settings)
  result.map fun () => session

def text (session : Session) : Except Halt String :=
  match session.lexer.text? with
  | some text => .ok text
  | none => .error (.brokenRange session.lexer.mark.position session.lexer.cursor.position)

def makeToken (session : Session) (kind : Kind) : Except Halt Token :=
  session.text.map fun text => ⟨kind, text, session.lexer.span⟩

/-- Hands the diagnostic of a fault from the mark to the cursor to the sink, which may stop the
work. -/
def report (session : Session) (fault : Fault) : Session × Except Halt Unit :=
  let diagnostic := fault.diagnostic session.lexer.span
  match session.sink.emit? diagnostic with
  | some sink => ({ session with sink }, .ok ())
  | none => (session, .error (.reported diagnostic))

def word (session : Session) : Except Halt Token :=
  session.text.bind fun text =>
    session.makeToken ((session.lexer.vocabulary.kindOf? text).getD .identifier)

/-- The token of a malformed number, which is made before its fault is logged and reported. -/
def malformedNumber (session : Session) : Session × Except Halt Token :=
  match session.makeToken .invalid with
  | .error halt => (session, .error halt)
  | .ok token =>
    let session := session.record (.malformedNumber token.text)
    let (session, reported) := session.report (.malformedNumber token.text)
    (session, reported.map fun () => token)

/-- The token of a character that begins no lexeme, which is logged and reported before the token
is made. -/
def unexpected (session : Session) (c : Char) : Session × Except Halt Token :=
  let mark := session.lexer.mark
  let session := session.record (.unexpectedCharacter c mark.line mark.column)
  let (session, reported) := session.report (.unexpectedCharacter c)
  (session, reported.bind fun () => session.makeToken .invalid)

/-- The token of a lexeme of some shape from the mark to the cursor. -/
def lexemeToken (session : Session) : Shape → Session × Except Halt Token
  | .word => (session, session.word)
  | .number => (session, session.makeToken .number)
  | .malformedNumber => session.malformedNumber
  | .symbol kind => (session, session.makeToken kind)
  | .unexpected c => session.unexpected c

/-- The token of a lexeme as it is given out, which is logged last. -/
def yieldToken (session : Session) (shape : Shape) : Session × Except Halt Token :=
  match session.lexemeToken shape with
  | (session, .error halt) => (session, .error halt)
  | (session, .ok token) =>
    let start := session.lexer.mark.position
    let stop := session.lexer.cursor.position
    (session.record (.scanned token.kind token.text start stop), .ok token)

/-- The next token. The end of the source is not logged. -/
def next (session : Session) : Session × Except Halt Token :=
  let session := { session with lexer := session.lexer.approach }
  if session.lexer.cursor.atEnd then (session, .ok ⟨.endOfInput, "", session.lexer.span⟩)
  else
    let (shape, cursor) := session.lexer.cursor.lexeme session.lexer.exponents
    { session with lexer.cursor := cursor }.yieldToken shape

/-- At most `n` next tokens, and none after the end of the source. -/
def pull : Nat → Session → Session × Except Halt (List Token)
  | 0, session => (session, .ok [])
  | n + 1, session =>
    match session.next with
    | (session, .error halt) => (session, .error halt)
    | (session, .ok token) =>
      if token.isEof then (session, .ok [token])
      else
        match pull n session with
        | (session, .ok tokens) => (session, .ok (token :: tokens))
        | (session, .error halt) => (session, .error halt)

/-- More tokens than can be left: one for each byte, and the end. -/
def bound (session : Session) : Nat := session.lexer.cursor.bytesLeft + 1

/-- All tokens that are left; the last is the end of the source. -/
def tokenize (session : Session) : Session × Except Halt (List Token) :=
  session.pull session.bound

def take (n : Nat) (session : Session) : Session × Except Halt (List Token) :=
  let (session, tokens) := session.pull n
  (session, tokens.map fun tokens => tokens.filter fun token => !token.isEof)

def count (session : Session) : Session × Except Halt Nat :=
  let (session, tokens) := session.take session.bound
  (session, tokens.map List.length)

def iterate (session : Session) : Session × Except Halt (Option Token) :=
  let (session, token) := session.next
  (session, token.map fun token => if token.isEof then none else some token)

def rewind (session : Session) : Session :=
  let logged := session.record (.rewound session.lexer.cursor.position)
  { logged with lexer := session.lexer.rewind }

def reserve (session : Session) (text : String) : Session × Except SetupError Unit :=
  match session.lexer.vocabulary.reserve text with
  | .ok vocabulary => ({ session with lexer.vocabulary := vocabulary }, .ok ())
  | .error error => (session, .error error)

def clear (session : Session) : Session := { session with sink := session.sink.clear }

def source (session : Session) : String := session.lexer.cursor.source

end Session

end PayoffLexer
