import PayoffLexer.Session

/-!
# Operations on sessions

The operations as data, so that a whole run is a list of them and its answers are another.
-/

namespace PayoffLexer

inductive Operation
  | next
  | iterate
  | take (n : Nat)
  | count
  | tokenize
  | rewind
  | reserve (text : String)
  | source
  | diagnostics
  | reports
  | clear
  | kindOf (word : String)
  | isReserved (word : String)
  | vocabularySize
  | isVocabularyEmpty
deriving DecidableEq

inductive Answer
  | done
  | token (token : Token)
  | item (token : Option Token)
  | tokens (tokens : List Token)
  | number (value : Nat)
  | flag (value : Bool)
  | text (text : String)
  | texts (texts : List String)
  | kind (kind : Option Kind)
  | diagnostics (diagnostics : List Diagnostic)
  | accepted
  | refused (error : SetupError)
  | halted (halt : Halt)
deriving DecidableEq

namespace Answer

def ofResult {α : Type} (answer : α → Answer) : Except Halt α → Answer
  | .ok value => answer value
  | .error halt => halted halt

def ofReserve : Except SetupError Unit → Answer
  | .ok () => accepted
  | .error error => refused error

end Answer

namespace Session

def perform (session : Session) : Operation → Session × Answer
  | .next => session.next.map id (.ofResult .token)
  | .iterate => session.iterate.map id (.ofResult .item)
  | .take n => (session.take n).map id (.ofResult .tokens)
  | .count => session.count.map id (.ofResult .number)
  | .tokenize => session.tokenize.map id (.ofResult .tokens)
  | .rewind => (session.rewind, .done)
  | .reserve text => (session.reserve text).map id .ofReserve
  | .source => (session, .text session.source)
  | .diagnostics => (session, .diagnostics session.sink.diagnostics.toList)
  | .reports =>
    (session, .texts (session.sink.diagnostics.toList.map (·.render session.source)))
  | .clear => (session.clear, .done)
  | .kindOf word => (session, .kind (session.lexer.vocabulary.kindOf? word))
  | .isReserved word => (session, .flag (session.lexer.vocabulary.contains word))
  | .vocabularySize => (session, .number session.lexer.vocabulary.size)
  | .isVocabularyEmpty => (session, .flag session.lexer.vocabulary.isEmpty)

def run (session : Session) : List Operation → Session × List Answer
  | [] => (session, [])
  | operation :: others =>
    let (session, answer) := session.perform operation
    let (session, answers) := session.run others
    (session, answer :: answers)

end Session

end PayoffLexer
