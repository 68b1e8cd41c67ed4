import PayoffLexer.SetupError
import PayoffLexer.Token.Kind
import PayoffLexer.Word

/-!
# Reserved words

A vocabulary says which words are reserved and of which kind each is. Words are compared exactly,
so `If` is free although `IF` is not. A word keeps the kind under which it was reserved first.
-/

namespace PayoffLexer

structure Vocabulary where
  entries : List (String × Kind)
deriving DecidableEq

namespace Vocabulary

def keywords : List String := ["IF", "THEN", "ELSE", "PAY", "STOP"]

def functions : List String := [
  "EXP", "LOG", "ABS", "SQRT", "SQUARE", "MIN", "MAX", "SUM", "PROD", "ARGMIN", "ARGMAX", "LEN",
  "APPEND"]

def empty : Vocabulary := ⟨[]⟩

def standard : Vocabulary :=
  ⟨keywords.map (·, .keyword) ++ functions.map (·, .function)
    ++ [("AND", .conjunction), ("OR", .disjunction), ("NOT", .negation)]⟩

def kindOf? (vocabulary : Vocabulary) (word : String) : Option Kind :=
  vocabulary.entries.lookup word

def contains (vocabulary : Vocabulary) (word : String) : Bool := (vocabulary.kindOf? word).isSome

def size (vocabulary : Vocabulary) : Nat := vocabulary.entries.length

def isEmpty (vocabulary : Vocabulary) : Bool := vocabulary.entries.isEmpty

/-- Reserves a word as a keyword, unless it is reserved already. -/
def add (vocabulary : Vocabulary) (word : String) : Vocabulary :=
  if vocabulary.contains word then vocabulary else ⟨vocabulary.entries ++ [(word, .keyword)]⟩

/-- Reserves a text, which has to be a word. -/
def reserve (vocabulary : Vocabulary) (text : String) : Except SetupError Vocabulary :=
  if isWord text then .ok (vocabulary.add text) else .error (.invalidKeyword text)

/-- Reserves texts in their order up to the first that is not a word. -/
def reserveAll (vocabulary : Vocabulary) : List String → Except SetupError Vocabulary
  | [] => .ok vocabulary
  | text :: others => (vocabulary.reserve text).bind (·.reserveAll others)

end Vocabulary

end PayoffLexer
