import PayoffLexer.Settings
import PayoffLexer.Text.Escape

/-!
# The log

A lexer logs what it does: that it was configured or rewound, each token it scanned, and each
fault it met on the way.
-/

namespace PayoffLexer

inductive Level
  | trace
  | debug
  | warn
deriving DecidableEq

def Level.name : Level → String
  | trace => "TRACE"
  | debug => "DEBUG"
  | warn => "WARN"

inductive Detail
  | text (value : String)
  | number (value : Nat)
  | flag (value : Bool)
deriving DecidableEq

inductive Event
  | configured (extraKeywords : Nat) (exponents : Bool)
  | rewound (position : Nat)
  | scanned (kind : Kind) (text : String) (start stop : Nat)
  | unexpectedCharacter (c : Char) (line column : UInt32)
  | malformedNumber (text : String)
deriving DecidableEq

namespace Event

def ofSettings (settings : Settings) : Event :=
  .configured settings.keywords.length settings.exponents

def level : Event → Level
  | configured .. | rewound _ => .debug
  | scanned .. => .trace
  | unexpectedCharacter .. | malformedNumber _ => .warn

def message : Event → String
  | configured .. => "lexer configured"
  | rewound _ => "lexer reset"
  | scanned .. => "token"
  | unexpectedCharacter .. => "unexpected character"
  | malformedNumber _ => "malformed number literal"

def details : Event → List (String × Detail)
  | configured extraKeywords exponents =>
    [("extra_keywords", .number extraKeywords), (Settings.exponentsKey, .flag exponents)]
  | rewound position => [("from", .number position)]
  | scanned kind text start stop =>
    [("kind", .text kind.name), ("text", .text text), ("start", .number start),
      ("end", .number stop)]
  | unexpectedCharacter c line column =>
    [("character", .text (Text.escape c)), ("line", .number line.toNat),
      ("column", .number column.toNat)]
  | malformedNumber text => [("text", .text text)]

end Event

end PayoffLexer
