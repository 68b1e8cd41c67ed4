/-!
# Setup errors

Scanning never fails, but the work before it can: reading settings and reserving words. Each cause
has a message of its own.
-/

namespace PayoffLexer

inductive DocumentFault
  /-- It is no TOML. -/
  | malformed
  /-- A setting has a value of another type than it takes. -/
  | mistyped (key : String)
deriving DecidableEq

def DocumentFault.message : DocumentFault → String
  | malformed => "not a TOML document"
  | mistyped key => "wrong type of value for '" ++ key ++ "'"

inductive SetupError
  | configuration (detail : String)
  /-- The text is not a word, so no token could ever be it. -/
  | invalidKeyword (text : String)
  | unreadable (cause : String)
  | document (fault : DocumentFault)
deriving DecidableEq

namespace SetupError

def documentLabel : String := "TOML error: "

def message : SetupError → String
  | configuration detail => "Configuration error: " ++ detail
  | invalidKeyword text =>
    "Invalid keyword '" ++ text
      ++ "': keywords must start with a letter or '_' and contain only letters, digits, or '_'"
  | unreadable cause => "IO error: " ++ cause
  | document fault => documentLabel ++ fault.message

def cause? : SetupError → Option String
  | configuration _ | invalidKeyword _ => none
  | unreadable cause => some cause
  | document fault => some fault.message

end SetupError

end PayoffLexer
