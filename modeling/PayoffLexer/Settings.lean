import PayoffLexer.Vocabulary

/-!
# Settings

Settings reserve further words and decide whether numbers may have exponents. They are kept in a
document, which a codec writes and reads; the words of a document are checked when it is read.
-/

namespace PayoffLexer

structure Settings where
  /-- Words to reserve besides those of the language. -/
  keywords : List String
  /-- Do exponents belong to numbers? -/
  exponents : Bool
deriving DecidableEq

namespace Settings

def standard : Settings := ⟨[], true⟩

def keywordsKey : String := "keywords"

def exponentsKey : String := "scientific_notation"

/-- The words of the language and the further ones; the first text that is not a word is an error.
-/
def vocabulary (settings : Settings) : Except SetupError Vocabulary :=
  Vocabulary.standard.reserveAll settings.keywords

def validate (settings : Settings) : Except SetupError Unit :=
  settings.vocabulary.map fun _ => ()

/-- How settings are written as a document and read from one, valid or not. -/
structure Codec where
  write : Settings → Except String String
  read : String → Except DocumentFault Settings

def ofToml (codec : Codec) (text : String) : Except SetupError Settings := do
  let settings ← (codec.read text).mapError .document
  settings.validate
  return settings

/-- The document for settings, valid or not. -/
def toToml (codec : Codec) (settings : Settings) : Except SetupError String :=
  (codec.write settings).mapError fun cause =>
    .configuration ("Failed to serialize configuration: " ++ cause)

inductive Location
  | missing (path : String)
  | directory
  | file (bytes : ByteArray)

def load (codec : Codec) : Settings.Location → Except SetupError Settings
  | .missing path => .error (.configuration ("Configuration file not found: " ++ path))
  | .directory => .error (.unreadable "Is a directory (os error 21)")
  | .file bytes =>
    match String.fromUTF8? bytes with
    | some text => ofToml codec text
    | none => .error (.unreadable "stream did not contain valid UTF-8")

end Settings

end PayoffLexer
