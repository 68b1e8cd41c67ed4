import PayoffLexer.Settings
import PayoffLexer.Toml.Document
import PayoffLexer.Toml.Printer

/-!
# Settings in TOML

A document has an entry for each setting. One that is missing takes its default, and other entries
are ignored.
-/

namespace PayoffLexer.Toml

open Settings (keywordsKey exponentsKey standard)

def textOf? : Value → Option String
  | .string text => some text
  | _ => none

def textsOf? : Value → Option (List String)
  | .array items => items.mapM textOf?
  | _ => none

def flagOf? : Value → Option Bool
  | .boolean value => some value
  | _ => none

def setting {α : Type} (entries : Entries) (key : String) (read : Value → Option α)
    (missing : α) : Except DocumentFault α :=
  match entries.lookup key with
  | none => .ok missing
  | some value =>
    match read value with
    | some setting => .ok setting
    | none => .error (.mistyped key)

def settingsOf (entries : Entries) : Except DocumentFault Settings := do
  let keywords ← setting entries keywordsKey textsOf? standard.keywords
  let exponents ← setting entries exponentsKey flagOf? standard.exponents
  return ⟨keywords, exponents⟩

/-- The document of two lines, with further words that are written already. -/
def layout (words : List String) (exponents : Bool) : String :=
  keywordsKey ++ " = [" ++ ", ".intercalate words ++ "]\n" ++
    exponentsKey ++ " = " ++ toString exponents ++ "\n"

def codec : Settings.Codec where
  write settings := .ok (layout (settings.keywords.map writeString) settings.exponents)
  read text :=
    match read? text with
    | none => .error .malformed
    | some entries => settingsOf entries

end PayoffLexer.Toml
