import Mathlib.Data.List.Infix
import PayoffLexer.Toml.Character
import PayoffLexer.Toml.Value

/-!
# A part of TOML without a reader

Which texts are documents of TOML 1.0 that hold only strings, truth values and arrays of strings
under bare keys, and which entries they have. Comments and blank lines between statements, line
breaks with a carriage return and the backslash that joins lines are left out.
-/

namespace PayoffLexer.Toml

inductive Escape (c : Char) : List Char → Prop
  | letter {letter : Char} (h : unescape? letter = some c) : Escape c [letter]
  | four {digits : List Char} (hlength : digits.length = 4) (h : charOfHex? 0 digits = some c) :
    Escape c ('u' :: digits)
  | eight {digits : List Char} (hlength : digits.length = 8) (h : charOfHex? 0 digits = some c) :
    Escape c ('U' :: digits)

inductive Shown (c : Char) : List Char → Prop
  | plain (hquote : c ≠ '"') (hslash : c ≠ '\\') (hplain : isPlain c = true) : Shown c [c]
  | escape {written : List Char} (h : Escape c written) : Shown c ('\\' :: written)

inductive Basic : List Char → List Char → Prop
  | nil : Basic [] []
  | cons {c : Char} {written text body : List Char} (hc : Shown c written)
    (hbody : Basic text body) : Basic (c :: text) (written ++ body)

/-- A text between three quotes, after so many quotes in a row. There are never three. -/
inductive BasicLines : Nat → List Char → List Char → Prop
  | nil {quotes : Nat} : BasicLines quotes [] []
  | shown {quotes : Nat} {c : Char} {written text body : List Char} (hc : Shown c written)
    (hbody : BasicLines 0 text body) : BasicLines quotes (c :: text) (written ++ body)
  | newline {quotes : Nat} {text body : List Char} (hbody : BasicLines 0 text body) :
    BasicLines quotes ('\n' :: text) ('\n' :: body)
  | quote {quotes : Nat} {text body : List Char} (hquotes : quotes < 2)
    (hbody : BasicLines (quotes + 1) text body) : BasicLines quotes ('"' :: text) ('"' :: body)

/-- A line break right after opening quotes is no part of the text. -/
inductive Opened : List Char → List Char → Prop
  | newline (body : List Char) : Opened body ('\n' :: body)
  | plain {body : List Char} (h : body.head? ≠ some '\n') : Opened body body

/-- The strings that stand for a text. -/
inductive Quoted : List Char → List Char → Prop
  | basic {text body : List Char} (hbody : Basic text body) : Quoted text ('"' :: (body ++ ['"']))
  | literal {text : List Char} (htext : ∀ c ∈ text, c ≠ '\'' ∧ isPlain c = true) :
    Quoted text ('\'' :: (text ++ ['\'']))
  | basicLines {text body opened : List Char} (hbody : BasicLines 0 text body)
    (hopened : Opened body opened) :
    Quoted text ('"' :: '"' :: '"' :: (opened ++ ['"', '"', '"']))
  | literalLines {text opened : List Char} (htext : ∀ c ∈ text, c = '\n' ∨ isPlain c = true)
    (hquotes : ¬ ['\'', '\'', '\''] <:+: text) (hopened : Opened text opened) :
    Quoted text ('\'' :: '\'' :: '\'' :: (opened ++ ['\'', '\'', '\'']))

/-- White space and line breaks may stand between the items of an array. -/
def IsFiller (text : List Char) : Prop := ∀ c ∈ text, isBlank c = true ∨ c = '\n'

/-- The items of an array of strings up to its closing bracket; a comma may stand behind the last.
-/
inductive Items : List String → List Char → Prop
  | nil {filler : List Char} (hfiller : IsFiller filler) : Items [] filler
  | last {item : String} {before written after : List Char} (hbefore : IsFiller before)
    (hitem : Quoted item.toList written) (hafter : IsFiller after) :
    Items [item] (before ++ (written ++ after))
  | cons {item : String} {items : List String} {before written after others : List Char}
    (hbefore : IsFiller before) (hitem : Quoted item.toList written) (hafter : IsFiller after)
    (hitems : Items items others) :
    Items (item :: items) (before ++ (written ++ (after ++ ',' :: others)))

inductive Denotes : Value → List Char → Prop
  | string {text : String} {written : List Char} (h : Quoted text.toList written) :
    Denotes (.string text) written
  | boolean (value : Bool) : Denotes (.boolean value) (toString value).toList
  | array {items : List String} {written : List Char} (h : Items items written) :
    Denotes (.array (items.map .string)) ('[' :: (written ++ [']']))

def IsBare (key : String) : Prop := key.toList ≠ [] ∧ ∀ c ∈ key.toList, isBareKeyChar c = true

instance (key : String) : Decidable (IsBare key) :=
  decidable_of_iff (key.toList ≠ [] ∧ key.toList.all isBareKeyChar = true)
    (and_congr_right' List.all_eq_true)

def AllBlank (text : List Char) : Prop := ∀ c ∈ text, isBlank c = true

/-- A line without its line break. -/
inductive Entry (key : String) (value : Value) : List Char → Prop
  | intro {indent before after written trail : List Char} (hindent : AllBlank indent)
    (hkey : IsBare key) (hbefore : AllBlank before) (hafter : AllBlank after)
    (hvalue : Denotes value written) (htrail : AllBlank trail) :
    Entry key value (indent ++ (key.toList ++ (before ++ '=' :: (after ++ (written ++ trail)))))

inductive Lines : Entries → List Char → Prop
  | nil : Lines [] []
  | cons {key : String} {value : Value} {entries : Entries} {line others : List Char}
    (hline : Entry key value line) (hothers : Lines entries others) :
    Lines ((key, value) :: entries) (line ++ '\n' :: others)

/-- The text is a document with these entries. -/
def Document (entries : Entries) (text : String) : Prop :=
  Lines entries text.toList ∧ (entries.map Prod.fst).Nodup

end PayoffLexer.Toml
