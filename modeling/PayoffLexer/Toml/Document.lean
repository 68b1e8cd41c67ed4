import PayoffLexer.Toml.Moment
import PayoffLexer.Toml.Number

/-!
# Reading TOML

A document is a sequence of lines. Each holds at most one statement: a key with its value, or the
header of the table to which the statements after it belong.
-/

namespace PayoffLexer.Toml

/-- Arrays and inline tables nest to this depth, and keys have at most so many parts. -/
def maxDepth : Nat := 79

def readKeyPart : Reader String
  | '"' :: rest => (readBasic rest).map fun (text, rest) => (String.ofList text, rest)
  | '\'' :: rest => (readLiteral rest).map fun (text, rest) => (String.ofList text, rest)
  | text =>
    match text.span isBareKeyChar with
    | ([], _) => none
    | (name, rest) => some (String.ofList name, rest)

/-- A key of at most the given number of parts with points between them: its names before the
last, the last, and what follows the key and the white space after it. -/
def readKey : Nat → Reader (List String × String)
  | 0, _ => none
  | parts + 1, text =>
    (readKeyPart (skipBlank text)).bind fun (name, rest) =>
      match skipBlank rest with
      | '.' :: rest =>
        (readKey parts rest).map fun ((names, last), rest) => ((name :: names, last), rest)
      | rest => some (([], name), rest)

def readPair (readValue : Reader Value) (text : List Char) :
    Option ((List String × String × Value) × List Char) :=
  (readKey maxDepth text).bind fun ((names, key), rest) =>
    match rest with
    | '=' :: rest =>
      (readValue (skipBlank rest)).map fun (value, rest) => ((names, key, value), rest)
    | _ => none

/-- The items of an array up to its closing bracket. Each takes at least one character, so `fuel`
may be the length of the text. -/
def readItems (readValue : Reader Value) : Nat → Reader (List Value)
  | 0, _ => none
  | fuel + 1, text =>
    match skipFiller false text with
    | ']' :: rest => some ([], rest)
    | text =>
      (readValue text).bind fun (value, rest) =>
        match skipFiller false rest with
        | ']' :: rest => some ([value], rest)
        | ',' :: rest =>
          (readItems readValue fuel rest).map fun (values, rest) => (value :: values, rest)
        | _ => none

/-- The pairs of an inline table up to its closing brace, added to those read before. Each takes
at least one character, so `fuel` may be the length of the text. -/
def readPairs (readValue : Reader Value) : Nat → Entries → Reader Entries
  | 0, _, _ => none
  | fuel + 1, entries, text =>
    (readPair readValue text).bind fun ((names, key, value), rest) =>
      (entries.addDotted? names key value).bind fun entries =>
        match skipBlank rest with
        | '\x7d' :: rest => some (entries, rest)
        | ',' :: rest => readPairs readValue fuel entries rest
        | _ => none

def readInlineTable (readValue : Reader Value) (text : List Char) : Option (Entries × List Char) :=
  match skipBlank text with
  | '\x7d' :: rest => some ([], rest)
  | rest => readPairs readValue rest.length [] rest

def readBoolean : Reader Value
  | 't' :: 'r' :: 'u' :: 'e' :: rest => some (.boolean true, rest)
  | 'f' :: 'a' :: 'l' :: 's' :: 'e' :: rest => some (.boolean false, rest)
  | _ => none

def readScalar (text : List Char) : Option (Value × List Char) :=
  match text.head? with
  | some '"' | some '\'' =>
    (readString text).map fun (text, rest) => (.string (String.ofList text), rest)
  | some 't' | some 'f' => readBoolean text
  | _ =>
    match readMoment text with
    | some (moment, rest) => some (.moment moment, rest)
    | none => readNumber text

/-- A value in which arrays and inline tables nest at most to the given depth. -/
def readValue : Nat → Reader Value
  | depth, '[' :: rest =>
    match depth with
    | 0 => none
    | depth + 1 =>
      (readItems (readValue depth) rest.length rest).map fun (items, rest) => (.array items, rest)
  | depth, '\x7b' :: rest =>
    match depth with
    | 0 => none
    | depth + 1 =>
      (readInlineTable (readValue depth) rest).map fun (entries, rest) =>
        (.table .inline entries, rest)
  | _, text => readScalar text

/-- A document in the making: all its entries, and the path of the header that was read last. -/
structure Draft where
  entries : Entries
  path : List String

def Draft.addPair? (draft : Draft) (names : List String) (key : String) (value : Value) :
    Option Draft :=
  (draft.entries.alter? (·.addDotted? names key value) draft.path).map fun entries =>
    { draft with entries }

def Draft.addHeader? (draft : Draft) (repeats : Bool) (names : List String) (key : String) :
    Option Draft :=
  let openLast := if repeats then Entries.openElement? key else Entries.openTable? key
  (draft.entries.alter? openLast names).map fun entries => ⟨entries, names ++ [key]⟩

def closeHeader? (repeats : Bool) (text : List Char) : Option (List Char) :=
  match repeats, text with
  | false, ']' :: rest => some rest
  | true, ']' :: ']' :: rest => some rest
  | _, _ => none

def readHeader (repeats : Bool) (draft : Draft) (text : List Char) : Option (Draft × List Char) :=
  (readKey maxDepth text).bind fun ((names, key), rest) =>
    (closeHeader? repeats rest).bind fun rest =>
      (draft.addHeader? repeats names key).map fun draft => (draft, rest)

def readAssignment (draft : Draft) (text : List Char) : Option (Draft × List Char) :=
  (readPair (readValue maxDepth) text).bind fun ((names, key, value), rest) =>
    (draft.addPair? names key value).map fun draft => (draft, rest)

def readStatement (draft : Draft) (text : List Char) : Option (Draft × List Char) :=
  match text with
  | '[' :: '[' :: rest => readHeader true draft rest
  | '[' :: rest => readHeader false draft rest
  | '#' :: _ | '\n' :: _ | '\r' :: _ | [] => some (draft, text)
  | _ => readAssignment draft text

/-- The lines of a document. Each takes at least one character, so `fuel` may be the length of the
text. -/
def readLines : Nat → Draft → List Char → Option Draft
  | _, draft, [] => some draft
  | 0, _, _ :: _ => none
  | fuel + 1, draft, text =>
    (readStatement draft (skipBlank text)).bind fun (draft, rest) =>
      (endLine? rest).bind fun rest => readLines fuel draft rest

def skipMark : List Char → List Char
  | '\ufeff' :: rest => rest
  | text => text

def read? (text : String) : Option Entries :=
  let text := skipMark text.toList
  (readLines text.length ⟨[], []⟩ text).map (·.entries)

end PayoffLexer.Toml
