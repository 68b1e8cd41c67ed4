import PayoffLexer.Toml.Blank

/-!
# Quoted text in TOML

A basic string stands between double quotes and may hold escapes, a literal one stands between
single quotes and holds none. Three quotes on either side let a string of either kind run over
lines.
-/

namespace PayoffLexer.Toml

/-- The character that the escape at the front stands for, read after its backslash. -/
def readEscape : Reader Char
  | [] => none
  | letter :: rest =>
    if letter = 'u' then
      if rest.length < 4 then none
      else (charOfHex? 0 (rest.take 4)).map fun c => (c, rest.drop 4)
    else if letter = 'U' then
      if rest.length < 8 then none
      else (charOfHex? 0 (rest.take 8)).map fun c => (c, rest.drop 8)
    else (unescape? letter).map fun c => (c, rest)

theorem length_of_readEscape {text rest : List Char} {c : Char}
    (h : readEscape text = some (c, rest)) : rest.length < text.length := by
  cases text with
  | nil => simp [readEscape] at h
  | cons letter others =>
    simp only [readEscape] at h
    split at h
    · split at h
      · simp at h
      · obtain ⟨d, -, hd⟩ := Option.map_eq_some_iff.1 h
        cases hd
        simp only [List.length_drop, List.length_cons]
        omega
    · split at h
      · split at h
        · simp at h
        · obtain ⟨d, -, hd⟩ := Option.map_eq_some_iff.1 h
          cases hd
          simp only [List.length_drop, List.length_cons]
          omega
      · obtain ⟨d, -, hd⟩ := Option.map_eq_some_iff.1 h
        cases hd
        simp

def consChar (c : Char) (read : Option (List Char × List Char)) :
    Option (List Char × List Char) :=
  read.map fun (text, rest) => (c :: text, rest)

def readBasic (text : List Char) : Option (List Char × List Char) :=
  match text with
  | [] => none
  | c :: rest =>
    if c = '"' then some ([], rest)
    else if c = '\\' then
      match _h : readEscape rest with
      | none => none
      | some (escaped, others) => consChar escaped (readBasic others)
    else if isPlain c then consChar c (readBasic rest)
    else none
termination_by text.length
decreasing_by
  · exact Nat.lt_succ_of_lt (length_of_readEscape _h)
  · exact Nat.lt_succ_self _

def readLiteral : Reader (List Char)
  | [] => none
  | c :: rest =>
    if c = '\'' then some ([], rest)
    else if isPlain c then consChar c (readLiteral rest)
    else none

/-- Three quotes end a string over lines; up to two more before them belong to its text. The quote
at the front has been taken off. -/
def closeQuotes? (quote : Char) : List Char → Option (List Char × List Char)
  | a :: b :: rest =>
    if a = quote ∧ b = quote then
      match rest with
      | c :: d :: rest' =>
        if c = quote then
          if d = quote then some ([quote, quote], rest') else some ([quote], d :: rest')
        else some ([], rest)
      | [c] => if c = quote then some ([quote], []) else some ([], rest)
      | [] => some ([], [])
    else none
  | _ => none

def endsLine (text : List Char) : Bool := (newline? (skipBlank text)).isSome

/-- The text of a basic string over lines, read after its opening quotes. A backslash at the end
of a line is left out together with all white space and line breaks after it, which `skipping`
tells. -/
def readBasicLines (skipping : Bool) (text : List Char) : Option (List Char × List Char) :=
  match text with
  | [] => none
  | c :: rest =>
    if c = '\n' then
      if skipping then readBasicLines true rest else consChar '\n' (readBasicLines false rest)
    else if c = '\r' then
      if rest.head? = some '\n' then readBasicLines skipping rest else none
    else if skipping && isBlank c then readBasicLines true rest
    else if c = '"' then
      match closeQuotes? '"' rest with
      | some close => some close
      | none => consChar '"' (readBasicLines false rest)
    else if c = '\\' then
      if endsLine rest then readBasicLines true rest
      else
        match _h : readEscape rest with
        | none => none
        | some (escaped, others) => consChar escaped (readBasicLines false others)
    else if isPlain c then consChar c (readBasicLines false rest)
    else none
termination_by text.length
decreasing_by
  all_goals simp only [List.length_cons]
  all_goals first
    | omega
    | exact Nat.lt_succ_of_lt (length_of_readEscape _h)

def readLiteralLines : Reader (List Char)
  | [] => none
  | c :: rest =>
    if c = '\'' then
      match closeQuotes? '\'' rest with
      | some close => some close
      | none => consChar '\'' (readLiteralLines rest)
    else if c = '\n' then consChar '\n' (readLiteralLines rest)
    else if c = '\r' then
      if rest.head? = some '\n' then readLiteralLines rest else none
    else if isPlain c then consChar c (readLiteralLines rest)
    else none

/-- What follows the line break that may stand after opening quotes and belongs to no text. -/
def skipFirstBreak (text : List Char) : List Char := (newline? text).getD text

def readString : Reader (List Char)
  | '"' :: '"' :: '"' :: rest => readBasicLines false (skipFirstBreak rest)
  | '"' :: rest => readBasic rest
  | '\'' :: '\'' :: '\'' :: rest => readLiteralLines (skipFirstBreak rest)
  | '\'' :: rest => readLiteral rest
  | _ => none

end PayoffLexer.Toml
