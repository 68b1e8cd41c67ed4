import PayoffLexer.Lexeme
import PayoffLexer.Proofs.Characters
import PayoffLexer.Proofs.Cursor.Lookahead

/-!
# The lexeme at the front of a text

Every part of a lexeme is a run of characters at the front of the text ahead, and a function of that
text alone. A cursor that skips the part moves over exactly this run.
-/

namespace PayoffLexer

open Cursor (between endMark)

namespace Front

def digits (ahead : List Char) : List Char := ahead.takeWhile Char.isDigit

def fraction : List Char → List Char
  | '.' :: rest => '.' :: digits rest
  | _ => []

theorem fraction_cons (c : Char) (rest : List Char) :
    fraction (c :: rest) = if c = '.' then '.' :: digits rest else [] := by
  by_cases hc : c = '.'
  · subst hc
    rfl
  · rw [if_neg hc]
    simp only [fraction]
    split
    · next h => exact absurd (List.cons.inj h).1 hc
    · rfl

def sign : List Char → List Char
  | '+' :: _ => ['+']
  | '-' :: _ => ['-']
  | _ => []

theorem sign_cons (c : Char) (rest : List Char) :
    sign (c :: rest) = if c = '+' ∨ c = '-' then [c] else [] := by
  by_cases hplus : c = '+'
  · subst hplus
    rfl
  · by_cases hminus : c = '-'
    · subst hminus
      rfl
    · rw [if_neg (by simp [hplus, hminus])]
      simp only [sign]
      split
      · next h => exact absurd (List.cons.inj h).1 hplus
      · next h => exact absurd (List.cons.inj h).1 hminus
      · rfl

/-- The letter, the sign and the digits of a complete exponent at the front. -/
def exponent : List Char → List Char
  | [] => []
  | mark :: rest =>
    let lead := sign rest
    let power := digits (rest.drop lead.length)
    if (mark = 'e' ∨ mark = 'E') ∧ power ≠ [] then mark :: (lead ++ power) else []

theorem exponent_cons (mark : Char) (rest : List Char) :
    exponent (mark :: rest) =
      if (mark = 'e' ∨ mark = 'E') ∧ digits (rest.drop (sign rest).length) ≠ [] then
        mark :: (sign rest ++ digits (rest.drop (sign rest).length))
      else [] := rfl

def mantissa (ahead : List Char) : List Char :=
  let whole := digits ahead
  whole ++ fraction (ahead.drop whole.length)

def number (exponents : Bool) (ahead : List Char) : List Char :=
  let body := mantissa ahead
  if exponents then body ++ exponent (ahead.drop body.length) else body

def isDigitOrPoint (c : Char) : Bool := c.isDigit || c == '.'

def numberLexeme (exponents : Bool) (ahead : List Char) : Shape × List Char :=
  let body := number exponents ahead
  let rest := ahead.drop body.length
  if rest.head? = some '.' then (.malformedNumber, body ++ rest.takeWhile isDigitOrPoint)
  else (.number, body)

def symbol? (ahead : List Char) : Option (String × Kind) :=
  symbols.find? fun (text, _) => text.toList.isPrefixOf ahead

def beginsNumber (ahead : List Char) : Bool :=
  startsNumber (ahead.head?.getD endMark) (ahead[1]?.getD endMark)

def lexeme (exponents : Bool) (ahead : List Char) : Shape × List Char :=
  if beginsNumber ahead then numberLexeme exponents ahead
  else if startsWord (ahead.head?.getD endMark) then (.word, ahead.takeWhile continuesWord)
  else
    match symbol? ahead with
    | some (text, kind) => (.symbol kind, text.toList)
    | none => (.unexpected (ahead.head?.getD endMark), ahead.take 1)

/-- What is known of the lexeme at the front of a text by its shape. -/
inductive Reading (exponents : Bool) (ahead : List Char) : Shape → List Char → Prop
  | number (hnumber : beginsNumber ahead = true)
    (hend : (ahead.drop (number exponents ahead).length).head? ≠ some '.') :
    Reading exponents ahead .number (number exponents ahead)
  | malformedNumber (hnumber : beginsNumber ahead = true)
    (hpoint : (ahead.drop (number exponents ahead).length).head? = some '.') :
    Reading exponents ahead .malformedNumber (number exponents ahead ++
      (ahead.drop (number exponents ahead).length).takeWhile isDigitOrPoint)
  | word (hnumber : beginsNumber ahead = false)
    (hword : startsWord (ahead.head?.getD endMark) = true) :
    Reading exponents ahead .word (ahead.takeWhile continuesWord)
  | symbol {text : String} {kind : Kind} (hnumber : beginsNumber ahead = false)
    (hword : startsWord (ahead.head?.getD endMark) = false)
    (hsymbol : symbol? ahead = some (text, kind)) :
    Reading exponents ahead (.symbol kind) text.toList
  | unexpected (hnumber : beginsNumber ahead = false)
    (hword : startsWord (ahead.head?.getD endMark) = false) (hsymbol : symbol? ahead = none) :
    Reading exponents ahead (.unexpected (ahead.head?.getD endMark)) (ahead.take 1)

theorem lexeme_reading (exponents : Bool) (ahead : List Char) :
    Reading exponents ahead (lexeme exponents ahead).1 (lexeme exponents ahead).2 := by
  rw [lexeme]
  by_cases hnumber : beginsNumber ahead = true
  · rw [if_pos hnumber, numberLexeme]
    by_cases hpoint : (ahead.drop (number exponents ahead).length).head? = some '.'
    · rw [if_pos hpoint]
      exact .malformedNumber hnumber hpoint
    · rw [if_neg hpoint]
      exact .number hnumber hpoint
  · rw [if_neg hnumber]
    rw [Bool.not_eq_true] at hnumber
    by_cases hword : startsWord (ahead.head?.getD endMark) = true
    · rw [if_pos hword]
      exact .word hnumber hword
    · rw [if_neg hword]
      rw [Bool.not_eq_true] at hword
      cases hsymbol : symbol? ahead with
      | some entry => exact .symbol hnumber hword hsymbol
      | none => exact .unexpected hnumber hword hsymbol

theorem reading_of_lexeme {exponents : Bool} {ahead run : List Char} {shape : Shape}
    (h : lexeme exponents ahead = (shape, run)) : Reading exponents ahead shape run := by
  have hreading := lexeme_reading exponents ahead
  rwa [h] at hreading

end Front

namespace Cursor

/-- The cursor between two lists after it has moved past a run at the front of the second. -/
def past (passed ahead run : List Char) : Cursor :=
  between (passed ++ run) (ahead.drop run.length)

variable (passed ahead : List Char)

@[simp] theorem past_nil : past passed ahead [] = between passed ahead := by simp [past]

theorem past_past (run others : List Char) :
    past (passed ++ run) (ahead.drop run.length) others = past passed ahead (run ++ others) := by
  simp [past, List.drop_drop]

theorem advanceWhile_between_eq_past (p : Char → Bool) :
    (between passed ahead).advanceWhile p = past passed ahead (ahead.takeWhile p) := by
  have hdrop : (ahead.takeWhile p ++ ahead.dropWhile p).drop (ahead.takeWhile p).length =
      ahead.dropWhile p := List.drop_left
  rw [List.takeWhile_append_dropWhile] at hdrop
  rw [advanceWhile_between, past, hdrop]

theorem skipDigits_between :
    (between passed ahead).skipDigits = past passed ahead (Front.digits ahead) :=
  advanceWhile_between_eq_past passed ahead Char.isDigit

theorem skipFraction_between :
    (between passed ahead).skipFraction = past passed ahead (Front.fraction ahead) := by
  rw [skipFraction]
  cases ahead with
  | nil => simp [accept?_between_nil, Front.fraction]
  | cons c rest =>
    rw [accept?_between_cons, Front.fraction_cons]
    by_cases hc : c = '.'
    · subst hc
      simp only [if_true, skipDigits_between]
      exact past_past passed ('.' :: rest) ['.'] (Front.digits rest)
    · rw [if_neg hc, if_neg hc, past_nil]

theorem exponentLead_between (mark : Char) (rest : List Char) :
    (between passed (mark :: rest)).exponentLead = (Front.sign rest).length + 1 := by
  rw [exponentLead, peek_between, List.getElem?_cons_succ, ← List.head?_eq_getElem?]
  cases rest with
  | nil => decide
  | cons c tail =>
    rw [List.head?_cons, Option.getD_some, Front.sign_cons]
    split <;> rfl

theorem skipExponent_between :
    (between passed ahead).skipExponent = past passed ahead (Front.exponent ahead) := by
  rw [skipExponent, current_between]
  cases ahead with
  | nil => simp [Front.exponent, endMark]
  | cons mark rest =>
    have hlead : Front.sign rest <+: rest := by
      simp only [Front.sign]
      split <;> simp
    have hpeek :
        ((between passed (mark :: rest)).peek ((Front.sign rest).length + 1)).isDigit = true ↔
          Front.digits (rest.drop (Front.sign rest).length) ≠ [] := by
      rw [peek_between, List.getElem?_cons_succ, ← Nat.add_zero (Front.sign rest).length,
        ← List.getElem?_drop, Nat.add_zero, ← List.head?_eq_getElem?]
      rw [Front.digits]
      cases rest.drop (Front.sign rest).length with
      | nil => decide
      | cons d tail =>
        by_cases hd : d.isDigit = true
        · simp [hd]
        · simp [hd]
    rw [exponentLead_between, List.head?_cons, Option.getD_some, Front.exponent_cons]
    by_cases hmark : mark = 'e' ∨ mark = 'E'
    · -- The cursor looks for one digit behind the sign, the text for a run that is not empty.
      rw [if_pos hmark]
      by_cases hpower : Front.digits (rest.drop (Front.sign rest).length) ≠ []
      · have htake : (mark :: rest).take ((Front.sign rest).length + 1) =
            mark :: Front.sign rest := by
          rw [List.take_succ_cons, ← List.prefix_iff_eq_take.mp hlead]
        rw [if_pos (hpeek.mpr hpower), if_pos ⟨hmark, hpower⟩, advanceBy_between, htake,
          skipDigits_between, List.drop_succ_cons]
        exact past_past passed (mark :: rest) (mark :: Front.sign rest) _
      · rw [if_neg (fun h => hpower (hpeek.mp h)), if_neg (fun h => hpower h.2), past_nil]
    · rw [if_neg hmark, if_neg (fun h => hmark h.1), past_nil]

theorem skipNumber_between (exponents : Bool) :
    (between passed ahead).skipNumber exponents =
      past passed ahead (Front.number exponents ahead) := by
  have hmantissa : (between passed ahead).skipDigits.skipFraction =
      past passed ahead (Front.mantissa ahead) := by
    rw [skipDigits_between, past, skipFraction_between, past_past]
    rfl
  rw [skipNumber, Front.number, hmantissa]
  cases exponents with
  | false => rfl
  | true =>
    simp only [if_true]
    rw [past, skipExponent_between, past_past]

theorem numberLexeme_between (exponents : Bool) :
    (between passed ahead).numberLexeme exponents =
      ((Front.numberLexeme exponents ahead).1,
        past passed ahead (Front.numberLexeme exponents ahead).2) := by
  have hpoint (rest : List Char) :
      (rest.head?.getD endMark = '.' ∧ rest.isEmpty = false) ↔ rest.head? = some '.' := by
    cases rest with
    | nil => decide
    | cons c rest => simp
  rw [numberLexeme, Front.numberLexeme, skipNumber_between]
  simp only [past, current_between, atEnd_between]
  by_cases h : (ahead.drop (Front.number exponents ahead).length).head? = some '.'
  · rw [if_pos ((hpoint _).mpr h), if_pos h, advanceWhile_between_eq_past, past_past]
    rfl
  · rw [if_neg (fun hp => h ((hpoint _).mp hp)), if_neg h]

theorem symbols_ascii : ∀ entry ∈ symbols, ∀ c ∈ entry.1.toList, c.toNat < 128 := by
  have hall : (symbols.all fun entry => entry.1.toList.all fun c => c.toNat < 128) = true := by
    decide
  simpa only [List.all_eq_true, decide_eq_true_eq] using hall

/-- As many characters as a symbol has bytes are the characters of the symbol. -/
theorem advanceBy_symbol {text : String} {kind : Kind} (hmem : (text, kind) ∈ symbols)
    (hbegins : text.toList <+: ahead) :
    (between passed ahead).advanceBy text.utf8ByteSize = past passed ahead text.toList := by
  have hbytes : text.utf8ByteSize = text.toList.length := by
    rw [← Text.utf8Len_toList, Text.utf8Len_of_ascii (symbols_ascii _ hmem)]
  rw [hbytes, advanceBy_between, ← List.prefix_iff_eq_take.mp hbegins, past]

/-- The symbol that a cursor finds is the first that the text begins with. -/
theorem symbol?_between :
    (between passed ahead).symbol? =
      (Front.symbol? ahead).map fun (text, kind) => (kind, past passed ahead text.toList) := by
  have hstarts (text : String) :
      (String.ofList ahead).startsWith text = text.toList.isPrefixOf ahead := by
    rw [Bool.eq_iff_iff, String.startsWith_string_iff, List.isPrefixOf_iff_prefix,
      String.toList_ofList]
  rw [symbol?, remaining?_between, Option.bind_some, Front.symbol?]
  simp only [hstarts]
  cases hfound : symbols.find? fun (text, _) => text.toList.isPrefixOf ahead with
  | none => rfl
  | some entry =>
    have hfits := List.find?_some hfound
    have hbegins := List.isPrefixOf_iff_prefix.mp hfits
    simp only [Option.map_some,
      advanceBy_symbol passed ahead (List.mem_of_find?_eq_some hfound) hbegins]

theorem lexeme_between (exponents : Bool) :
    (between passed ahead).lexeme exponents =
      ((Front.lexeme exponents ahead).1, past passed ahead (Front.lexeme exponents ahead).2) := by
  rw [lexeme, Front.lexeme]
  rw [current_between, peek_between, numberLexeme_between, advanceWhile_between_eq_past,
    symbol?_between]
  change (if Front.beginsNumber ahead = true then _ else _) = _
  split
  · rfl
  · split
    · rfl
    · cases Front.symbol? ahead with
      | some entry => rfl
      | none =>
        cases ahead with
        | nil => simp
        | cons c rest => simp [past]

end Cursor

end PayoffLexer
