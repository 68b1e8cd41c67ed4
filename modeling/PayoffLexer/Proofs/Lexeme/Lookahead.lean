import Mathlib.Data.List.Find
import PayoffLexer.Proofs.Lexeme.Boundary

/-!
# How far a lexeme looks ahead

Three characters behind a lexeme settle it, whatever stands behind those. As many are needed to
tell a number from one with an exponent: the letter, the sign and the first digit.
-/

namespace PayoffLexer

open Cursor (endMark)

namespace Front

/-- With so many characters of the text behind it, the part at the front stays what it is if more
text is appended. -/
def Settled (margin : Nat) (part : List Char → List Char) : Prop :=
  ∀ seen far, (part seen).length + margin ≤ seen.length → part (seen ++ far) = part seen

theorem Settled.mono {part : List Char → List Char} {margin wider : Nat}
    (h : Settled margin part) (hle : margin ≤ wider) : Settled wider part :=
  fun seen far hroom => h seen far (by omega)

/-- Two parts, one behind the other, are settled by as many characters as each of them. -/
theorem Settled.append {first second : List Char → List Char} {margin : Nat}
    (hfirst : Settled margin first) (hsecond : Settled margin second) :
    Settled margin fun ahead => first ahead ++ second (ahead.drop (first ahead).length) := by
  intro seen far hroom
  dsimp only at hroom ⊢
  rw [List.length_append] at hroom
  have hdrop : (seen ++ far).drop (first seen).length =
      seen.drop (first seen).length ++ far := List.drop_append_of_le_length (by omega)
  have hrest : (second (seen.drop (first seen).length)).length + margin ≤
      (seen.drop (first seen).length).length := by
    rw [List.length_drop]
    omega
  rw [hfirst seen far (by omega), hdrop, hsecond _ far hrest]

theorem takeWhile_settled (p : Char → Bool) : Settled 1 (List.takeWhile p) := by
  intro seen far hroom
  rw [List.takeWhile_append, if_neg (by omega)]

theorem digits_settled : Settled 1 digits := takeWhile_settled Char.isDigit

theorem fraction_settled : Settled 1 fraction := by
  intro seen far hroom
  cases seen with
  | nil => exact absurd hroom (by simp)
  | cons c seen =>
    rw [fraction_cons] at hroom
    rw [List.cons_append, fraction_cons, fraction_cons]
    by_cases hc : c = '.'
    · rw [if_pos hc, List.length_cons, List.length_cons] at hroom
      rw [if_pos hc, if_pos hc, digits_settled seen far (by omega)]
    · rw [if_neg hc, if_neg hc]

theorem sign_length_le (ahead : List Char) : (sign ahead).length ≤ 1 := by
  cases ahead with
  | nil => exact Nat.zero_le 1
  | cons c rest =>
    rw [sign_cons]
    split
    · exact Nat.le_refl 1
    · exact Nat.zero_le 1

theorem sign_append {seen : List Char} (h : seen ≠ []) (far : List Char) :
    sign (seen ++ far) = sign seen := by
  obtain ⟨c, rest, rfl⟩ := List.exists_cons_of_ne_nil h
  rw [List.cons_append, sign_cons, sign_cons]

/-- If no exponent is there, its letter, its sign and the character behind them tell so. -/
theorem exponent_settled : Settled 3 exponent := by
  intro seen far hroom
  cases seen with
  | nil => exact absurd hroom (by simp)
  | cons mark rest =>
    rw [exponent_cons] at hroom
    rw [List.cons_append, exponent_cons, exponent_cons]
    by_cases hmark : mark = 'e' ∨ mark = 'E'
    · have hshort := sign_length_le rest
      have hlong : 2 ≤ rest.length := by
        rw [List.length_cons] at hroom
        omega
      have hsign : sign (rest ++ far) = sign rest :=
        sign_append (List.ne_nil_of_length_pos (by omega)) far
      have hdrop : (rest ++ far).drop (sign rest).length =
          rest.drop (sign rest).length ++ far := List.drop_append_of_le_length (by omega)
      have hpower : (digits (rest.drop (sign rest).length)).length + 1 ≤
          (rest.drop (sign rest).length).length := by
        rw [List.length_drop]
        by_cases hnone : digits (rest.drop (sign rest).length) = []
        · rw [hnone, List.length_nil]
          omega
        · rw [if_pos ⟨hmark, hnone⟩] at hroom
          simp only [List.length_cons, List.length_append] at hroom
          omega
      rw [hsign, hdrop, digits_settled _ far hpower]
    · rw [if_neg (fun h => hmark h.1), if_neg (fun h => hmark h.1)]

theorem number_settled (exponents : Bool) : Settled 3 (number exponents) := by
  have hmantissa : Settled 1 mantissa := digits_settled.append fraction_settled
  have hbody : Settled 3 mantissa := hmantissa.mono (by decide)
  cases exponents with
  | false => exact hbody
  | true => exact hbody.append exponent_settled

theorem head?_drop_append {seen : List Char} {n : Nat} (h : n < seen.length) (far : List Char) :
    ((seen ++ far).drop n).head? = (seen.drop n).head? := by
  rw [List.head?_drop, List.head?_drop, List.getElem?_append_left h]

theorem beginsNumber_settled {seen : List Char} (h : 2 ≤ seen.length) (far : List Char) :
    beginsNumber (seen ++ far) = beginsNumber seen := by
  rw [beginsNumber, beginsNumber, List.head?_eq_getElem?, List.head?_eq_getElem?,
    List.getElem?_append_left (by omega), List.getElem?_append_left (by omega)]

theorem symbols_length_le : ∀ entry ∈ symbols, entry.1.toList.length ≤ 3 := by
  decide

theorem symbol?_settled {seen : List Char} (h : 3 ≤ seen.length) (far : List Char) :
    symbol? (seen ++ far) = symbol? seen := by
  apply List.find?_congr
  intro entry hentry
  have hshort := symbols_length_le entry hentry
  rw [Bool.eq_iff_iff, List.isPrefixOf_iff_prefix, List.isPrefixOf_iff_prefix,
    List.prefix_iff_eq_take, List.prefix_iff_eq_take, List.take_append_of_le_length (by omega)]

/-- The lexeme at the front of a text is the same in a longer text, if three characters at least
stand behind it. -/
theorem lexeme_settled {exponents : Bool} {seen run : List Char} {shape : Shape}
    (hlexeme : lexeme exponents seen = (shape, run)) (hne : run ≠ [])
    (hroom : run.length + 3 ≤ seen.length) (far : List Char) :
    lexeme exponents (seen ++ far) = (shape, run) := by
  have hlong : 3 < seen.length := by
    have htaken := List.length_pos_iff.mpr hne
    omega
  have hfirst : (seen ++ far).head?.getD endMark = seen.head?.getD endMark := by
    rw [List.head?_append_of_ne_nil]
    exact List.ne_nil_of_length_pos (by omega)
  have hbegins : beginsNumber (seen ++ far) = beginsNumber seen :=
    beginsNumber_settled (by omega) far
  apply Reading.lexeme_eq
  cases reading_of_lexeme hlexeme with
  | number hnumber hend =>
    have hsame := number_settled exponents seen far hroom
    rw [← head?_drop_append (by omega) far] at hend
    rw [← hsame] at hend ⊢
    exact .number (hbegins.trans hnumber) hend
  | malformedNumber hnumber hpoint =>
    have hbody : (number exponents seen).length + 3 ≤ seen.length := by
      rw [List.length_append] at hroom
      omega
    have hwhole := (number_settled exponents).append
      ((takeWhile_settled isDigitOrPoint).mono (by decide)) seen far hroom
    dsimp only at hwhole
    rw [← head?_drop_append (by omega) far, ← number_settled exponents seen far hbody] at hpoint
    rw [← hwhole]
    exact .malformedNumber (hbegins.trans hnumber) hpoint
  | word hnumber hword =>
    rw [← takeWhile_settled continuesWord seen far (by omega)]
    exact .word (hbegins.trans hnumber) (hfirst ▸ hword)
  | symbol hnumber hword hsymbol =>
    rw [← symbol?_settled (by omega) far] at hsymbol
    exact .symbol (hbegins.trans hnumber) (hfirst ▸ hword) hsymbol
  | unexpected hnumber hword hsymbol =>
    have htake : (seen ++ far).take 1 = seen.take 1 := List.take_append_of_le_length (by omega)
    rw [← symbol?_settled (by omega) far] at hsymbol
    rw [← hfirst, ← htake]
    exact .unexpected (hbegins.trans hnumber) (hfirst ▸ hword) hsymbol

/-- Two characters do not settle it: the sign of an exponent may be the last that is seen. -/
example : lexeme true ("1".toList ++ "e+".toList ++ "x".toList) = (.number, "1".toList) ∧
    lexeme true ("1".toList ++ "e+".toList ++ "5".toList) = (.number, "1e+5".toList) := by
  decide

theorem lexeme_length_le {exponents : Bool} {seen far run longer : List Char}
    {shape other : Shape} (hlexeme : lexeme exponents seen = (shape, run)) (hne : seen ≠ [])
    (hlonger : lexeme exponents (seen ++ far) = (other, longer)) : run.length ≤ longer.length := by
  have hbegins := (reading_of_lexeme hlexeme).begins
  have hlongerBegins := (reading_of_lexeme hlonger).begins
  rcases List.prefix_or_prefix_of_prefix hlongerBegins (List.prefix_append seen far) with h | h
  · have hsame := lexeme_of_append hlonger hne h
    rw [hlexeme, Prod.mk.injEq] at hsame
    rw [hsame.2]
  · exact hbegins.length_le.trans h.length_le

end Front

end PayoffLexer
