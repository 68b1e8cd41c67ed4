import PayoffLexer.Proofs.Lexeme.Numbers
import PayoffLexer.Proofs.Munch

/-!
# Numbers are scanned exactly

Where a number begins, the next token is the longest one that the grammar allows. Only if a point
follows it directly the token is invalid, and then it takes all further digits and points.
-/

namespace PayoffLexer

/-- What the next token of a session is, if the text ahead is a number, as long as the grammar
allows, and a rest. -/
structure ScansNumber (policy : Policy) (session : Session) (literal rest : List Char) : Prop where
  number : rest.head? ≠ some '.' → ∃ token, session.next.2 = .ok token ∧
    token.kind = .number ∧ token.text = String.ofList literal ∧
    session.next.1.lexer.cursor.remaining? = some (String.ofList rest)
  malformed : rest.head? = some '.' → ∃ run others token, rest = run ++ others ∧
    LongestFront (∀ c ∈ ·, c.isDigit = true ∨ c = '.') rest run ∧
    token.kind = .invalid ∧ token.text = String.ofList (literal ++ run) ∧
    session.next.2 = policy.answer ⟨token, some (.malformedNumber token.text)⟩ ∧
    session.next.1.lexer.cursor.remaining? = some (String.ofList others)
  refused : ∀ body mark tail, Mantissa body → mark = 'e' ∨ mark = 'E' →
    literal ++ rest = body ++ mark :: tail →
    (∀ power, Exponent power → ¬ power <+: mark :: tail) → literal = body ∧ rest = mark :: tail

namespace Front

variable {exponents : Bool} {literal rest : List Char}

/-- The lexeme of a text that begins with a number is decided by what follows the longest one. -/
theorem lexeme_of_longest (h : NumberAhead (literal ++ rest))
    (hlongest : LongestFront (Literal exponents) (literal ++ rest) literal) :
    lexeme exponents (literal ++ rest) =
      if rest.head? = some '.' then
        (.malformedNumber, literal ++ rest.takeWhile isDigitOrPoint)
      else (.number, literal) := by
  have hnumber := (beginsNumber_iff _).mpr h
  have hsame := (number_longest exponents h).unique hlongest
  rw [lexeme, if_pos hnumber, numberLexeme, hsame, List.drop_left]

theorem digitsAndPoints_longest (ahead : List Char) :
    LongestFront (∀ c ∈ ·, c.isDigit = true ∨ c = '.') ahead
      (ahead.takeWhile isDigitOrPoint) := by
  have hlongest := takeWhile_longest isDigitOrPoint ahead
  simpa only [isDigitOrPoint, Bool.or_eq_true, beq_iff_eq] using hlongest

end Front

theorem symbols_kind_ne_number : ∀ entry ∈ symbols, entry.2 ≠ .number := by
  decide

theorem Literal.of_plain {exponents : Bool} {cs : List Char} (h : Literal exponents cs) :
    Literal true cs := by
  cases h with
  | plain hbody => exact .plain hbody
  | scaled _ hbody hpower => exact .scaled rfl hbody hpower

theorem Scan.IsLexeme.literal {vocabulary : Vocabulary} {exponents : Bool} {cs : List Char}
    {scan : Scan} (h : scan.IsLexeme vocabulary exponents cs) (hkinds : vocabulary.HasWordKinds)
    (hkind : scan.token.kind = .number) : Literal exponents scan.token.text.toList := by
  cases h with
  | @intro before run rest shape hsource hsolid hrun hlexeme =>
    have hreading := Front.reading_of_lexeme hlexeme
    have hword := hkinds.kindOf_word (String.ofList run)
    change Lexer.kindOf vocabulary (String.ofList run) shape = .number at hkind
    rw [taken_text, String.toList_ofList]
    clear hlexeme
    generalize run ++ rest = ahead at hreading
    cases hreading with
    | number hnumber => exact Front.number_spec exponents ((Front.beginsNumber_iff _).mp hnumber)
    | word =>
      rw [hkind] at hword
      cases hword
    | symbol _ _ hsymbol =>
      exact absurd hkind (symbols_kind_ne_number _ (Front.symbol?_some hsymbol).1)
    | malformedNumber => cases hkind
    | unexpected => cases hkind

namespace Session

variable {source : String} {policy : Policy} {session : Session}

section facing
variable {before run others literal rest : List Char} {shape : Shape}
  (h : Facing policy session before run others shape)
  (hahead : run ++ others = literal ++ rest)
  (hnumber : NumberAhead (literal ++ rest))
  (hlongest : LongestFront (Literal session.lexer.exponents) (literal ++ rest) literal)
include h hahead hnumber hlongest

theorem Facing.scansNumber_end (hend : rest.head? ≠ some '.') :
    shape = .number ∧ run = literal ∧ others = rest := by
  have hlexeme := h.lexeme
  rw [hahead, Front.lexeme_of_longest hnumber hlongest, if_neg hend, Prod.mk.injEq] at hlexeme
  obtain ⟨rfl, rfl⟩ := hlexeme
  exact ⟨rfl, rfl, List.append_cancel_left hahead⟩

theorem Facing.scansNumber_point (hpoint : rest.head? = some '.') :
    shape = .malformedNumber ∧ run = literal ++ rest.takeWhile Front.isDigitOrPoint ∧
      rest = rest.takeWhile Front.isDigitOrPoint ++ others := by
  have hlexeme := h.lexeme
  rw [hahead, Front.lexeme_of_longest hnumber hlongest, if_pos hpoint, Prod.mk.injEq] at hlexeme
  obtain ⟨rfl, rfl⟩ := hlexeme
  rw [List.append_assoc] at hahead
  exact ⟨rfl, rfl, (List.append_cancel_left hahead).symm⟩

theorem Facing.scansNumber : ScansNumber policy session literal rest := by
  constructor
  · intro hend
    obtain ⟨rfl, rfl, rfl⟩ := h.scansNumber_end hahead hnumber hlongest hend
    refine ⟨_, h.answer.trans (policy.answer_faultless rfl), rfl, rfl, ?_⟩
    rw [h.lexer]
    exact Cursor.remaining?_between _ _
  · intro hpoint
    obtain ⟨rfl, hrun, hrest⟩ := h.scansNumber_point hahead hnumber hlongest hpoint
    refine ⟨_, others, _, hrest, Front.digitsAndPoints_longest rest, rfl,
      congrArg String.ofList hrun, h.answer, ?_⟩
    rw [h.lexer]
    exact Cursor.remaining?_between _ _
  · intro body mark tail hbody hmark htext hnone
    have hsame := (Front.number_longest _ hnumber).unique hlongest
    rw [htext, hbody.number_refused _ hmark hnone] at hsame
    subst hsame
    exact ⟨rfl, List.append_cancel_left htext⟩

end facing

/-- Where a number begins, the next token is the longest number of the grammar, or invalid if a
point follows that. -/
theorem next_number (h : Reachable source policy session) {text : String}
    (htext : session.lexer.approach.cursor.remaining? = some text)
    (hnumber : NumberAhead text.toList) :
    ∃ literal rest, text.toList = literal ++ rest ∧
      LongestFront (Literal session.lexer.exponents) text.toList literal ∧
      ScansNumber policy session literal rest := by
  have hne : text ≠ "" := by
    rintro rfl
    cases hnumber
  obtain ⟨before, run, others, shape, hfacing, rfl⟩ := h.standing.facing htext hne
  rw [String.toList_ofList] at hnumber ⊢
  have hlongest := Front.number_longest session.lexer.exponents hnumber
  obtain ⟨rest, hrest⟩ := hlongest.begins
  generalize Front.number session.lexer.exponents (run ++ others) = literal at hlongest hrest
  rw [← hrest] at hnumber hlongest
  refine ⟨literal, rest, hrest.symm, ?_, hfacing.scansNumber hrest.symm hnumber hlongest⟩
  rwa [← hrest]

/-- With exponents on, one that is not complete is left behind the point. -/
theorem next_number_refused :
    ∃ literal rest, "1.e+x".toList = literal ++ rest ∧
      LongestFront (Literal true) "1.e+x".toList literal ∧
      ScansNumber .collect ((start "x 1.e+x" .collect).perform .next).1 literal rest := by
  have htext : ((start "x 1.e+x" .collect).perform .next).1.lexer.approach.cursor.remaining? =
      some "1.e+x" := by
    decide +kernel
  have hexponents : ((start "x 1.e+x" .collect).perform .next).1.lexer.exponents = true := by
    decide +kernel
  rw [← hexponents]
  exact next_number ((Reachable.fresh Fresh.start).perform .next) htext (.digit (by decide))

end Session

end PayoffLexer
