import PayoffLexer.Proofs.Lexeme.Numbers
import PayoffLexer.Proofs.Session.Alike
import PayoffLexer.Proofs.Session.Words

/-!
# What the choice about exponents decides

Two runs over one source, with exponents and without, go side by side until a number has an
exponent. If no number does, not even a malformed one, they never part.
-/

namespace PayoffLexer

def NoMark (cs : List Char) : Prop := ∀ c ∈ cs, c ≠ 'e' ∧ c ≠ 'E'

theorem noMark_of_startsWord {cs : List Char} (h : ∀ c ∈ cs, startsWord c = false) :
    NoMark cs := by
  intro c hc
  have hnot := h c hc
  constructor <;> rintro rfl <;> exact absurd hnot (by decide)

theorem Exponent.not_noMark {power : List Char} (h : Exponent power) : ¬ NoMark power := by
  intro hnone
  cases h with
  | @intro mark _ _ hmark =>
    have hfirst := hnone mark List.mem_cons_self
    rcases hmark with hmark | hmark
    · exact hfirst.1 hmark
    · exact hfirst.2 hmark

namespace Front

theorem startsWord_of_isDigitOrPoint {c : Char} (h : isDigitOrPoint c = true) :
    startsWord c = false := by
  simp only [isDigitOrPoint, Bool.or_eq_true, beq_iff_eq] at h
  rcases h with hdigit | rfl
  · exact startsWord_of_isDigit hdigit
  · decide

theorem mantissa_digitsAndPoints (ahead : List Char) :
    ∀ c ∈ mantissa ahead, isDigitOrPoint c = true := by
  have hdigits (text : List Char) : ∀ c ∈ digits text, isDigitOrPoint c = true := by
    intro c hc
    have hdigit : c.isDigit = true := takeWhile_all c hc
    simp [isDigitOrPoint, hdigit]
  intro c hc
  rw [mantissa] at hc
  rcases List.mem_append.mp hc with hc | hc
  · exact hdigits ahead c hc
  · cases hrest : ahead.drop (digits ahead).length with
    | nil => simp [hrest, fraction] at hc
    | cons d tail =>
      rw [hrest, fraction_cons] at hc
      split at hc
      · rcases List.mem_cons.mp hc with rfl | hc
        · rfl
        · exact hdigits tail c hc
      · cases hc

/-- Without exponents a lexeme that is no word has no character that starts a word. -/
theorem startsWord_of_lexeme {ahead run : List Char} {shape : Shape}
    (hlexeme : lexeme false ahead = (shape, run)) (hshape : shape ≠ .word) :
    ∀ c ∈ run, startsWord c = false := by
  intro c hc
  cases reading_of_lexeme hlexeme with
  | number => exact startsWord_of_isDigitOrPoint (mantissa_digitsAndPoints ahead c hc)
  | malformedNumber =>
    apply startsWord_of_isDigitOrPoint
    rcases List.mem_append.mp hc with hc | hc
    · exact mantissa_digitsAndPoints ahead c hc
    · exact takeWhile_all c hc
  | word => exact absurd rfl hshape
  | symbol _ _ hsymbol => exact ((symbols_solid _ (symbol?_some hsymbol).1).2 c hc).2.1
  | unexpected _ hword =>
    cases ahead with
    | nil => simp at hc
    | cons d rest =>
      simp only [List.take_succ_cons, List.take_zero, List.mem_singleton] at hc
      simpa [hc] using hword

theorem number_of_noMark {ahead : List Char} (h : NoMark (number true ahead)) :
    number false ahead = number true ahead := by
  rcases exponent_spec (ahead.drop (mantissa ahead).length) with hnone | hpower
  · simp [number, hnone]
  · refine absurd (fun c hc => h c ?_) hpower.not_noMark
    simp only [number, if_true]
    exact List.mem_append_right _ hc

/-- Where the number at the front has no exponent, the choice does not matter. -/
theorem lexeme_of_noMark {ahead run : List Char} {shape : Shape}
    (hlexeme : lexeme true ahead = (shape, run))
    (h : shape = .number ∨ shape = .malformedNumber → NoMark run) :
    lexeme false ahead = (shape, run) := by
  apply Reading.lexeme_eq
  cases reading_of_lexeme hlexeme with
  | number hnumber hend =>
    have hsame := number_of_noMark (h (.inl rfl))
    rw [← hsame] at hend ⊢
    exact .number hnumber hend
  | malformedNumber hnumber hpoint =>
    have hsame := number_of_noMark fun c hc => h (.inr rfl) c (List.mem_append_left _ hc)
    rw [← hsame] at hpoint ⊢
    exact .malformedNumber hnumber hpoint
  | word hnumber hword => exact .word hnumber hword
  | symbol hnumber hword hsymbol => exact .symbol hnumber hword hsymbol
  | unexpected hnumber hword hsymbol => exact .unexpected hnumber hword hsymbol

end Front

/-- The token has no letter of an exponent, unless it is a word or a symbol. -/
def Token.Unscaled (token : Token) : Prop :=
  token.kind = .number ∨ token.kind = .invalid → NoMark token.text.toList

section scans
variable {vocabulary : Vocabulary}

theorem Scan.IsLexeme.unscaled {cs : List Char} {scan : Scan}
    (h : scan.IsLexeme vocabulary false cs) (hkinds : vocabulary.HasWordKinds) :
    scan.token.Unscaled := by
  intro hkind
  cases h with
  | @intro before run rest shape _ _ _ hlexeme =>
    rw [taken_text, String.toList_ofList]
    refine noMark_of_startsWord (Front.startsWord_of_lexeme hlexeme ?_)
    rintro rfl
    have hword : (taken vocabulary before .word run).token.kind.isWordKind = true :=
      hkinds.kindOf_word (String.ofList run)
    rcases hkind with hkind | hkind <;> rw [hkind] at hword <;> cases hword

theorem scans_unscaled (hkinds : vocabulary.HasWordKinds) (passed ahead : List Char) :
    ∀ scan ∈ scans vocabulary false passed ahead, scan.token.Unscaled := by
  intro scan hscan
  rcases isLexeme_or_finish hscan with hlexeme | rfl
  · exact hlexeme.unscaled hkinds
  · simp [Token.Unscaled, Scan.finish, NoMark]

theorem scans_eq_of_unscaled (passed ahead : List Char)
    (h : ∀ scan ∈ scans vocabulary true passed ahead, scan.token.Unscaled) :
    scans vocabulary false passed ahead = scans vocabulary true passed ahead := by
  induction Front.parts true ahead generalizing passed with
  | blank hwhite => rw [scans_blank hwhite, scans_blank hwhite]
  | @lexeme white run rest shape hwhite hsolid hrun hlexeme _ ih =>
    rw [scans_lexeme hwhite hsolid hrun hlexeme, List.forall_mem_cons] at h
    have hplain : Front.lexeme false (run ++ rest) = (shape, run) := by
      apply Front.lexeme_of_noMark hlexeme
      have hfirst := h.1
      rw [Token.Unscaled, Scan.taken_text, String.toList_ofList] at hfirst
      rintro (rfl | rfl)
      · exact hfirst (.inl rfl)
      · exact hfirst (.inr rfl)
    rw [scans_lexeme hwhite hsolid hrun hlexeme, scans_lexeme hwhite hsolid hrun hplain,
      ih _ h.2]

end scans

namespace Session

/-- All tokens of two sessions over a source, the first with exponents and the second without. -/
structure Parallel (policy : Policy) (scaled plain : Session) : Prop where
  returns : policy = .collect →
    (∃ tokens, scaled.tokenize.2 = .ok tokens) ∧ ∃ tokens, plain.tokenize.2 = .ok tokens
  same_iff : ∀ tokens, scaled.tokenize.2 = .ok tokens →
    ((plain.tokenize.2 = .ok tokens ∧
        plain.tokenize.1.sink.diagnostics = scaled.tokenize.1.sink.diagnostics) ↔
      ∀ token ∈ tokens, token.Unscaled)

variable {source : String} {policy : Policy} {scaled plain : Session}

theorem Fresh.parallel (hscaled : Fresh source policy scaled) (hplain : Fresh source policy plain)
    (hon : scaled.lexer.exponents = true) (hoff : plain.lexer.exponents = false)
    (hwords : plain.lexer.vocabulary = scaled.lexer.vocabulary) : Parallel policy scaled plain := by
  have hkinds := hscaled.opening.2.1
  constructor
  · rintro rfl
    exact ⟨hscaled.tokenize_collect, hplain.tokenize_collect⟩
  intro tokens htokens
  rw [hplain.tokenize_eq_ok_iff, ← Array.toList_inj, hplain.tokenize_diagnostics,
    hscaled.tokenize_diagnostics, hon, hoff, hwords]
  rw [hscaled.tokenize_eq_ok_iff, hon] at htokens
  obtain ⟨hpass, rfl⟩ := htokens
  constructor
  · -- No number of the run without exponents has the letter, and the numbers are the same.
    rintro ⟨⟨-, hsame⟩, -⟩
    rw [hsame, List.forall_mem_map]
    exact scans_unscaled hkinds [] source.toList
  · intro hunscaled
    rw [List.forall_mem_map] at hunscaled
    rw [scans_eq_of_unscaled [] source.toList hunscaled]
    exact ⟨⟨hpass, rfl⟩, rfl⟩

/-- With the same keywords, the run with exponents and the run without are the same exactly if no
number, valid or malformed, has an exponent. -/
theorem tokenize_exponents (source : String) (policy : Policy) {keywords : List String}
    (hwords : ∀ word ∈ keywords, isWord word = true) :
    ∃ scaled plain, configure source policy ⟨keywords, true⟩ = .ok scaled ∧
      configure source policy ⟨keywords, false⟩ = .ok plain ∧ Parallel policy scaled plain := by
  have hscaled := @configure_of_words source policy ⟨keywords, true⟩ hwords
  have hplain := @configure_of_words source policy ⟨keywords, false⟩ hwords
  exact ⟨_, _, hscaled, hplain, (Fresh.configure hscaled).parallel (.configure hplain) rfl rfl rfl⟩

/-- The exponent may also hide in a malformed number. -/
theorem tokenize_exponents_malformed :
    (∀ word ∈ ["e5"], isWord word = true) ∧
      ∃ scaled plain, configure "x 1e5. e5" .collect ⟨["e5"], true⟩ = .ok scaled ∧
        configure "x 1e5. e5" .collect ⟨["e5"], false⟩ = .ok plain ∧
        Parallel .collect scaled plain := by
  have hwords : ∀ word ∈ ["e5"], isWord word = true := by decide +kernel
  exact ⟨hwords, tokenize_exponents "x 1e5. e5" .collect hwords⟩

end Session

end PayoffLexer
