import PayoffLexer.Proofs.Locations
import PayoffLexer.Proofs.Munch
import PayoffLexer.Proofs.Reservations

/-!
# What is accepted and what is scanned

A vocabulary accepts exactly the texts that are scanned as one word, although neither asks the other
what a word is. Once it has accepted a text, that text is an identifier nowhere.
-/

namespace PayoffLexer

/-- All tokens of the session are one word with this text and the end. -/
def Session.YieldsWord (session : Session) (text : String) : Prop :=
  ∃ word eof, session.tokenize.2 = .ok [word, eof] ∧
    word.kind.isWordKind = true ∧ word.text = text ∧ eof.isEof = true

/-- What an offer of a text to a vocabulary tells of scans, and scans tell of the offer. -/
structure Acceptance (vocabulary : Vocabulary) (text : String) : Prop where
  accepted_iff : ∀ session : Session, session.lexer.cursor = .atStart text →
    session.lexer.vocabulary.Made →
    ((vocabulary.offer text).2 = .ok () ↔ session.YieldsWord text)
  distinguished : (vocabulary.offer text).2 = .ok () →
    ∀ source, ∀ session : Session, session.lexer.cursor.Over source →
      session.lexer.vocabulary = (vocabulary.offer text).1 →
      ∀ operations, ∀ answer ∈ (session.run operations).2, ∀ token ∈ answer.yielded,
        token.text = text →
        token.kind = (vocabulary.kindOf? text).getD .keyword ∧ token.kind ≠ .identifier
  refused : ∀ error, (vocabulary.offer text).2 = .error error →
    error = .invalidKeyword text ∧ (vocabulary.offer text).1 = vocabulary
  session : ∀ session : Session, session.lexer.vocabulary = vocabulary →
    session.reserve text =
      ({ session with lexer.vocabulary := (vocabulary.offer text).1 }, (vocabulary.offer text).2)

namespace Vocabulary

variable {vocabulary : Vocabulary}

theorem Made.hasWordKinds (h : vocabulary.Made) : vocabulary.HasWordKinds := by
  induction h with
  | empty => exact fun _ hentry => absurd hentry List.not_mem_nil
  | standard => exact standard_hasWordKinds
  | add _ word ih => exact ih.add word

/-- A text that was accepted has the kind that it had before, or else that of keywords. -/
theorem kindOf?_offer_of_word (vocabulary : Vocabulary) {text : String}
    (hword : isWord text = true) :
    (vocabulary.offer text).1.kindOf? text = some ((vocabulary.kindOf? text).getD .keyword) := by
  rw [offer_of_word vocabulary hword, kindOf?_add, if_pos rfl]
  cases vocabulary.kindOf? text <;> rfl

end Vocabulary

theorem Session.Reachable.made {source : String} {policy : Policy} {session : Session}
    (h : Reachable source policy session) : session.lexer.vocabulary.Made := by
  induction h with
  | fresh h =>
    obtain ⟨words, hwords⟩ := h.vocabulary
    rw [hwords]
    exact Vocabulary.Made.standard.addAll words
  | perform _ operation ih =>
    rw [perform_vocabulary]
    exact ih.addAll _

theorem symbols_isWordKind : ∀ entry ∈ symbols, entry.2.isWordKind = false := by
  decide

theorem Front.isWord_of_lexeme {exponents : Bool} {ahead run : List Char}
    (hlexeme : lexeme exponents ahead = (.word, run)) : isWord (String.ofList run) = true := by
  cases reading_of_lexeme hlexeme with
  | word _ hword =>
    cases ahead with
    | nil => exact absurd hword (by decide)
    | cons c rest =>
      have hbegins : LexemeClass.Begins .word (String.ofList (c :: rest)) :=
        LexemeClass.begins_word_iff.mpr ⟨c, rest, String.toList_ofList, hword⟩
      have hlongest := LexemeClass.word_longest hbegins
      rw [String.toList_ofList] at hlongest
      exact hlongest.has

section scans
variable {vocabulary : Vocabulary} {exponents : Bool} {cs : List Char} {scan : Scan}

theorem Scan.IsLexeme.kind_of_isWord (h : scan.IsLexeme vocabulary exponents cs)
    (hword : isWord scan.token.text = true) :
    scan.token.kind = Lexer.kindOf vocabulary scan.token.text .word := by
  cases h with
  | @intro before run rest shape _ _ _ hlexeme =>
    have hbegins : LexemeClass.Begins .word (String.ofList (run ++ rest)) :=
      ⟨String.ofList run, hword, by simp⟩
    rw [Front.lexeme_word exponents hbegins, Prod.mk.injEq] at hlexeme
    obtain ⟨rfl, -⟩ := hlexeme
    rfl

theorem Scan.IsLexeme.isWordKind_iff (h : scan.IsLexeme vocabulary exponents cs)
    (hkinds : vocabulary.HasWordKinds) :
    scan.token.kind.isWordKind = true ↔ isWord scan.token.text = true := by
  constructor
  · cases h with
    | @intro before run rest shape _ _ _ hlexeme =>
      intro hkind
      change (Lexer.kindOf vocabulary (String.ofList run) shape).isWordKind = true at hkind
      cases shape with
      | word => exact Front.isWord_of_lexeme hlexeme
      | symbol kind =>
        cases Front.reading_of_lexeme hlexeme with
        | symbol _ _ hsymbol =>
          have hnot := symbols_isWordKind _ (Front.symbol?_some hsymbol).1
          exact absurd (hnot.symm.trans hkind) Bool.false_ne_true
      | number | malformedNumber | unexpected => cases hkind
  · intro hword
    rw [h.kind_of_isWord hword]
    exact hkinds.kindOf_word _

theorem scans_word {text : String} (hword : isWord text = true) :
    scans vocabulary exponents [] text.toList =
      [.taken vocabulary [] .word text.toList, .finish text.toList] := by
  have hall := LexemeClass.continuesWord_of_isWord hword
  have hne : text.toList ≠ [] := by
    obtain ⟨first, rest, htext, -⟩ := LexemeClass.isWord_iff.mp hword
    simp [htext]
  have hbegins : LexemeClass.Begins .word (String.ofList text.toList) := ⟨text, hword, by simp⟩
  have hlexeme := Front.lexeme_word exponents hbegins
  rw [List.takeWhile_eq_self_iff.mpr hall] at hlexeme
  exact scans_single (fun c hc => isWhiteSpace_of_continuesWord (hall c hc)) hne hlexeme

end scans

namespace Session

variable {source text : String} {policy : Policy} {session : Session}

/-- A session at the start of a text yields it as a word exactly if it is one. -/
theorem yieldsWord_iff (hcursor : session.lexer.cursor = .atStart text)
    (hkinds : session.lexer.vocabulary.HasWordKinds) :
    session.YieldsWord text ↔ isWord text = true := by
  rw [Cursor.atStart_eq_between] at hcursor
  rw [YieldsWord, tokenize_answers hcursor hkinds]
  constructor
  · rintro ⟨word, eof, htokens, hkind, rfl, -⟩
    have hmem : word ∈ [word, eof] := List.mem_cons_self
    rw [Policy.answers_tokens htokens] at hmem
    obtain ⟨scan, hscan, rfl⟩ := List.mem_map.mp hmem
    rcases isLexeme_or_finish hscan with hlexeme | hfinish
    · exact (hlexeme.isWordKind_iff hkinds).mp hkind
    · rw [hfinish] at hkind
      cases hkind
  · intro hword
    rw [scans_word hword]
    refine ⟨_, _, Policy.answers_eq_ok_iff.mpr ⟨?_, rfl⟩, hkinds.kindOf_word _,
      String.ofList_toList, rfl⟩
    simp [Policy.Passes, Scan.taken, Scan.finish, Lexer.faultOf]

theorem Standing.kind_of_yielded (h : Standing source policy session) {operation : Operation}
    {token : Token} (htoken : token ∈ (session.perform operation).2.yielded)
    (hword : isWord token.text = true) :
    token.kind = Lexer.kindOf session.lexer.vocabulary token.text .word := by
  cases h.scanned_of_yielded htoken with
  | lexeme hlexeme => exact hlexeme.kind_of_isWord hword
  | eof => cases hword

/-- Whatever is done to a session, a reserved word keeps its kind among the tokens. -/
theorem Standing.run_kind (h : Standing source policy session) (hword : isWord text = true)
    {kind : Kind} (hkind : session.lexer.vocabulary.kindOf? text = some kind)
    (operations : List Operation) :
    ∀ answer ∈ (session.run operations).2, ∀ token ∈ answer.yielded,
      token.text = text → token.kind = kind := by
  induction operations generalizing session with
  | nil => exact fun _ hanswer => absurd hanswer List.not_mem_nil
  | cons operation operations ih =>
    rw [Session.run, List.forall_mem_cons]
    constructor
    · rintro token htoken rfl
      rw [h.kind_of_yielded htoken hword, Lexer.kindOf, hkind, Option.getD_some]
    · apply ih (h.perform operation)
      rw [perform_vocabulary, Vocabulary.kindOf?_addAll, hkind, Option.some_or]

end Session

/-- A vocabulary accepts a text exactly if it is scanned as one word, and from then on it is scanned
under a kind of its own. -/
theorem offer_acceptance {vocabulary : Vocabulary} (h : vocabulary.Made) (text : String) :
    Acceptance vocabulary text := by
  constructor
  · intro session hcursor hmade
    rw [Vocabulary.offer_accepts_iff, Session.yieldsWord_iff hcursor hmade.hasWordKinds]
  · intro haccepted source session hover hvocabulary operations answer hanswer token htoken htext
    rw [Vocabulary.offer_accepts_iff] at haccepted
    have hmade : session.lexer.vocabulary.Made := by
      rw [hvocabulary, Vocabulary.offer_of_word vocabulary haccepted]
      exact h.add text
    have hkind := vocabulary.kindOf?_offer_of_word haccepted
    rw [← hvocabulary] at hkind
    have hstanding : Session.Standing source session.sink.policy session :=
      ⟨hover, hmade.hasWordKinds, rfl⟩
    have hsame := hstanding.run_kind haccepted hkind operations answer hanswer token htoken htext
    refine ⟨hsame, ?_⟩
    rintro hidentifier
    rw [← hsame, hidentifier] at hkind
    exact hmade.kindOf?_ne_identifier text hkind
  · intro error hrefused
    cases hword : isWord text with
    | false =>
      rw [Vocabulary.offer_of_not_word vocabulary hword] at hrefused ⊢
      cases hrefused
      exact ⟨rfl, rfl⟩
    | true =>
      rw [Vocabulary.offer_of_word vocabulary hword] at hrefused
      cases hrefused
  · rintro session rfl
    exact session.reserve_eq_offer text

/-- A vocabulary with a word of its own accepts that word again. -/
theorem offer_acceptance_reserved :
    ((Session.start "x" .halt).perform (.reserve "été")).1.lexer.vocabulary.Made ∧
      Acceptance ((Session.start "x" .halt).perform (.reserve "été")).1.lexer.vocabulary "été" ∧
      (Session.start "été" .halt).YieldsWord "été" := by
  have hmade := ((Session.Reachable.fresh (@Session.Fresh.start "x" .halt)).perform
    (.reserve "été")).made
  have hacceptance := offer_acceptance hmade "été"
  have haccepted := (Vocabulary.offer_accepts_iff
    ((Session.start "x" .halt).perform (.reserve "été")).1.lexer.vocabulary "été").mpr
    (by decide +kernel)
  exact ⟨hmade, hacceptance,
    (hacceptance.accepted_iff (.start "été" .halt) rfl .standard).mp haccepted⟩

end PayoffLexer
