import PayoffLexer.Proofs.Session.Words

/-!
# Reserved words only relabel

To reserve words while a source is scanned changes neither where its tokens begin and end nor what
is reported. It only turns identifiers into keywords, and of these only the words that were reserved
before they were scanned.
-/

namespace PayoffLexer

open Cursor (between)

def Token.relabel (words : List String) (token : Token) : Token :=
  if token.kind = .identifier ∧ token.text ∈ words then { token with kind := .keyword } else token

/-- The session stands where the plain one does and has received the same diagnostics, and answers
the next call as the other does but for words that are reserved. -/
structure Relabels (words : List String) (session plain : Session) : Prop where
  cursor : session.lexer.cursor = plain.lexer.cursor
  sink : session.sink = plain.sink
  call : session.next.2 = plain.next.2.map (Token.relabel words)

namespace Vocabulary

/-- The vocabulary has besides the words of another one these as keywords, and in neither is a word
reserved as an identifier. -/
structure Extends (words : List String) (vocabulary plain : Vocabulary) : Prop where
  kinds : ∀ word, vocabulary.kindOf? word =
    (plain.kindOf? word).or (if word ∈ words then some .keyword else none)
  reserved : ∀ word, plain.kindOf? word ≠ some .identifier

variable {words : List String} {vocabulary plain : Vocabulary}

theorem Extends.addAll (h : Extends words vocabulary plain) (others : List String) :
    Extends (words ++ others) (vocabulary.addAll others) plain := by
  refine ⟨fun word => ?_, h.reserved⟩
  rw [kindOf?_addAll, h.kinds, Option.or_assoc]
  by_cases hmem : word ∈ words <;> simp [hmem]

end Vocabulary

def Scan.relabel (words : List String) (scan : Scan) : Scan :=
  { scan with token := scan.token.relabel words }

section scan
variable {words : List String}

theorem Scan.relabel_of_ne {scan : Scan} (h : scan.token.kind ≠ .identifier) :
    scan.relabel words = scan := by
  rw [relabel, Token.relabel, if_neg fun hidentifier => h hidentifier.1]

@[simp] theorem Token.relabel_span (token : Token) : (token.relabel words).span = token.span := by
  rw [relabel]
  split <;> rfl

theorem Scan.relabel_finish (before : List Char) :
    (finish before).relabel words = finish before :=
  relabel_of_ne (by simp [finish])

theorem symbols_kind_ne_identifier : ∀ entry ∈ symbols, entry.2 ≠ .identifier := by
  decide

/-- A lexeme keeps its extent, its fault and its kind, unless it is a free word that is reserved. -/
theorem Scan.taken_relabel {vocabulary plain : Vocabulary}
    (hwords : vocabulary.Extends words plain) {exponents : Bool} {run rest : List Char}
    {shape : Shape} (before : List Char)
    (hlexeme : Front.lexeme exponents (run ++ rest) = (shape, run)) :
    taken vocabulary before shape run = (taken plain before shape run).relabel words := by
  cases shape with
  | word =>
    have hkind := hwords.kinds (String.ofList run)
    have hreserved := hwords.reserved (String.ofList run)
    cases hplain : plain.kindOf? (String.ofList run) with
    | none =>
      rw [hplain, Option.none_or] at hkind
      by_cases hmem : String.ofList run ∈ words <;>
        simp [taken, relabel, Token.relabel, Lexer.kindOf, Lexer.faultOf, hplain, hkind, hmem]
    | some kind =>
      rw [hplain] at hkind hreserved
      have hne : kind ≠ .identifier := fun h => hreserved (by rw [h])
      simp [taken, relabel, Token.relabel, Lexer.kindOf, Lexer.faultOf, hplain, hkind, hne]
  | symbol kind =>
    have hne : kind ≠ .identifier := by
      cases Front.reading_of_lexeme hlexeme with
      | symbol _ _ hsymbol => exact symbols_kind_ne_identifier _ (Front.symbol?_some hsymbol).1
    exact (relabel_of_ne hne).symm
  | number | malformedNumber | unexpected c =>
    rw [relabel_of_ne (by simp [taken, Lexer.kindOf, Lexer.faultOf])]
    rfl

theorem Policy.answer_relabel (policy : Policy) (scan : Scan) :
    policy.answer (scan.relabel words) = (policy.answer scan).map (Token.relabel words) := by
  obtain ⟨token, fault⟩ := scan
  cases fault <;> cases policy <;> simp [answer, Scan.relabel, Except.map]

theorem Policy.kept_relabel (policy : Policy) (scan : Scan) :
    policy.kept (scan.relabel words) = policy.kept scan := by
  obtain ⟨token, fault⟩ := scan
  cases fault <;> cases policy <;> simp [kept, Scan.relabel]

end scan

namespace Session

/-- A session and a plain one over the same source, at the same place, with further words reserved
in the first. -/
structure Overlays (source : String) (policy : Policy) (words : List String)
    (session plain : Session) : Prop where
  standing : Standing source policy plain
  cursor : session.lexer.cursor = plain.lexer.cursor
  exponents : session.lexer.exponents = plain.lexer.exponents
  kinds : session.lexer.vocabulary.HasWordKinds
  words : session.lexer.vocabulary.Extends words plain.lexer.vocabulary
  sink : session.sink = plain.sink

variable {source : String} {policy : Policy} {words : List String} {session plain : Session}

/-- Both lexers pass over the same text, and their scans differ in the label alone. -/
theorem Overlays.scan (h : Overlays source policy words session plain) :
    ∃ lexer other scan, plain.lexer.scan = (lexer, some scan) ∧
      session.lexer.scan = (other, some (scan.relabel words)) ∧ other.cursor = lexer.cursor := by
  obtain ⟨moved, scan, hturn, hscan⟩ := h.standing.scan
  cases hturn with
  | finish hcursor _ hwhite =>
    have hother := Lexer.scan_blank (h.cursor.trans hcursor) hwhite
    rw [← @Scan.relabel_finish words] at hother
    exact ⟨_, _, _, hscan, hother, rfl⟩
  | lexeme hcursor _ hwhite hsolid hrun hlexeme =>
    rw [← h.exponents] at hlexeme
    have hother := Lexer.scan_lexeme (h.cursor.trans hcursor) hwhite hsolid hrun hlexeme
    rw [Scan.taken_relabel h.words _ hlexeme] at hother
    exact ⟨_, _, _, hscan, hother, rfl⟩

theorem Overlays.next (h : Overlays source policy words session plain) :
    session.next.2 = plain.next.2.map (Token.relabel words) ∧
      Overlays source policy words session.next.1 plain.next.1 := by
  obtain ⟨lexer, other, scan, hplain, hown, hcursor⟩ := h.scan
  constructor
  · rw [next_answer_of_scan h.kinds hown, next_answer_of_scan h.standing.kinds hplain, h.sink,
      Policy.answer_relabel]
  constructor
  · exact h.standing.next
  · rw [next_lexer, next_lexer, hown, hplain, hcursor]
  · rw [next_exponents, next_exponents, h.exponents]
  · rw [next_vocabulary]
    exact h.kinds
  · rw [next_vocabulary, next_vocabulary]
    exact h.words
  · rw [next_sink_of_scan h.kinds hown, next_sink_of_scan h.standing.kinds hplain, h.sink,
      Policy.kept_relabel]

theorem Overlays.reserve (h : Overlays source policy words session plain) (text : String) :
    Overlays source policy
      (words ++ ((Operation.reserve text).reserved?
        (session.perform (.reserve text)).2).toList)
      (session.reserve text).1 plain := by
  have hwords := h.words.addAll
    ((Operation.reserve text).reserved? (session.perform (.reserve text)).2).toList
  have hkinds := reserve_kinds h.kinds text
  rw [← perform_vocabulary] at hwords
  rw [reserve_eq] at hkinds ⊢
  exact ⟨h.standing, h.cursor, h.exponents, hkinds, hwords, h.sink⟩

/-- The calls for tokens in a run pass over the same text and report the same as they do alone. -/
theorem Overlays.run (h : Overlays source policy words session plain)
    {operations : List Operation}
    (hcalls : ∀ operation ∈ operations, operation = .next ∨ ∃ text, operation = .reserve text) :
    Overlays source policy (words ++ session.reservedBy operations)
      (session.run operations).1 (plain.run (operations.filter (· = .next))).1 := by
  induction operations generalizing session plain words with
  | nil =>
    rw [reservedBy, List.zip_nil_left, List.filterMap_nil, List.append_nil]
    exact h
  | cons operation operations ih =>
    rw [List.forall_mem_cons] at hcalls
    rw [reservedBy_cons]
    rcases hcalls.1 with rfl | ⟨text, rfl⟩
    · exact ih h.next.2 hcalls.2
    · -- The plain session waits here, and the words in which the two differ become more.
      rw [← List.append_assoc]
      exact ih (h.reserve text) hcalls.2

theorem Overlays.relabels (h : Overlays source policy words session plain) :
    Relabels words session plain := ⟨h.cursor, h.sink, h.next.1⟩

/-- However reservations are mixed with the calls for tokens, the tokens, the places and the
diagnostics are those of the calls alone, but that words reserved so far are keywords. -/
theorem run_relabels (h : Fresh source policy session) (operations : List Operation)
    (hcalls : ∀ operation ∈ operations, operation = .next ∨ ∃ text, operation = .reserve text) :
    Relabels (session.reservedBy operations) (session.run operations).1
      (session.run (operations.filter (· = .next))).1 := by
  have hoverlays : Overlays source policy [] session session := by
    obtain ⟨words, hwords⟩ := h.vocabulary
    refine ⟨h.standing, rfl, rfl, h.standing.kinds, ⟨fun word => by simp, ?_⟩, rfl⟩
    rw [hwords]
    exact Vocabulary.kindOf?_addAll_ne_identifier words
  exact (hoverlays.run hcalls).relabels

/-- A text that is no word is not reserved, and a reserved word stays free within a longer one. -/
theorem run_relabels_interleaved :
    Fresh "IFX été MAX" .collect (start "IFX été MAX" .collect) ∧
      (∀ operation ∈ ([.reserve "1x", .reserve "IF", .next, .reserve "été"] : List Operation),
        operation = .next ∨ ∃ text, operation = .reserve text) ∧
      (start "IFX été MAX" .collect).reservedBy
        [.reserve "1x", .reserve "IF", .next, .reserve "été"] = ["IF", "été"] ∧
      Relabels ["IF", "été"]
        ((start "IFX été MAX" .collect).run
          [.reserve "1x", .reserve "IF", .next, .reserve "été"]).1
        ((start "IFX été MAX" .collect).run [.next]).1 := by
  have hcalls : ∀ operation ∈
      ([.reserve "1x", .reserve "IF", .next, .reserve "été"] : List Operation),
      operation = .next ∨ ∃ text, operation = .reserve text := by
    simp
  have hreserved : (start "IFX été MAX" .collect).reservedBy
      [.reserve "1x", .reserve "IF", .next, .reserve "été"] = ["IF", "été"] := by
    rw [reservedBy_eq]
    decide +kernel
  have hrelabels := run_relabels (@Fresh.start "IFX été MAX" .collect) _ hcalls
  rw [hreserved] at hrelabels
  exact ⟨.start, hcalls, hreserved, hrelabels⟩

end Session

end PayoffLexer
