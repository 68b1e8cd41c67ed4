import PayoffLexer.Proofs.Session.Pull
import PayoffLexer.Proofs.Session.Reachable

/-!
# Tokens tile the source

All tokens of a source, each at its span, are the source without its white space. Nothing is lost
between two tokens, before the first or after the last, and no character is in two of them.
-/

namespace PayoffLexer

open Unicode (isWhiteSpace)

/-- The tokens of a source are the texts at their spans in order, with white space between them and
the end of the source behind them. -/
structure Tiling (source : String) (tokens : List Token) : Prop where
  ends : ∃ lexemes eof, tokens = lexemes ++ [eof] ∧ (∀ token ∈ lexemes, token.kind ≠ .endOfInput) ∧
    eof.kind = .endOfInput ∧ eof.text = "" ∧
    eof.span.start = source.utf8ByteSize ∧ eof.span.stop = source.utf8ByteSize
  nonempty : ∀ token ∈ tokens, token.kind ≠ .endOfInput → token.span.start < token.span.stop
  texts : ∀ token ∈ tokens, token.kind ≠ .endOfInput → token.span.text? source = some token.text
  first : ∀ token ∈ tokens.head?, Gap source 0 token.span.start
  gaps : tokens.IsChain fun token next => Gap source token.span.stop next.span.start
  solid : ∀ token ∈ tokens, ∀ c ∈ token.text.toList, isWhiteSpace c = false
  joined : String.join (tokens.map (·.text)) =
    String.ofList (source.toList.filter fun c => !isWhiteSpace c)

theorem scans_tiling {vocabulary : Vocabulary} (hkinds : vocabulary.HasWordKinds) (exponents : Bool)
    (source : String) :
    Tiling source ((scans vocabulary exponents [] source.toList).map (·.token)) := by
  obtain ⟨lexemes, hscans, hlexemes⟩ :=
    scans_eq_lexemes_finish vocabulary exponents [] source.toList
  have hfirst := scans_first_gap vocabulary exponents [] source.toList
  have hgaps := scans_gaps vocabulary exponents [] source.toList
  have htexts := scans_texts vocabulary exponents [] source.toList
  rw [List.nil_append] at hscans hlexemes
  rw [List.nil_append, String.ofList_toList] at hfirst hgaps
  -- A token that is not the end is a lexeme's, since the only other scan is that of the end.
  have hmem : ∀ token ∈ (scans vocabulary exponents [] source.toList).map (·.token),
      token.kind ≠ .endOfInput → ∃ scan : Scan, scan.IsLexeme vocabulary exponents source.toList ∧
        scan.token = token := by
    intro token htoken hkind
    obtain ⟨scan, hscan, rfl⟩ := List.mem_map.mp htoken
    rw [hscans] at hscan
    rcases List.mem_append.mp hscan with hscan | hscan
    · exact ⟨scan, hlexemes scan hscan, rfl⟩
    · rw [List.mem_singleton.mp hscan] at hkind
      exact absurd rfl hkind
  constructor
  · refine ⟨lexemes.map (·.token), (Scan.finish source.toList).token, ?_, ?_, rfl, rfl, ?_, ?_⟩
    · rw [hscans, List.map_append]
      rfl
    · intro token htoken
      obtain ⟨scan, hscan, rfl⟩ := List.mem_map.mp htoken
      exact (hlexemes scan hscan).kind_ne_endOfInput hkinds
    · rw [Scan.finish_start, Text.utf8Len_toList]
    · rw [Scan.finish_stop, Text.utf8Len_toList]
  · intro token htoken hkind
    obtain ⟨scan, hscan, rfl⟩ := hmem token htoken hkind
    exact hscan.start_lt_stop
  · intro token htoken hkind
    obtain ⟨scan, hscan, rfl⟩ := hmem token htoken hkind
    have htext := hscan.span_text
    rwa [String.ofList_toList] at htext
  · intro token htoken
    rw [List.head?_map] at htoken
    obtain ⟨scan, hscan, rfl⟩ := Option.map_eq_some_iff.mp htoken
    exact hfirst scan hscan
  · exact (List.isChain_map _).mpr hgaps
  · intro token htoken c hc
    by_cases hkind : token.kind = .endOfInput
    · obtain ⟨scan, hscan, rfl⟩ := List.mem_map.mp htoken
      rw [hscans] at hscan
      rcases List.mem_append.mp hscan with hscan | hscan
      · exact absurd hkind ((hlexemes scan hscan).kind_ne_endOfInput hkinds)
      · rw [List.mem_singleton.mp hscan] at hc
        exact absurd hc List.not_mem_nil
    · obtain ⟨scan, hscan, rfl⟩ := hmem token htoken hkind
      exact hscan.solid c hc
  · rw [← String.toList_inj, String.toList_join, String.toList_ofList, ← htexts, List.map_map,
      List.flatMap_map]
    rfl

namespace Session

/-- A fresh session yields all its tokens unless its policy stops at a fault, and what it yields
tiles the source. -/
theorem tokenize_tiling {source : String} {policy : Policy} {session : Session}
    (h : Fresh source policy session) :
    (policy = .collect → ∃ tokens, session.tokenize.2 = .ok tokens) ∧
      ∀ tokens, session.tokenize.2 = .ok tokens → Tiling source tokens := by
  obtain ⟨hcursor, hkinds, hsink⟩ := h.opening
  have hanswers := tokenize_answers hcursor hkinds
  rw [hsink] at hanswers
  constructor
  · rintro rfl
    exact ⟨_, hanswers.trans (Policy.answers_collect _)⟩
  · intro tokens htokens
    rw [Policy.answers_tokens (hanswers.symm.trans htokens)]
    exact scans_tiling hkinds session.lexer.exponents source

theorem tokenize_tiling_reserved :
    ∃ tokens, ((start "PAY 1.e2\r\n\x00 été" .collect).reserve "été").1.tokenize.2 = .ok tokens ∧
      Tiling "PAY 1.e2\r\n\x00 été" tokens := by
  have h := tokenize_tiling ((@Fresh.start "PAY 1.e2\r\n\x00 été" .collect).reserve "été")
  obtain ⟨tokens, htokens⟩ := h.1 rfl
  exact ⟨tokens, htokens, h.2 tokens htokens⟩

end Session

end PayoffLexer
