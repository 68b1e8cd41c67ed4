import Mathlib.Data.List.Forall2
import PayoffLexer.Proofs.Lexeme.Grammar
import PayoffLexer.Proofs.Lexer.Lexemes
import PayoffLexer.Proofs.Session.Reachable

/-!
# One report for each invalid token

A sink that collects receives one diagnostic for each invalid token that a session yields, in the
order of the tokens, and no other. The diagnostic has the span of its token and says whether the
token was read as a number.
-/

namespace PayoffLexer

open String (utf8Len)

/-- The text of the source from the token on begins with a number, so the token was read as one. -/
def ReadAsNumber (source : String) (token : Token) : Prop :=
  ∃ ahead, Text.slice? source token.span.start source.utf8ByteSize = some ahead ∧
    LexemeClass.Begins .number ahead

structure Reports (source : String) (token : Token) (diagnostic : Diagnostic) : Prop where
  span : diagnostic.span = token.span
  malformed : ReadAsNumber source token →
    diagnostic.code = some .invalidNumber ∧
    diagnostic.message = "invalid number literal '" ++ token.text ++ "'" ∧
    ∃ note, diagnostic.helps = [note]
  unexpected : ¬ ReadAsNumber source token → ∃ c, token.text = String.singleton c ∧
    diagnostic.code = some .unexpectedCharacter ∧
    diagnostic.message = "unexpected character '" ++ Text.escape c ++ "'" ∧
    (c = ':' → ∃ note, diagnostic.helps = [note]) ∧ (c ≠ ':' → diagnostic.helps = [])

/-- The token of a lexeme was read as a number if the lexeme begins like one. -/
theorem readAsNumber_taken_iff (vocabulary : Vocabulary) (shape : Shape) {source : String}
    {before run rest : List Char} (hsource : source.toList = before ++ run ++ rest) :
    ReadAsNumber source (Scan.taken vocabulary before shape run).token ↔
      Front.beginsNumber (run ++ rest) = true := by
  have hslice : Text.slice? source (utf8Len before) source.utf8ByteSize =
      some (String.ofList (run ++ rest)) := by
    have hwhole : before ++ (run ++ rest) = source.toList := by
      rw [hsource, List.append_assoc]
    rw [← Text.utf8Len_toList, ← hwhole]
    exact Text.slice?_of_toList (by rw [List.append_nil, hwhole])
  rw [ReadAsNumber, Scan.taken_start, hslice]
  constructor
  · rintro ⟨ahead, hahead, hbegins⟩
    cases hahead
    rwa [LexemeClass.begins_number_iff, String.toList_ofList] at hbegins
  · intro h
    refine ⟨_, rfl, ?_⟩
    rwa [LexemeClass.begins_number_iff, String.toList_ofList]

namespace Session

variable {source : String} {policy : Policy} {session moved : Session} {scan : Scan}

/-- A token that was read as a number is at fault as a whole, and any other is a single character.
-/
theorem Turn.fault_cases (h : Turn source session moved scan) {fault : Fault}
    (hfault : scan.fault = some fault) :
    (ReadAsNumber source scan.token ∧ fault = .malformedNumber scan.token.text) ∨
      (¬ ReadAsNumber source scan.token ∧
        ∃ c, scan.token.text = String.singleton c ∧ fault = .unexpectedCharacter c) := by
  cases h with
  | finish => cases hfault
  | @lexeme passed white run rest shape hcursor hsource hwhite hsolid hrun hlexeme =>
    have hread := readAsNumber_taken_iff session.lexer.vocabulary shape hsource
    have hreading := Front.reading_of_lexeme hlexeme
    obtain ⟨c, others, hahead, -⟩ := hsolid.head_append hrun rest
    rw [hahead] at hread hreading
    cases hreading with
    | word => cases hfault
    | number => cases hfault
    | symbol => cases hfault
    | malformedNumber hnumber =>
      cases hfault
      exact .inl ⟨hread.mpr hnumber, rfl⟩
    | unexpected hnumber =>
      cases hfault
      refine .inr ⟨?_, c, String.singleton_eq_ofList.symm, rfl⟩
      intro hnot
      rw [hread.mp hnot] at hnumber
      cases hnumber

theorem Turn.reports (h : Turn source session moved scan) {fault : Fault}
    (hfault : scan.fault = some fault) :
    Reports source scan.token (fault.diagnostic scan.token.span) := by
  rcases h.fault_cases hfault with ⟨hread, rfl⟩ | ⟨hread, c, htext, rfl⟩
  · exact ⟨rfl, fun _ => ⟨rfl, rfl, _, rfl⟩, fun hnot => absurd hread hnot⟩
  · refine ⟨rfl, fun h => absurd h hread, fun _ => ⟨c, htext, rfl, rfl, ?_, ?_⟩⟩
    · rintro rfl
      exact ⟨_, rfl⟩
    · intro hc
      exact if_neg hc

theorem Turn.kind_eq_invalid_iff (h : Turn source session moved scan)
    (hkinds : session.lexer.vocabulary.HasWordKinds) :
    scan.token.kind = .invalid ↔ scan.fault.isSome = true := by
  cases h with
  | finish => exact ⟨fun h => (by cases h), fun h => (by cases h)⟩
  | lexeme _ _ _ _ _ hlexeme => exact Scan.taken_kind_eq_invalid_iff hkinds _ hlexeme

/-- The sink of the session after has also the reports of the invalid tokens, in their order. -/
def Adds (source : String) (session after : Session) (tokens : List Token) : Prop :=
  ∃ reports, after.sink.diagnostics.toList = session.sink.diagnostics.toList ++ reports ∧
    List.Forall₂ (Reports source) (tokens.filter fun token => token.kind = .invalid) reports

theorem Adds.nothing {after : Session} (h : after.sink = session.sink) :
    Adds source session after [] := by
  refine ⟨[], ?_, .nil⟩
  rw [h, List.append_nil]

theorem Adds.append {middle after : Session} {tokens others : List Token}
    (h : Adds source session middle tokens) (hothers : Adds source middle after others) :
    Adds source session after (tokens ++ others) := by
  obtain ⟨reports, hsink, hreports⟩ := h
  obtain ⟨further, hfurther, hfurtherReports⟩ := hothers
  refine ⟨reports ++ further, ?_, ?_⟩
  · rw [hfurther, hsink, List.append_assoc]
  · rw [List.filter_append]
    exact List.rel_append hreports hfurtherReports

/-- Tokens that are not invalid do not count. -/
theorem Adds.filter {after : Session} {tokens : List Token} (h : Adds source session after tokens)
    {keep : Token → Bool} (hkeep : ∀ token, token.kind = .invalid → keep token = true) :
    Adds source session after (tokens.filter keep) := by
  obtain ⟨reports, hsink, hreports⟩ := h
  refine ⟨reports, hsink, ?_⟩
  rw [List.filter_filter]
  have hsame : (fun token : Token => decide (token.kind = .invalid) && keep token) =
      fun token => decide (token.kind = .invalid) := by
    funext token
    by_cases hkind : token.kind = .invalid
    · simp [hkind, hkeep token hkind]
    · simp [hkind]
  rwa [hsame]

theorem not_isEof_of_invalid (token : Token) (h : token.kind = .invalid) :
    (!token.isEof) = true := by
  simp [Token.isEof, h]

/-- The next token adds its report if it is invalid, and nothing else. -/
theorem next_adds (h : Standing source .collect session) :
    ∃ token, session.next.2 = .ok token ∧ Adds source session session.next.1 [token] := by
  obtain ⟨moved, scan, hturn, -, hanswer, hsink⟩ := h.next_spec
  have hinvalid := hturn.kind_eq_invalid_iff h.kinds
  refine ⟨scan.token, hanswer, Policy.collect.kept scan, hsink, ?_⟩
  rw [Policy.kept_collect]
  cases hfault : scan.fault with
  | none =>
    have hkind : scan.token.kind ≠ .invalid := by
      rw [ne_eq, hinvalid, hfault]
      simp
    simp [hkind]
  | some fault =>
    have hkind : scan.token.kind = .invalid := by
      rw [hinvalid, hfault]
      rfl
    simp [hkind, hturn.reports hfault]

theorem pull_adds (n : Nat) (h : Standing source .collect session) :
    ∃ tokens, (session.pull n).2 = .ok tokens ∧ Adds source session (session.pull n).1 tokens := by
  induction n generalizing session with
  | zero => exact ⟨[], rfl, .nothing rfl⟩
  | succ n ih =>
    obtain ⟨token, hanswer, hadds⟩ := next_adds h
    have hstanding := h.next
    rw [pull]
    cases hnext : session.next with
    | mk after answer =>
      rw [hnext] at hanswer hadds hstanding
      cases hanswer
      dsimp only at hadds hstanding ⊢
      split
      · exact ⟨_, rfl, hadds⟩
      · obtain ⟨tokens, hanswers, hothers⟩ := ih hstanding
        cases hpull : after.pull n with
        | mk last answers =>
          rw [hpull] at hanswers hothers
          cases hanswers
          exact ⟨_, rfl, hadds.append hothers⟩

end Session

def Answer.yielded : Answer → List Token
  | .token single => [single]
  | .item found => found.toList
  | .tokens all => all
  | _ => []

/-- Does the operation keep all diagnostics, and hand out all tokens that it scans? -/
def Operation.keepsAll : Operation → Bool
  | .clear | .count => false
  | _ => true

namespace Session

variable {source : String} {session : Session}

theorem iterate_adds (h : Standing source .collect session) :
    ∃ token, session.iterate.2 = .ok token ∧
      Adds source session session.iterate.1 token.toList := by
  obtain ⟨token, hanswer, hadds⟩ := next_adds h
  have hiterate : session.iterate.2 = session.next.2.map fun token =>
    if token.isEof then none else some token := rfl
  rw [hiterate, hanswer]
  refine ⟨_, rfl, ?_⟩
  change Adds source session session.next.1 _
  have hfilter := hadds.filter not_isEof_of_invalid
  cases hend : token.isEof <;> simpa [hend] using hfilter

theorem take_adds (n : Nat) (h : Standing source .collect session) :
    ∃ tokens, (session.take n).2 = .ok tokens ∧ Adds source session (session.take n).1 tokens := by
  obtain ⟨tokens, hanswers, hadds⟩ := pull_adds n h
  have htake : (session.take n).2 = (session.pull n).2.map fun tokens =>
    tokens.filter fun token => !token.isEof := rfl
  rw [htake, hanswers]
  exact ⟨_, rfl, hadds.filter not_isEof_of_invalid⟩

theorem perform_adds {operation : Operation} (hkeeps : operation.keepsAll = true)
    (h : Standing source .collect session) :
    Adds source session (session.perform operation).1 (session.perform operation).2.yielded := by
  cases operation with
  | next =>
    obtain ⟨token, hanswer, hadds⟩ := next_adds h
    rw [perform, Prod.map, hanswer]
    exact hadds
  | iterate =>
    obtain ⟨token, hanswer, hadds⟩ := iterate_adds h
    rw [perform, Prod.map, hanswer]
    exact hadds
  | take n =>
    obtain ⟨tokens, hanswers, hadds⟩ := take_adds n h
    rw [perform, Prod.map, hanswers]
    exact hadds
  | tokenize =>
    obtain ⟨tokens, hanswers, hadds⟩ := pull_adds session.bound h
    rw [perform, Prod.map, tokenize, hanswers]
    exact hadds
  | reserve text =>
    rw [perform, reserve]
    cases session.lexer.vocabulary.reserve text <;> exact .nothing rfl
  | count => cases hkeeps
  | clear => cases hkeeps
  | rewind | source | diagnostics | reports | kindOf word | isReserved word | vocabularySize
  | isVocabularyEmpty => exact .nothing rfl

/-- In a run under a sink that collects, the diagnostics received are the reports of the invalid
tokens yielded, one for each and in their order. -/
theorem run_reports (h : Reachable source .collect session) (operations : List Operation)
    (hkeeps : ∀ operation ∈ operations, operation.keepsAll = true) :
    ∃ reports,
      (session.run operations).1.sink.diagnostics.toList =
        session.sink.diagnostics.toList ++ reports ∧
      List.Forall₂ (Reports source)
        (((session.run operations).2.flatMap Answer.yielded).filter fun token =>
          token.kind = .invalid) reports := by
  -- What stands is kept by each operation, and what the operations add comes one after another.
  have hstanding := h.standing
  clear h
  change Adds source session (session.run operations).1
    ((session.run operations).2.flatMap Answer.yielded)
  induction operations generalizing session with
  | nil => exact .nothing rfl
  | cons operation operations ih =>
    rw [List.forall_mem_cons] at hkeeps
    have hfirst := perform_adds hkeeps.1 hstanding
    have hothers := ih hkeeps.2 (hstanding.perform operation)
    rw [run]
    exact hfirst.append hothers

theorem run_reports_rewound :
    ∃ reports,
      ((start "1..5 : x" .collect).run
          [.next, .rewind, .reserve "x", .iterate, .tokenize]).1.sink.diagnostics.toList =
        (start "1..5 : x" .collect).sink.diagnostics.toList ++ reports ∧
      List.Forall₂ (Reports "1..5 : x")
        ((((start "1..5 : x" .collect).run
            [.next, .rewind, .reserve "x", .iterate, .tokenize]).2.flatMap
          Answer.yielded).filter fun token => token.kind = .invalid) reports :=
  run_reports (.fresh .start) [.next, .rewind, .reserve "x", .iterate, .tokenize] (by decide)

end Session

end PayoffLexer
