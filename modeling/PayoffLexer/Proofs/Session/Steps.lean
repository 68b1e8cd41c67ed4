import PayoffLexer.Proofs.Vocabulary
import PayoffLexer.Session.Operation

/-!
# What an operation does to a session

Every operation is made of four: the next token, a rewind, a word to reserve and a clear of the
sink. A session makes the next token in steps, each of which reads its mark and its cursor. All that
comes of the steps is settled by the scan: the policy decides whether a fault cuts the work short,
and what of the scan is kept and logged.
-/

namespace PayoffLexer

open Cursor (between)

def Policy.answer : Policy → Scan → Except Halt Token
  | .halt, ⟨token, some fault⟩ => .error (.reported (fault.diagnostic token.span))
  | _, scan => .ok scan.token

theorem Policy.answer_faultless (policy : Policy) {scan : Scan} (h : scan.fault = none) :
    policy.answer scan = .ok scan.token := by
  obtain ⟨token, fault⟩ := scan
  cases h
  cases policy <;> rfl

/-- The diagnostics that a sink of the policy keeps of a scan. -/
def Policy.kept : Policy → Scan → List Diagnostic
  | .collect, ⟨token, some fault⟩ => [fault.diagnostic token.span]
  | _, _ => []

theorem Policy.kept_collect (scan : Scan) :
    Policy.collect.kept scan =
      (scan.fault.map fun fault => fault.diagnostic scan.token.span).toList := by
  obtain ⟨token, fault⟩ := scan
  cases fault <;> rfl

theorem Policy.kept_faultless (policy : Policy) {scan : Scan} (h : scan.fault = none) :
    policy.kept scan = [] := by
  obtain ⟨token, fault⟩ := scan
  cases h
  cases policy <;> rfl

def Token.traced (token : Token) : Event :=
  .scanned token.kind token.text token.span.start token.span.stop

def Fault.warning (fault : Fault) (span : Span) : Event :=
  match fault with
  | .unexpectedCharacter c => .unexpectedCharacter c span.line span.column
  | .malformedNumber text => .malformedNumber text

/-- The events that a session of the policy logs of a scan. -/
def Policy.logged : Policy → Scan → List Event
  | .halt, ⟨token, some fault⟩ => [fault.warning token.span]
  | _, ⟨token, fault⟩ =>
    (fault.map fun fault => fault.warning token.span).toList ++
      if token.isEof then [] else [token.traced]

theorem Policy.logged_faultless (policy : Policy) {scan : Scan} (h : scan.fault = none) :
    policy.logged scan = if scan.token.isEof then [] else [scan.token.traced] := by
  obtain ⟨token, fault⟩ := scan
  cases h
  cases policy <;> rfl

namespace Session

/-- The session after a scan, and the answer. -/
def settle (session : Session) (scan : Scan) : Session × Except Halt Token :=
  let policy := session.sink.policy
  ({ session with
      sink := { session.sink with
        diagnostics := session.sink.diagnostics ++ policy.kept scan }
      log := session.log ++ policy.logged scan },
    policy.answer scan)

section settle
variable (session : Session) (scan : Scan)

theorem settle_lexer : (session.settle scan).1.lexer = session.lexer := rfl

theorem settle_answer : (session.settle scan).2 = session.sink.policy.answer scan := rfl

theorem settle_sink :
    (session.settle scan).1.sink =
      { session.sink with
        diagnostics := session.sink.diagnostics ++ session.sink.policy.kept scan } := rfl

theorem settle_policy : (session.settle scan).1.sink.policy = session.sink.policy := rfl

theorem settle_diagnostics :
    (session.settle scan).1.sink.diagnostics.toList =
      session.sink.diagnostics.toList ++ session.sink.policy.kept scan :=
  Array.toList_appendList

theorem settle_log :
    (session.settle scan).1.log.toList =
      session.log.toList ++ session.sink.policy.logged scan :=
  Array.toList_appendList

theorem settle_finish (hfault : scan.fault = none) (hend : scan.token.isEof = true) :
    session.settle scan = (session, .ok scan.token) := by
  rw [settle, Policy.answer_faultless _ hfault, Policy.kept_faultless _ hfault,
    Policy.logged_faultless _ hfault, if_pos hend]
  simp

theorem settle_valid (hfault : scan.fault = none) (hend : scan.token.isEof = false) :
    session.settle scan = (session.record scan.token.traced, .ok scan.token) := by
  rw [settle, Policy.answer_faultless _ hfault, Policy.kept_faultless _ hfault,
    Policy.logged_faultless _ hfault, hend]
  simp [record]

theorem settle_collect (hpolicy : session.sink.policy = .collect) {fault : Fault}
    (hfault : scan.fault = some fault) (hend : scan.token.isEof = false) :
    session.settle scan =
      ({ session.record (fault.warning scan.token.span) with
          sink := { session.sink with
            diagnostics := session.sink.diagnostics.push
              (fault.diagnostic scan.token.span) } }.record scan.token.traced,
        .ok scan.token) := by
  obtain ⟨token, _⟩ := scan
  cases hfault
  simp [settle, record, Policy.kept, Policy.logged, Policy.answer, hpolicy, hend]

theorem settle_halt (hpolicy : session.sink.policy = .halt) {fault : Fault}
    (hfault : scan.fault = some fault) :
    session.settle scan =
      (session.record (fault.warning scan.token.span),
        .error (.reported (fault.diagnostic scan.token.span))) := by
  obtain ⟨token, _⟩ := scan
  obtain ⟨lexer, ⟨policy, diagnostics⟩, log⟩ := session
  cases hfault
  cases hpolicy
  simp [settle, record, Policy.kept, Policy.logged, Policy.answer]

end settle

section steps
variable (session : Session)

theorem report_collect (hpolicy : session.sink.policy = .collect) (fault : Fault) :
    session.report fault =
      ({ session with
          sink := { session.sink with
            diagnostics := session.sink.diagnostics.push
              (fault.diagnostic session.lexer.span) } }, .ok ()) := by
  simp [report, Sink.emit?, hpolicy]

theorem report_halt (hpolicy : session.sink.policy = .halt) (fault : Fault) :
    session.report fault =
      (session, .error (.reported (fault.diagnostic session.lexer.span))) := by
  simp [report, Sink.emit?, hpolicy]

theorem report_lexer (fault : Fault) : (session.report fault).1.lexer = session.lexer := by
  cases hpolicy : session.sink.policy with
  | collect => rw [report_collect session hpolicy]
  | halt => rw [report_halt session hpolicy]

theorem lexemeToken_lexer (shape : Shape) :
    (session.lexemeToken shape).1.lexer = session.lexer := by
  cases shape with
  | word | number | symbol kind => rfl
  | malformedNumber =>
    rw [lexemeToken, malformedNumber]
    split
    · rfl
    · exact report_lexer _ _
  | unexpected c => exact report_lexer _ _

theorem yieldToken_lexer (shape : Shape) : (session.yieldToken shape).1.lexer = session.lexer := by
  have hlexer := session.lexemeToken_lexer shape
  rw [yieldToken]
  split
  · next h => rwa [h] at hlexer
  · next h => rwa [h] at hlexer

/-- Whatever comes of a token, the lexer has moved over its scan. -/
theorem next_lexer : session.next.1.lexer = session.lexer.scan.1 := by
  rw [next, Lexer.scan]
  dsimp only
  split
  · rfl
  · exact yieldToken_lexer _ _

variable {session} {text : String}

theorem makeToken_of_text (h : session.lexer.text? = some text) (kind : Kind) :
    session.makeToken kind = .ok ⟨kind, text, session.lexer.span⟩ := by
  rw [makeToken, Session.text, h]
  rfl

theorem word_of_text (h : session.lexer.text? = some text) :
    session.word =
      .ok ⟨(session.lexer.vocabulary.kindOf? text).getD .identifier, text, session.lexer.span⟩ := by
  rw [word, Session.text, h]
  exact makeToken_of_text h _

/-- The steps that lead from a lexeme to its token settle the scan of the lexeme: what they read off
the mark and the cursor is what the token tells. -/
theorem yieldToken_of_text (h : session.lexer.text? = some text) {shape : Shape}
    (hkind : Lexer.kindOf session.lexer.vocabulary text shape ≠ .endOfInput) :
    session.yieldToken shape = session.settle (session.lexer.scanOf shape text) := by
  have hend : (session.lexer.scanOf shape text).token.isEof = false := beq_false_of_ne hkind
  cases shape with
  | word =>
    rw [settle_valid _ _ rfl hend, yieldToken]
    simp only [lexemeToken, word_of_text h]
    rfl
  | number | symbol kind =>
    rw [settle_valid _ _ rfl hend, yieldToken]
    simp only [lexemeToken, makeToken_of_text h]
    rfl
  | malformedNumber =>
    rw [yieldToken, lexemeToken, malformedNumber, makeToken_of_text h]
    cases hpolicy : session.sink.policy with
    | collect =>
      rw [settle_collect _ _ hpolicy rfl hend]
      simp only [report_collect (session.record _) hpolicy]
      rfl
    | halt =>
      rw [settle_halt _ _ hpolicy rfl]
      simp only [report_halt (session.record _) hpolicy]
      rfl
  | unexpected c =>
    rw [yieldToken, lexemeToken, unexpected]
    cases hpolicy : session.sink.policy with
    | collect =>
      rw [settle_collect _ _ hpolicy rfl hend]
      simp only [report_collect (session.record _) hpolicy]
      simp only [Except.bind, makeToken, Session.text, record, h]
      rfl
    | halt =>
      rw [settle_halt _ _ hpolicy rfl]
      simp only [report_halt (session.record _) hpolicy]
      rfl

theorem kindOf_lexeme_ne_endOfInput {vocabulary : Vocabulary} (hkinds : vocabulary.HasWordKinds)
    (exponents : Bool) (c : Cursor) (text : String) :
    Lexer.kindOf vocabulary text (c.lexeme exponents).1 ≠ .endOfInput := by
  rw [Cursor.lexeme]
  split
  · rw [Cursor.numberLexeme]
    split <;> simp [Lexer.kindOf]
  split
  · intro hend
    have hword := hkinds.kindOf_word text
    rw [hend] at hword
    exact absurd hword (by decide)
  split
  · next kind after hsymbol =>
    rw [Cursor.symbol?, Option.bind_eq_some_iff] at hsymbol
    obtain ⟨rest, -, hfound⟩ := hsymbol
    obtain ⟨entry, hentry, hkind⟩ := Option.map_eq_some_iff.mp hfound
    cases hkind
    exact (symbols_kind entry (List.mem_of_find?_eq_some hentry)).1
  · simp [Lexer.kindOf]

/-- With only white space ahead the end of the source is found, and nothing else comes of it. -/
theorem next_of_blank {passed white : List Char}
    (hcursor : session.lexer.cursor = between passed white) (hwhite : Blank white) :
    session.next =
      ({ session with lexer := { session.lexer with
          cursor := between (passed ++ white) []
          mark := Place.origin.pastAll (passed ++ white) } },
        .ok (Scan.finish (passed ++ white)).token) := by
  rw [next, Lexer.approach_blank hcursor hwhite]
  simp only [Cursor.atEnd_between, List.isEmpty_nil, if_true, Lexer.span, Cursor.between_position]
  rfl

theorem next_of_scan {lexer : Lexer} {scan : Scan}
    (hkinds : session.lexer.vocabulary.HasWordKinds)
    (h : session.lexer.scan = (lexer, some scan)) :
    session.next = Session.settle { session with lexer } scan := by
  rw [Lexer.scan] at h
  rw [next]
  dsimp only at h ⊢
  split at h
  · next hend =>
    cases h
    rw [if_pos hend, settle_finish _ _ rfl rfl]
  · next hmore =>
    have hkind := kindOf_lexeme_ne_endOfInput hkinds session.lexer.approach.exponents
      session.lexer.approach.cursor
    rw [if_neg hmore]
    generalize session.lexer.approach.cursor.lexeme session.lexer.approach.exponents = found
      at h hkind ⊢
    rw [Lexer.takeAs, Prod.mk.injEq, Option.map_eq_some_iff] at h
    obtain ⟨rfl, text, htext, rfl⟩ := h
    exact yieldToken_of_text htext (hkind text)

theorem next_answer_of_scan {lexer : Lexer} {scan : Scan}
    (hkinds : session.lexer.vocabulary.HasWordKinds)
    (h : session.lexer.scan = (lexer, some scan)) :
    session.next.2 = session.sink.policy.answer scan := by
  rw [next_of_scan hkinds h, settle_answer]

theorem next_sink_of_scan {lexer : Lexer} {scan : Scan}
    (hkinds : session.lexer.vocabulary.HasWordKinds)
    (h : session.lexer.scan = (lexer, some scan)) :
    session.next.1.sink =
      { session.sink with
        diagnostics := session.sink.diagnostics ++ session.sink.policy.kept scan } := by
  rw [next_of_scan hkinds h, settle_sink]

end steps

theorem reserve_eq (session : Session) (text : String) :
    (session.reserve text).1 =
      { session with lexer.vocabulary := (session.reserve text).1.lexer.vocabulary } := by
  rw [reserve]
  cases session.lexer.vocabulary.reserve text <;> rfl

section keep
variable {Keeps : Session → Prop} (hnext : ∀ session, Keeps session → Keeps session.next.1)
include hnext

theorem pull_keeps (n : Nat) {session : Session} (h : Keeps session) :
    Keeps (session.pull n).1 := by
  induction n generalizing session with
  | zero => exact h
  | succ n ih =>
    have hkeep := hnext session h
    rw [pull]
    cases hstep : session.next with
    | mk after answer =>
      rw [hstep] at hkeep
      cases answer with
      | error halt => exact hkeep
      | ok token =>
        dsimp only
        split
        · exact hkeep
        · have hothers := ih hkeep
          cases hrest : after.pull n with
          | mk last answers =>
            rw [hrest] at hothers
            cases answers <;> exact hothers

/-- What the next token keeps an operation keeps, if the operation is not one of three or keeps it
too. -/
theorem perform_keeps_of {session : Session} (h : Keeps session) {operation : Operation}
    (hrewind : operation = .rewind → Keeps session.rewind)
    (hreserve : ∀ text, operation = .reserve text → Keeps (session.reserve text).1)
    (hclear : operation = .clear → Keeps session.clear) :
    Keeps (session.perform operation).1 := by
  cases operation with
  | next => exact hnext session h
  | iterate => exact hnext session h
  | take n => exact pull_keeps hnext n h
  | count => exact pull_keeps hnext session.bound h
  | tokenize => exact pull_keeps hnext session.bound h
  | rewind => exact hrewind rfl
  | reserve text => exact hreserve text rfl
  | clear => exact hclear rfl
  | source | diagnostics | reports | kindOf word | isReserved word | vocabularySize
  | isVocabularyEmpty => exact h

/-- What the next token, a reserved word and a clear keep, every operation keeps but a rewind. -/
theorem perform_keeps_of_ne_rewind
    (hreserve : ∀ session text, Keeps session → Keeps (session.reserve text).1)
    (hclear : ∀ session, Keeps session → Keeps session.clear)
    {session : Session} (h : Keeps session) {operation : Operation}
    (hoperation : operation ≠ .rewind) : Keeps (session.perform operation).1 :=
  perform_keeps_of hnext h (fun hrewind => absurd hrewind hoperation)
    (fun text _ => hreserve session text h) (fun _ => hclear session h)

theorem perform_keeps (hrewind : ∀ session, Keeps session → Keeps session.rewind)
    (hreserve : ∀ session text, Keeps session → Keeps (session.reserve text).1)
    (hclear : ∀ session, Keeps session → Keeps session.clear)
    {session : Session} (h : Keeps session) (operation : Operation) :
    Keeps (session.perform operation).1 :=
  perform_keeps_of hnext h (fun _ => hrewind session h) (fun text _ => hreserve session text h)
    (fun _ => hclear session h)

end keep

theorem run_keeps {Keeps : Session → Prop} {operations : List Operation}
    (hperform : ∀ session, ∀ operation ∈ operations, Keeps session →
      Keeps (session.perform operation).1) {session : Session} (h : Keeps session) :
    Keeps (session.run operations).1 := by
  induction operations generalizing session with
  | nil => exact h
  | cons operation operations ih =>
    have hfirst := hperform session operation List.mem_cons_self h
    exact ih (fun session other hother => hperform session other (List.mem_cons_of_mem _ hother))
      hfirst

end Session

end PayoffLexer
