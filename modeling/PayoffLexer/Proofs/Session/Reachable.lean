import PayoffLexer.Proofs.Session.Steps

/-!
# Reachable sessions

A session is reached from its opening by operations in any order. At all times its cursor stands
between two lists of characters that make up the source, and each scan takes one turn from there.
-/

namespace PayoffLexer

open Cursor (between)

namespace Session

/-- A session over a source that was opened, and in which only words were reserved since. -/
inductive Fresh (source : String) (policy : Policy) : Session → Prop
  | start : Fresh source policy (.start source policy)
  | configure {settings : Settings} {session : Session}
    (h : configure source policy settings = .ok session) : Fresh source policy session
  | reserve {session : Session} (h : Fresh source policy session) (text : String) :
    Fresh source policy (session.reserve text).1

/-- A session over a source after any operations. -/
inductive Reachable (source : String) (policy : Policy) : Session → Prop
  | fresh {session : Session} (h : Fresh source policy session) : Reachable source policy session
  | perform {session : Session} (h : Reachable source policy session) (operation : Operation) :
    Reachable source policy (session.perform operation).1

/-- What holds of a session over a source at all times. -/
structure Standing (source : String) (policy : Policy) (session : Session) : Prop where
  cursor : ∃ passed ahead, session.lexer.cursor = between passed ahead ∧
    source.toList = passed ++ ahead
  kinds : session.lexer.vocabulary.HasWordKinds
  policy : session.sink.policy = policy

/-- One scan of a session: the session that has moved over it, and the scan. -/
inductive Turn (source : String) (session : Session) : Session → Scan → Prop
  | finish {passed white : List Char} (hcursor : session.lexer.cursor = between passed white)
    (hsource : source.toList = passed ++ white) (hwhite : Blank white) :
    Turn source session
      { session with lexer := { session.lexer with
          cursor := between (passed ++ white) []
          mark := Place.origin.pastAll (passed ++ white) } }
      (.finish (passed ++ white))
  | lexeme {passed white run rest : List Char} {shape : Shape}
    (hcursor : session.lexer.cursor = between passed (white ++ (run ++ rest)))
    (hsource : source.toList = passed ++ white ++ run ++ rest)
    (hwhite : Blank white) (hsolid : Solid run) (hrun : run ≠ [])
    (hlexeme : Front.lexeme session.lexer.exponents (run ++ rest) = (shape, run)) :
    Turn source session
      { session with lexer := { session.lexer with
          cursor := between (passed ++ white ++ run) rest
          mark := Place.origin.pastAll (passed ++ white) } }
      (.taken session.lexer.vocabulary (passed ++ white) shape run)

variable {source : String} {policy : Policy} {session : Session}

theorem Standing.scan (h : Standing source policy session) :
    ∃ moved scan, Turn source session moved scan ∧
      session.lexer.scan = (moved.lexer, some scan) := by
  obtain ⟨passed, ahead, hcursor, hsource⟩ := h.cursor
  cases Front.parts session.lexer.exponents ahead with
  | blank hwhite =>
    exact ⟨_, _, .finish hcursor hsource hwhite, Lexer.scan_blank hcursor hwhite⟩
  | lexeme hwhite hsolid hrun hlexeme _ =>
    refine ⟨_, _, .lexeme hcursor ?_ hwhite hsolid hrun hlexeme,
      Lexer.scan_lexeme hcursor hwhite hsolid hrun hlexeme⟩
    rw [hsource]
    simp

theorem Turn.eq_withLexer {moved : Session} {scan : Scan} (h : Turn source session moved scan) :
    moved = { session with lexer := moved.lexer } := by
  cases h <;> rfl

theorem Standing.turn (h : Standing source policy session) :
    ∃ moved scan, Turn source session moved scan ∧ session.next = moved.settle scan := by
  obtain ⟨moved, scan, hturn, hscan⟩ := h.scan
  refine ⟨moved, scan, hturn, ?_⟩
  rw [next_of_scan h.kinds hscan, ← hturn.eq_withLexer]

/-- The next token moves the lexer by one turn, answers as the policy does and puts into the sink
what the policy keeps. -/
theorem Standing.next_spec (h : Standing source policy session) :
    ∃ moved scan, Turn source session moved scan ∧ session.next.1.lexer = moved.lexer ∧
      session.next.2 = policy.answer scan ∧
      session.next.1.sink.diagnostics.toList =
        session.sink.diagnostics.toList ++ policy.kept scan := by
  obtain ⟨moved, scan, hturn, hnext⟩ := h.turn
  have hsink : moved.sink = session.sink := by cases hturn <;> rfl
  refine ⟨moved, scan, hturn, ?_, ?_, ?_⟩
  · rw [hnext, settle_lexer]
  · rw [hnext, settle_answer, hsink, h.policy]
  · rw [hnext, settle_diagnostics, hsink, h.policy]

theorem Turn.standing {moved : Session} {scan : Scan} (hturn : Turn source session moved scan)
    (h : Standing source policy session) : Standing source policy moved := by
  cases hturn with
  | finish hcursor hsource hwhite =>
    exact ⟨⟨_, [], rfl, by rw [hsource, List.append_nil]⟩, h.kinds, h.policy⟩
  | lexeme hcursor hsource hwhite hsolid hrun hlexeme =>
    exact ⟨⟨_, _, rfl, hsource⟩, h.kinds, h.policy⟩

theorem Standing.settle (h : Standing source policy session) (scan : Scan) :
    Standing source policy (session.settle scan).1 := by
  constructor
  · rw [settle_lexer]
    exact h.cursor
  · rw [settle_lexer]
    exact h.kinds
  · rw [settle_policy]
    exact h.policy

theorem Standing.next (h : Standing source policy session) :
    Standing source policy session.next.1 := by
  obtain ⟨moved, scan, hturn, hnext⟩ := h.turn
  rw [hnext]
  exact (hturn.standing h).settle scan

theorem Standing.rewind (h : Standing source policy session) :
    Standing source policy session.rewind := by
  obtain ⟨passed, ahead, hcursor, hsource⟩ := h.cursor
  refine ⟨⟨[], source.toList, ?_, rfl⟩, h.kinds, h.policy⟩
  change session.lexer.cursor.rewind = _
  rw [hcursor, Cursor.rewind_between, hsource]

theorem reserve_kinds (h : session.lexer.vocabulary.HasWordKinds) (text : String) :
    (session.reserve text).1.lexer.vocabulary.HasWordKinds := by
  rw [Session.reserve]
  cases hreserve : session.lexer.vocabulary.reserve text with
  | error error => exact h
  | ok vocabulary => exact h.reserve hreserve

theorem Standing.reserve (h : Standing source policy session) (text : String) :
    Standing source policy (session.reserve text).1 := by
  have hkinds := reserve_kinds h.kinds text
  rw [reserve_eq] at hkinds ⊢
  exact ⟨h.cursor, hkinds, h.policy⟩

theorem Standing.clear (h : Standing source policy session) :
    Standing source policy session.clear := ⟨h.cursor, h.kinds, h.policy⟩

/-- A session can be opened with settings if their words can be reserved, and stands then before the
first character. -/
theorem configure_eq (source : String) (policy : Policy) (settings : Settings) :
    configure source policy settings = settings.vocabulary.map fun vocabulary =>
      ⟨.start source vocabulary settings.exponents, .empty policy, #[.ofSettings settings]⟩ := by
  rw [configure, launch, adopt]
  cases settings.vocabulary <;> rfl

theorem configure_eq_ok_iff {settings : Settings} :
    configure source policy settings = .ok session ↔ ∃ vocabulary,
      settings.vocabulary = .ok vocabulary ∧ session =
        ⟨.start source vocabulary settings.exponents, .empty policy, #[.ofSettings settings]⟩ := by
  rw [configure_eq]
  cases settings.vocabulary <;> simp [Except.map, eq_comm]

theorem configure_of_launch {settings : Settings}
    (h : launch source policy (some settings) = (session, .ok ())) :
    configure source policy settings = .ok session := by
  rw [configure, h]
  rfl

theorem fresh_of_launch {settings : Option Settings}
    (h : launch source policy settings = (session, .ok ())) : Fresh source policy session := by
  cases settings with
  | none =>
    cases h
    exact .start
  | some settings => exact .configure (configure_of_launch h)

/-- A fresh session stands before the first character, and its sink is empty. -/
theorem Fresh.opening (h : Fresh source policy session) :
    session.lexer.cursor = between [] source.toList ∧ session.lexer.vocabulary.HasWordKinds ∧
      session.sink = .empty policy := by
  induction h with
  | start =>
    exact ⟨Cursor.atStart_eq_between source, Vocabulary.standard_hasWordKinds, rfl⟩
  | @configure settings session h =>
    obtain ⟨vocabulary, hvocabulary, rfl⟩ := configure_eq_ok_iff.mp h
    exact ⟨Cursor.atStart_eq_between source,
      Vocabulary.standard_hasWordKinds.reserveAll hvocabulary, rfl⟩
  | @reserve session _ text ih =>
    obtain ⟨hcursor, hkinds, hsink⟩ := ih
    have hkept := reserve_kinds hkinds text
    rw [reserve_eq] at hkept ⊢
    exact ⟨hcursor, hkept, hsink⟩

theorem Fresh.mark (h : Fresh source policy session) : session.lexer.mark = .origin := by
  induction h with
  | start => rfl
  | @configure settings session h =>
    obtain ⟨vocabulary, -, rfl⟩ := configure_eq_ok_iff.mp h
    rfl
  | @reserve session _ text ih =>
    rw [reserve_eq]
    exact ih

theorem Fresh.standing (h : Fresh source policy session) : Standing source policy session := by
  obtain ⟨hcursor, hkinds, hsink⟩ := h.opening
  exact ⟨⟨[], source.toList, hcursor, rfl⟩, hkinds, by rw [hsink]; rfl⟩

theorem Standing.perform (h : Standing source policy session) (operation : Operation) :
    Standing source policy (session.perform operation).1 :=
  perform_keeps (fun _ => .next) (fun _ => .rewind) (fun _ text h => h.reserve text)
    (fun _ => .clear) h operation

theorem Standing.source_eq (h : Standing source policy session) : session.source = source := by
  obtain ⟨passed, ahead, hcursor, hsource⟩ := h.cursor
  rw [Session.source, hcursor, Cursor.between_source, ← hsource, String.ofList_toList]

theorem Standing.run (h : Standing source policy session) (operations : List Operation) :
    Standing source policy (session.run operations).1 :=
  run_keeps (fun _ operation _ hlater => hlater.perform operation) h

theorem Reachable.standing (h : Reachable source policy session) :
    Standing source policy session := by
  induction h with
  | fresh h => exact h.standing
  | perform _ operation ih => exact ih.perform operation

end Session

end PayoffLexer
