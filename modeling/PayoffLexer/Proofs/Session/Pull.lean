import PayoffLexer.Proofs.Lexer.Lexemes
import PayoffLexer.Proofs.Session.Steps

/-!
# Many tokens at once

Tokens are pulled from a session in the order of the scans of its source, each with the answer that
the policy gives to its scan. The first answer that cuts the work short is the last.
-/

namespace PayoffLexer

open Cursor (between)
open Unicode (isWhiteSpace)

theorem Policy.answer_token {policy : Policy} {scan : Scan} {token : Token}
    (h : policy.answer scan = .ok token) : token = scan.token := by
  obtain ⟨scanned, fault⟩ := scan
  cases policy <;> cases fault <;> cases h <;> rfl

def Policy.Passes (policy : Policy) (scan : Scan) : Prop := policy = .collect ∨ scan.fault = none

theorem Policy.answer_of_passes {policy : Policy} {scan : Scan} (h : policy.Passes scan) :
    policy.answer scan = .ok scan.token := by
  rcases h with rfl | hfault
  · rfl
  · exact policy.answer_faultless hfault

theorem Policy.passes_of_answer {policy : Policy} {scan : Scan} {token : Token}
    (h : policy.answer scan = .ok token) : policy.Passes scan := by
  obtain ⟨scanned, fault⟩ := scan
  cases policy with
  | collect => exact .inl rfl
  | halt =>
    cases fault with
    | none => exact .inr rfl
    | some fault => cases h

/-- Scans are answered with their tokens if the policy lets all of them pass. -/
theorem Policy.answers_eq_ok_iff {policy : Policy} {scans : List Scan} {tokens : List Token} :
    scans.mapM policy.answer = .ok tokens ↔
      (∀ scan ∈ scans, policy.Passes scan) ∧ tokens = scans.map (·.token) := by
  induction scans generalizing tokens with
  | nil =>
    constructor
    · intro h
      cases h
      exact ⟨fun _ h => absurd h List.not_mem_nil, rfl⟩
    · rintro ⟨-, rfl⟩
      rfl
  | cons scan scans ih =>
    rw [List.mapM_cons, List.forall_mem_cons, List.map_cons]
    constructor
    · intro h
      cases hscan : policy.answer scan with
      | error halt =>
        rw [hscan] at h
        cases h
      | ok token =>
        cases hscans : scans.mapM policy.answer with
        | error halt =>
          rw [hscan, hscans] at h
          cases h
        | ok others =>
          rw [hscan, hscans] at h
          cases h
          obtain ⟨hpass, hothers⟩ := ih.mp hscans
          rw [hothers, Policy.answer_token hscan]
          exact ⟨⟨Policy.passes_of_answer hscan, hpass⟩, rfl⟩
    · rintro ⟨⟨hscan, hscans⟩, rfl⟩
      rw [Policy.answer_of_passes hscan, ih.mpr ⟨hscans, rfl⟩]
      rfl

theorem Policy.answers_tokens {policy : Policy} {scans : List Scan} {tokens : List Token}
    (h : scans.mapM policy.answer = .ok tokens) : tokens = scans.map (·.token) :=
  (Policy.answers_eq_ok_iff.mp h).2

theorem Policy.answers_collect (scans : List Scan) :
    scans.mapM Policy.collect.answer = .ok (scans.map (·.token)) :=
  Policy.answers_eq_ok_iff.mpr ⟨fun _ _ => .inl rfl, rfl⟩

/-- The first scan that the policy does not let pass cuts the work short. -/
theorem Policy.answers_eq_error_iff {policy : Policy} {scans : List Scan} {halt : Halt} :
    scans.mapM policy.answer = .error halt ↔
      ∃ passing scan rest, scans = passing ++ scan :: rest ∧
        (∀ scan ∈ passing, policy.Passes scan) ∧ policy.answer scan = .error halt := by
  induction scans with
  | nil =>
    constructor
    · intro h
      cases h
    · rintro ⟨passing, scan, rest, h, -⟩
      simp at h
  | cons scan scans ih =>
    rw [List.mapM_cons]
    constructor
    · intro h
      cases hscan : policy.answer scan with
      | error other =>
        rw [hscan] at h
        cases h
        exact ⟨[], scan, scans, rfl, fun _ h => absurd h List.not_mem_nil, hscan⟩
      | ok token =>
        have hothers : scans.mapM policy.answer = .error halt := by
          rw [hscan] at h
          cases hscans : scans.mapM policy.answer with
          | error other =>
            rw [hscans] at h
            cases h
            rfl
          | ok tokens =>
            rw [hscans] at h
            cases h
        obtain ⟨passing, stopping, rest, rfl, hpass, hstops⟩ := ih.mp hothers
        refine ⟨scan :: passing, stopping, rest, rfl, ?_, hstops⟩
        rw [List.forall_mem_cons]
        exact ⟨Policy.passes_of_answer hscan, hpass⟩
    · rintro ⟨passing, stopping, rest, hsplit, hpass, hstops⟩
      cases passing with
      | nil =>
        cases hsplit
        rw [hstops]
        rfl
      | cons first passing =>
        cases hsplit
        rw [List.forall_mem_cons] at hpass
        rw [Policy.answer_of_passes hpass.1, ih.mpr ⟨passing, stopping, rest, rfl, hpass.2, hstops⟩]
        rfl

theorem Policy.kept_of_error {policy : Policy} {scan : Scan} {halt : Halt}
    (h : policy.answer scan = .error halt) (other : Scan) : policy.kept other = [] := by
  obtain ⟨token, fault⟩ := scan
  cases policy with
  | collect => cases fault <;> cases h
  | halt => rfl

namespace Session

theorem pull_succ (n : Nat) (session : Session) :
    (session.pull (n + 1)).2 =
      session.next.2.bind fun token =>
        if token.isEof then .ok [token] else (session.next.1.pull n).2.map (token :: ·) := by
  rw [pull]
  cases session.next with
  | mk after answer =>
    cases answer with
    | error halt => rfl
    | ok token =>
      dsimp only [Except.bind]
      split
      · rfl
      · cases after.pull n with
        | mk last answers => cases answers <;> rfl

/-- The session after a pull is the one after the last token that was asked for. -/
theorem pull_succ_session (n : Nat) (session : Session) :
    (session.pull (n + 1)).1 =
      match session.next.2 with
      | .error _ => session.next.1
      | .ok token => if token.isEof then session.next.1 else (session.next.1.pull n).1 := by
  rw [pull]
  cases session.next with
  | mk after answer =>
    cases answer with
    | error halt => rfl
    | ok token =>
      dsimp only
      split
      · rfl
      · cases after.pull n with
        | mk last answers => cases answers <;> rfl

theorem iterate_eq (session : Session) :
    session.iterate =
      (session.next.1, session.next.2.map fun token => if token.isEof then none else some token) :=
  rfl

theorem take_eq (n : Nat) (session : Session) :
    session.take n =
      ((session.pull n).1,
        (session.pull n).2.map fun tokens => tokens.filter fun token => !token.isEof) := rfl

theorem count_eq (session : Session) :
    session.count =
      ((session.take session.bound).1, (session.take session.bound).2.map List.length) := rfl

variable {session : Session} {passed ahead : List Char}

/-- What one call for the next token does and which scans are left before it: it finds the end, or
takes a lexeme with the white space before it. -/
inductive Call (session : Session) (passed : List Char) : List Char → List Scan → Prop
  | last {ahead : List Char} (hblank : Blank ahead)
    (hnext : session.next =
      ({ session with lexer := { session.lexer with
          cursor := between (passed ++ ahead) []
          mark := Place.origin.pastAll (passed ++ ahead) } },
        .ok (Scan.finish (passed ++ ahead)).token)) :
    Call session passed ahead [.finish (passed ++ ahead)]
  | more {run rest : List Char} {scan : Scan} {mark : Place} (hrun : run ≠ [])
    (hblank : ¬ Blank (run ++ rest)) (hend : scan.token.isEof = false)
    (hnext : session.next =
      Session.settle { session with lexer := { session.lexer with
          cursor := between (passed ++ run) rest
          mark } } scan) :
    Call session passed (run ++ rest)
      (scan :: scans session.lexer.vocabulary session.lexer.exponents (passed ++ run) rest)

theorem next_call (hcursor : session.lexer.cursor = between passed ahead)
    (hkinds : session.lexer.vocabulary.HasWordKinds) :
    Call session passed ahead
      (scans session.lexer.vocabulary session.lexer.exponents passed ahead) := by
  cases Front.parts session.lexer.exponents ahead with
  | blank hwhite =>
    rw [scans_blank hwhite]
    exact Call.last hwhite (next_of_blank hcursor hwhite)
  | @lexeme white run rest shape hwhite hsolid hrun hlexeme _ =>
    rw [scans_lexeme hwhite hsolid hrun hlexeme, ← List.append_assoc, List.append_assoc passed]
    apply Call.more
    · simp [hrun]
    · obtain ⟨c, tail, rfl⟩ := List.exists_cons_of_ne_nil hrun
      intro hblank
      have hwrong := hblank c (by simp)
      rw [hsolid c List.mem_cons_self] at hwrong
      exact Bool.false_ne_true hwrong
    · have hkind := Scan.taken_kind_ne_endOfInput hkinds (passed ++ white) hlexeme
      simpa [Token.isEof] using hkind
    · rw [next_of_scan hkinds (Lexer.scan_lexeme hcursor hwhite hsolid hrun hlexeme),
        List.append_assoc]

/-- What is pulled from a session are the answers to its first scans. -/
theorem pull_answers (hcursor : session.lexer.cursor = between passed ahead)
    (hkinds : session.lexer.vocabulary.HasWordKinds) (n : Nat) :
    (session.pull n).2 =
      ((scans session.lexer.vocabulary session.lexer.exponents passed ahead).take n).mapM
        session.sink.policy.answer := by
  -- After each token the session stands at the end of its lexeme, with the same words and policy.
  induction n generalizing session passed ahead with
  | zero => rfl
  | succ n ih =>
    have hcall := next_call hcursor hkinds
    generalize scans session.lexer.vocabulary session.lexer.exponents passed ahead = left at hcall ⊢
    rw [pull_succ]
    cases hcall with
    | last hblank hnext =>
      rw [hnext, List.take_succ_cons, List.take_nil, List.mapM_cons]
      cases session.sink.policy <;> rfl
    | @more run rest scan mark hrun hblank hend hnext =>
      have hothers := @ih session.next.1 (passed ++ run) rest
      rw [hnext, settle_lexer, settle_policy] at hothers
      rw [hnext, settle_answer, hothers rfl hkinds, List.take_succ_cons, List.mapM_cons]
      cases hanswer : session.sink.policy.answer scan with
      | error halt => rfl
      | ok token =>
        rw [← Policy.answer_token hanswer] at hend
        simp only [Except.bind, hend, Bool.false_eq_true, if_false]
        rfl

/-- What the sink receives of a pull is what the policy keeps of the scans. -/
theorem pull_diagnostics (hcursor : session.lexer.cursor = between passed ahead)
    (hkinds : session.lexer.vocabulary.HasWordKinds) (n : Nat) :
    (session.pull n).1.sink.diagnostics.toList =
      session.sink.diagnostics.toList ++
        ((scans session.lexer.vocabulary session.lexer.exponents passed ahead).take n).flatMap
          session.sink.policy.kept := by
  induction n generalizing session passed ahead with
  | zero => simp [pull]
  | succ n ih =>
    have hcall := next_call hcursor hkinds
    generalize scans session.lexer.vocabulary session.lexer.exponents passed ahead = left at hcall ⊢
    rw [pull_succ_session]
    cases hcall with
    | last hblank hnext =>
      rw [hnext, List.take_succ_cons, List.take_nil, List.flatMap_singleton,
        Policy.kept_faultless _ rfl, List.append_nil]
      rfl
    | @more run rest scan mark hrun hblank hend hnext =>
      have hothers := @ih session.next.1 (passed ++ run) rest
      rw [hnext, settle_lexer, settle_policy, settle_diagnostics] at hothers
      rw [hnext, settle_answer, List.take_succ_cons, List.flatMap_cons]
      cases hanswer : session.sink.policy.answer scan with
      | error halt =>
        have hnone := Policy.kept_of_error hanswer
        simp [settle_diagnostics, hnone]
      | ok token =>
        rw [← Policy.answer_token hanswer] at hend
        simp only [hend, Bool.false_eq_true, if_false]
        rw [hothers rfl hkinds, List.append_assoc]

section all
variable (hcursor : session.lexer.cursor = between passed ahead)
  (hkinds : session.lexer.vocabulary.HasWordKinds)
include hcursor

theorem take_bound :
    (scans session.lexer.vocabulary session.lexer.exponents passed ahead).take session.bound =
      scans session.lexer.vocabulary session.lexer.exponents passed ahead := by
  have hlength := scans_length_le session.lexer.vocabulary session.lexer.exponents passed ahead
  have hsolid := List.countP_le_length (p := fun c => !isWhiteSpace c) (l := ahead)
  have hbytes := Text.length_le_utf8Len ahead
  rw [bound, hcursor, Cursor.bytesLeft_between, List.take_of_length_le (by omega)]

include hkinds

/-- All tokens that are left of a session are the answers to all its scans. -/
theorem tokenize_answers :
    session.tokenize.2 =
      (scans session.lexer.vocabulary session.lexer.exponents passed ahead).mapM
        session.sink.policy.answer := by
  rw [tokenize, pull_answers hcursor hkinds, take_bound hcursor]

theorem tokenize_diagnostics :
    session.tokenize.1.sink.diagnostics.toList =
      session.sink.diagnostics.toList ++
        (scans session.lexer.vocabulary session.lexer.exponents passed ahead).flatMap
          session.sink.policy.kept := by
  rw [tokenize, pull_diagnostics hcursor hkinds, take_bound hcursor]

end all

end Session

end PayoffLexer
