import PayoffLexer.Proofs.Session.Pull
import PayoffLexer.Proofs.Session.Reachable

/-!
# What is reported

A diagnostic is reported when the sink keeps it and also when the sink stops the work at it. In both
cases it is about a lexeme of the source.
-/

namespace PayoffLexer

inductive Faulty (source : String) : Diagnostic → Prop
  | intro {vocabulary : Vocabulary} {exponents : Bool} {scan : Scan} {fault : Fault}
    (hlexeme : scan.IsLexeme vocabulary exponents source.toList)
    (hfault : scan.fault = some fault) : Faulty source (fault.diagnostic scan.token.span)

/-- A sink of the policy stops the work with this halt: at the diagnostic of a lexeme, if it is one
that stops at all. -/
inductive Policy.Stops (source : String) : Policy → Halt → Prop
  | intro {diagnostic : Diagnostic} (hfaulty : Faulty source diagnostic) :
    Stops source .halt (.reported diagnostic)

theorem Policy.answer_error {policy : Policy} {scan : Scan} {halt : Halt}
    (h : policy.answer scan = .error halt) :
    policy = .halt ∧
      ∃ fault, scan.fault = some fault ∧ halt = .reported (fault.diagnostic scan.token.span) := by
  obtain ⟨token, fault⟩ := scan
  cases policy with
  | collect => cases fault <;> cases h
  | halt =>
    cases fault with
    | none => cases h
    | some fault =>
      cases h
      exact ⟨rfl, fault, rfl, rfl⟩

namespace Session

inductive Reported (source : String) : Diagnostic → Prop
  | kept {policy : Policy} {session : Session} {diagnostic : Diagnostic}
    (h : Reachable source policy session) (hkept : diagnostic ∈ session.sink.diagnostics) :
    Reported source diagnostic
  | halted {policy : Policy} {session : Session} {operation : Operation} {diagnostic : Diagnostic}
    (h : Reachable source policy session)
    (hhalted : (session.perform operation).2 = .halted (.reported diagnostic)) :
    Reported source diagnostic

variable {source : String} {policy : Policy} {session moved : Session} {scan : Scan}

theorem Turn.faulty (h : Turn source session moved scan) {fault : Fault}
    (hfault : scan.fault = some fault) : Faulty source (fault.diagnostic scan.token.span) := by
  cases h with
  | finish => cases hfault
  | lexeme _ hsource _ hsolid hrun hlexeme =>
    exact .intro (.intro hsource hsolid hrun hlexeme) hfault

structure Truthful (source : String) (policy : Policy) (session : Session) : Prop where
  standing : Standing source policy session
  faulty : ∀ diagnostic ∈ session.sink.diagnostics, Faulty source diagnostic

theorem Truthful.next (h : Truthful source policy session) :
    Truthful source policy session.next.1 := by
  obtain ⟨moved, scan, hturn, -, -, hsink⟩ := h.standing.next_spec
  constructor
  · exact h.standing.next
  · intro diagnostic hmem
    rw [← Array.mem_toList_iff, hsink, List.mem_append] at hmem
    rcases hmem with hmem | hmem
    · apply h.faulty
      simpa using hmem
    · cases policy with
      | halt => cases hmem
      | collect =>
        rw [Policy.kept_collect, Option.mem_toList] at hmem
        obtain ⟨fault, hfault, rfl⟩ := Option.map_eq_some_iff.mp hmem
        exact hturn.faulty hfault

theorem Truthful.rewind (h : Truthful source policy session) :
    Truthful source policy session.rewind := ⟨h.standing.rewind, h.faulty⟩

theorem Truthful.reserve (h : Truthful source policy session) (text : String) :
    Truthful source policy (session.reserve text).1 := by
  constructor
  · exact h.standing.reserve text
  · rw [reserve_eq]
    exact h.faulty

theorem Truthful.clear (h : Truthful source policy session) :
    Truthful source policy session.clear := by
  constructor
  · exact h.standing.clear
  · simp [Session.clear, Sink.clear, Sink.empty]

theorem Reachable.truthful (h : Reachable source policy session) :
    Truthful source policy session := by
  induction h with
  | fresh h =>
    constructor
    · exact h.standing
    · simp [h.opening.2.2, Sink.empty]
  | perform _ operation ih =>
    exact perform_keeps (fun _ => .next) (fun _ => .rewind) (fun _ text h => h.reserve text)
      (fun _ => .clear) ih operation

theorem next_error (h : Standing source policy session) {halt : Halt}
    (herror : session.next.2 = .error halt) : policy.Stops source halt := by
  obtain ⟨moved, scan, hturn, -, hanswer, -⟩ := h.next_spec
  rw [hanswer] at herror
  obtain ⟨rfl, fault, hfault, rfl⟩ := Policy.answer_error herror
  exact .intro (hturn.faulty hfault)

theorem pull_error (n : Nat) (h : Standing source policy session) {halt : Halt}
    (herror : (session.pull n).2 = .error halt) : policy.Stops source halt := by
  induction n generalizing session with
  | zero => cases herror
  | succ n ih =>
    rw [pull_succ] at herror
    cases hnext : session.next.2 with
    | error other =>
      rw [hnext] at herror
      cases herror
      exact next_error h hnext
    | ok token =>
      rw [hnext] at herror
      dsimp only [Except.bind] at herror
      split at herror
      · cases herror
      · -- The first token was scanned well, so the work stopped at one of the others.
        apply ih h.next
        cases hpull : (session.next.1.pull n).2 with
        | error other =>
          rw [hpull] at herror
          cases herror
          rfl
        | ok tokens =>
          rw [hpull] at herror
          cases herror

theorem ofResult_halted {α : Type} (answer : α → Answer)
    (hanswer : ∀ value halt, answer value ≠ .halted halt) {result : Except Halt α} {halt : Halt}
    (h : Answer.ofResult answer result = .halted halt) : result = .error halt := by
  cases result with
  | error other =>
    cases h
    rfl
  | ok value => exact absurd h (hanswer value halt)

theorem map_error {α β : Type} {f : α → β} {result : Except Halt α} {halt : Halt}
    (h : result.map f = .error halt) : result = .error halt := by
  cases result with
  | error other =>
    cases h
    rfl
  | ok value => cases h

theorem perform_halted (h : Standing source policy session) {operation : Operation} {halt : Halt}
    (hhalted : (session.perform operation).2 = .halted halt) : policy.Stops source halt := by
  cases operation with
  | next => exact next_error h (ofResult_halted .token (by simp) hhalted)
  | iterate => exact next_error h (map_error (ofResult_halted .item (by simp) hhalted))
  | take n => exact pull_error n h (map_error (ofResult_halted .tokens (by simp) hhalted))
  | count =>
    apply pull_error session.bound h
    exact map_error (map_error (ofResult_halted .number (by simp) hhalted))
  | tokenize => exact pull_error session.bound h (ofResult_halted .tokens (by simp) hhalted)
  | reserve text =>
    rw [perform, reserve] at hhalted
    cases hreserve : session.lexer.vocabulary.reserve text <;>
      rw [hreserve] at hhalted <;> cases hhalted
  | rewind | source | diagnostics | reports | clear | kindOf word | isReserved word
  | vocabularySize | isVocabularyEmpty => cases hhalted

theorem Reported.faulty {diagnostic : Diagnostic} (h : Reported source diagnostic) :
    Faulty source diagnostic := by
  cases h with
  | kept h hkept => exact h.truthful.faulty _ hkept
  | halted h hhalted =>
    cases perform_halted h.standing hhalted with
    | intro hfaulty => exact hfaulty

end Session

end PayoffLexer
