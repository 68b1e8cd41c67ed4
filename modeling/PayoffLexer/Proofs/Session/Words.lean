import PayoffLexer.Proofs.Session.Reachable
import PayoffLexer.Proofs.Vocabulary.Lookup

/-!
# The words of a session

A session knows the words it was opened with and those whose reservation was accepted since. No
other operation touches them, and none at all the choice about exponents.
-/

namespace PayoffLexer

/-- The text that an operation with this answer has reserved. -/
def Operation.reserved? : Operation → Answer → Option String
  | .reserve text, .accepted => some text
  | _, _ => none

def Operation.word? : Operation → Option String
  | .reserve text => if isWord text then some text else none
  | _ => none

namespace Session

def reservedBy (session : Session) (operations : List Operation) : List String :=
  (operations.zip (session.run operations).2).filterMap fun call => call.1.reserved? call.2

variable {source : String} {policy : Policy}

theorem reservedBy_cons (session : Session) (operation : Operation)
    (operations : List Operation) :
    session.reservedBy (operation :: operations) =
      (operation.reserved? (session.perform operation).2).toList ++
        (session.perform operation).1.reservedBy operations := by
  rw [reservedBy, run, List.zip_cons_cons, List.filterMap_cons]
  cases operation.reserved? (session.perform operation).2 <;> rfl

/-- Whether a text is reserved depends on nothing but the text. -/
theorem reserved?_perform (session : Session) (operation : Operation) :
    operation.reserved? (session.perform operation).2 = operation.word? := by
  cases operation with
  | reserve text =>
    rw [perform, reserve, Vocabulary.reserve, Operation.word?]
    cases isWord text <;> rfl
  | _ => rfl

theorem reservedBy_eq (session : Session) (operations : List Operation) :
    session.reservedBy operations = operations.filterMap Operation.word? := by
  induction operations generalizing session with
  | nil => rfl
  | cons operation operations ih =>
    rw [reservedBy_cons, reserved?_perform, ih, List.filterMap_cons]
    cases operation.word? <;> rfl

theorem reservedBy_reserve (session other : Session) (operations : List Operation) :
    other.reservedBy ((session.reservedBy operations).map .reserve) =
      session.reservedBy operations := by
  have hword : ∀ operation : Operation,
      (operation.word?.bind fun word => (Operation.reserve word).word?) = operation.word? := by
    intro operation
    cases operation with
    | reserve text => by_cases hword : isWord text <;> simp [Operation.word?, hword]
    | _ => rfl
  rw [reservedBy_eq, reservedBy_eq, List.filterMap_map, List.filterMap_filterMap]
  exact List.filterMap_congr fun operation _ => hword operation

theorem configure_eq_find (source : String) (policy : Policy) (settings : Settings) :
    configure source policy settings =
      match settings.keywords.find? fun word => !isWord word with
      | none =>
        .ok ⟨.start source (Vocabulary.standard.addAll settings.keywords) settings.exponents,
          .empty policy, #[.ofSettings settings]⟩
      | some word => .error (.invalidKeyword word) := by
  rw [configure_eq, Settings.vocabulary_eq]
  cases settings.keywords.find? fun word => !isWord word <;> rfl

theorem configure_of_words (source : String) (policy : Policy) {settings : Settings}
    (hwords : ∀ word ∈ settings.keywords, isWord word = true) :
    configure source policy settings =
      .ok ⟨.start source (Vocabulary.standard.addAll settings.keywords) settings.exponents,
        .empty policy, #[.ofSettings settings]⟩ := by
  have hnone : (settings.keywords.find? fun word => !isWord word) = none := by simpa using hwords
  rw [configure_eq_find, hnone]

theorem next_vocabulary (session : Session) :
    session.next.1.lexer.vocabulary = session.lexer.vocabulary := by
  rw [next_lexer, Lexer.scan]
  split <;> rfl

theorem next_exponents (session : Session) :
    session.next.1.lexer.exponents = session.lexer.exponents := by
  rw [next_lexer, Lexer.scan]
  split <;> rfl

theorem perform_exponents (session : Session) (operation : Operation) :
    (session.perform operation).1.lexer.exponents = session.lexer.exponents := by
  refine @perform_keeps (fun later => later.lexer.exponents = session.lexer.exponents)
    ?_ ?_ ?_ ?_ session rfl operation
  · exact fun later h => (next_exponents later).trans h
  · exact fun later h => h
  · intro later text h
    rw [reserve_eq]
    exact h
  · exact fun later h => h

theorem perform_vocabulary (session : Session) (operation : Operation) :
    (session.perform operation).1.lexer.vocabulary =
      session.lexer.vocabulary.addAll
        (operation.reserved? (session.perform operation).2).toList := by
  cases operation with
  | reserve text =>
    rw [perform, reserve]
    cases hreserve : session.lexer.vocabulary.reserve text with
    | error error => rfl
    | ok vocabulary => exact Vocabulary.eq_add_of_reserve hreserve
  | _ =>
    refine @perform_keeps_of (fun later => later.lexer.vocabulary = session.lexer.vocabulary)
      ?_ session rfl _ (fun _ => rfl) (fun _ h => (by cases h)) (fun _ => rfl)
    exact fun later h => (next_vocabulary later).trans h

theorem run_exponents (session : Session) (operations : List Operation) :
    (session.run operations).1.lexer.exponents = session.lexer.exponents :=
  @run_keeps (fun later => later.lexer.exponents = session.lexer.exponents) operations
    (fun later operation _ h => (perform_exponents later operation).trans h) session rfl

theorem run_vocabulary (session : Session) (operations : List Operation) :
    (session.run operations).1.lexer.vocabulary =
      session.lexer.vocabulary.addAll (session.reservedBy operations) := by
  induction operations generalizing session with
  | nil => rfl
  | cons operation operations ih =>
    have hothers := ih (session.perform operation).1
    rw [perform_vocabulary] at hothers
    rw [reservedBy_cons, Vocabulary.addAll_append]
    exact hothers

/-- The words of a fresh session are those of the language and some that were added. -/
theorem Fresh.vocabulary {session : Session} (h : Fresh source policy session) :
    ∃ words, session.lexer.vocabulary = Vocabulary.standard.addAll words := by
  induction h with
  | start => exact ⟨[], rfl⟩
  | @configure settings session h =>
    rw [configure_eq_find] at h
    split at h
    · cases h
      exact ⟨settings.keywords, rfl⟩
    · cases h
  | @reserve session _ text ih =>
    obtain ⟨words, hwords⟩ := ih
    rw [Session.reserve]
    cases hreserve : session.lexer.vocabulary.reserve text with
    | error error => exact ⟨words, hwords⟩
    | ok vocabulary =>
      refine ⟨words ++ [text], ?_⟩
      rw [Vocabulary.addAll_append, ← hwords]
      exact Vocabulary.eq_add_of_reserve hreserve

end Session

end PayoffLexer
