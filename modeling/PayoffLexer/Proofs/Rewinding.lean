import PayoffLexer.Proofs.Progress
import PayoffLexer.Proofs.Session.Words

/-!
# A rewound session is a new one

Whatever was done with a session, also where it was cut short, after a rewind it goes on as a new
session over the same source does in which the same words were reserved. All that is left of its
past are the diagnostics in its sink.
-/

namespace PayoffLexer

/-- The answer is the other one, but that it may also show diagnostics from before. -/
inductive Answer.Recalls (source : String) (before : List Diagnostic) : Answer → Answer → Prop
  | same (answer : Answer) : Recalls source before answer answer
  | diagnostics (received : List Diagnostic) :
    Recalls source before (.diagnostics (before ++ received)) (.diagnostics received)
  | reports (received : List Diagnostic) :
    Recalls source before (.texts ((before ++ received).map (·.render source)))
      (.texts (received.map (·.render source)))

theorem Answer.Recalls.of_nil {source : String} {before : List Diagnostic} {answer other : Answer}
    (h : Recalls source [] answer other) : Recalls source before answer other := by
  cases h with
  | same => exact .same _
  | diagnostics received => exact .same _
  | reports received => exact .same _

namespace Session

/-- The session stands where the other does, and has received the same diagnostics after some from
before. -/
structure Alongside (before : List Diagnostic) (session other : Session) : Prop where
  lexer : session.lexer = other.lexer
  policy : session.sink.policy = other.sink.policy
  diagnostics : session.sink.diagnostics.toList = before ++ other.sink.diagnostics.toList

/-- The session with the words that operations would reserve in it, and nothing else done. -/
def prepared (session : Session) (operations : List Operation) : Session :=
  (session.run ((session.reservedBy operations).map .reserve)).1

/-- After a rewind the used session answers further operations as the new one does, comes to the
same place and receives the same diagnostics. A clear of the sink also clears those from before. -/
structure Renews (source : String) (used new : Session) (operations : List Operation) : Prop where
  answers : List.Forall₂ (Answer.Recalls source used.sink.diagnostics.toList)
    (used.rewind.run operations).2 (new.run operations).2
  alongside : Alongside
    (if .clear ∈ operations then [] else used.sink.diagnostics.toList)
    (used.rewind.run operations).1 (new.run operations).1

variable {source : String} {policy : Policy} {session other : Session}
  {before : List Diagnostic}

theorem Alongside.next (h : Alongside before session other)
    (hother : Standing source policy other) :
    session.next.2 = other.next.2 ∧ Alongside before session.next.1 other.next.1 := by
  obtain ⟨moved, scan, -, hscan⟩ := hother.scan
  have hsame : session.lexer.scan = (moved.lexer, some scan) := by rw [h.lexer, hscan]
  have hkinds : session.lexer.vocabulary.HasWordKinds := by
    rw [h.lexer]
    exact hother.kinds
  refine ⟨?_, ?_, ?_, ?_⟩
  · rw [next_answer_of_scan hkinds hsame, next_answer_of_scan hother.kinds hscan, h.policy]
  · rw [next_lexer, next_lexer, h.lexer]
  · rw [next_sink_of_scan hkinds hsame, next_sink_of_scan hother.kinds hscan, h.policy]
  · rw [next_sink_of_scan hkinds hsame, next_sink_of_scan hother.kinds hscan]
    simp [h.policy, h.diagnostics]

theorem Alongside.pull (h : Alongside before session other) (hother : Standing source policy other)
    (n : Nat) :
    (session.pull n).2 = (other.pull n).2 ∧
      Alongside before (session.pull n).1 (other.pull n).1 := by
  induction n generalizing session other with
  | zero => exact ⟨rfl, h⟩
  | succ n ih =>
    obtain ⟨hanswer, hafter⟩ := h.next hother
    obtain ⟨hothers, hlast⟩ := ih hafter hother.next
    rw [pull_succ, pull_succ, pull_succ_session, pull_succ_session, hanswer, hothers]
    refine ⟨rfl, ?_⟩
    cases other.next.2 with
    | error halt => exact hafter
    | ok token =>
      dsimp only
      split
      · exact hafter
      · exact hlast

theorem Alongside.rewind (h : Alongside before session other) :
    Alongside before session.rewind other.rewind := by
  refine ⟨?_, h.policy, h.diagnostics⟩
  change session.lexer.rewind = other.lexer.rewind
  rw [h.lexer]

theorem Alongside.reserve (h : Alongside before session other) (text : String) :
    (session.reserve text).2 = (other.reserve text).2 ∧
      Alongside before (session.reserve text).1 (other.reserve text).1 := by
  rw [Session.reserve, Session.reserve, h.lexer]
  cases other.lexer.vocabulary.reserve text with
  | error error => exact ⟨rfl, h⟩
  | ok vocabulary => exact ⟨rfl, rfl, h.policy, h.diagnostics⟩

theorem Alongside.bound_eq (h : Alongside before session other) : session.bound = other.bound := by
  rw [bound, bound, h.lexer]

theorem Alongside.iterate (h : Alongside before session other)
    (hother : Standing source policy other) :
    session.iterate.2 = other.iterate.2 ∧ Alongside before session.iterate.1 other.iterate.1 := by
  obtain ⟨hanswer, hafter⟩ := h.next hother
  rw [iterate_eq, iterate_eq, hanswer]
  exact ⟨rfl, hafter⟩

theorem Alongside.take (h : Alongside before session other) (hother : Standing source policy other)
    (n : Nat) :
    (session.take n).2 = (other.take n).2 ∧
      Alongside before (session.take n).1 (other.take n).1 := by
  obtain ⟨hanswer, hafter⟩ := h.pull hother n
  rw [take_eq, take_eq, hanswer]
  exact ⟨rfl, hafter⟩

theorem Alongside.count (h : Alongside before session other)
    (hother : Standing source policy other) :
    session.count.2 = other.count.2 ∧ Alongside before session.count.1 other.count.1 := by
  obtain ⟨hanswer, hafter⟩ := h.take hother other.bound
  rw [count_eq, count_eq, h.bound_eq, hanswer]
  exact ⟨rfl, hafter⟩

theorem Alongside.tokenize (h : Alongside before session other)
    (hother : Standing source policy other) :
    session.tokenize.2 = other.tokenize.2 ∧
      Alongside before session.tokenize.1 other.tokenize.1 := by
  rw [Session.tokenize, Session.tokenize, h.bound_eq]
  exact h.pull hother other.bound

theorem Alongside.answered {α : Type} (answer : α → Answer) {result expected : Session × α}
    (h : result.2 = expected.2 ∧ Alongside before result.1 expected.1) :
    Answer.Recalls source before (result.map id answer).2 (expected.map id answer).2 ∧
      Alongside before (result.map id answer).1 (expected.map id answer).1 := by
  rw [Prod.map_snd, Prod.map_snd, h.1]
  exact ⟨.same _, h.2⟩

/-- What is answered to an operation, and what it leaves of the diagnostics from before. -/
theorem Alongside.perform (h : Alongside before session other)
    (hother : Standing source policy other) (operation : Operation) :
    Answer.Recalls source before (session.perform operation).2 (other.perform operation).2 ∧
      Alongside (if operation = .clear then [] else before) (session.perform operation).1
        (other.perform operation).1 := by
  have hsource := hother.source_eq
  have hown : session.source = source := by rw [Session.source, h.lexer, ← hsource, Session.source]
  cases operation with
  | next => exact Alongside.answered _ (h.next hother)
  | iterate => exact Alongside.answered _ (h.iterate hother)
  | take n => exact Alongside.answered _ (h.take hother n)
  | count => exact Alongside.answered _ (h.count hother)
  | tokenize => exact Alongside.answered _ (h.tokenize hother)
  | rewind => exact ⟨.same _, h.rewind⟩
  | reserve text => exact Alongside.answered _ (h.reserve text)
  | clear =>
    refine ⟨.same _, h.lexer, h.policy, ?_⟩
    simp [Session.perform, Session.clear, Sink.clear, Sink.empty]
  | source =>
    rw [Session.perform, Session.perform, hown, hsource]
    exact ⟨.same _, h⟩
  | diagnostics =>
    rw [Session.perform, Session.perform, h.diagnostics]
    exact ⟨.diagnostics _, h⟩
  | reports =>
    rw [Session.perform, Session.perform, h.diagnostics, hown, hsource]
    exact ⟨.reports _, h⟩
  | kindOf word | isReserved word | vocabularySize | isVocabularyEmpty =>
    rw [Session.perform, Session.perform, h.lexer]
    exact ⟨.same _, h⟩

theorem Alongside.run (h : Alongside before session other) (hother : Standing source policy other)
    (operations : List Operation) :
    List.Forall₂ (Answer.Recalls source before) (session.run operations).2
        (other.run operations).2 ∧
      Alongside (if .clear ∈ operations then [] else before) (session.run operations).1
        (other.run operations).1 := by
  induction operations generalizing session other before with
  | nil => exact ⟨.nil, h⟩
  | cons operation operations ih =>
    obtain ⟨hanswer, hafter⟩ := h.perform hother operation
    obtain ⟨hanswers, hlast⟩ := ih hafter (hother.perform operation)
    by_cases hclear : operation = .clear
    · -- After a clear nothing from before is left to be seen.
      subst hclear
      rw [if_pos rfl] at hanswers hlast
      rw [if_pos List.mem_cons_self]
      refine ⟨.cons hanswer (hanswers.imp fun _ _ h => h.of_nil), ?_⟩
      rwa [ite_self] at hlast
    · rw [if_neg hclear] at hanswers hlast
      refine ⟨.cons hanswer hanswers, ?_⟩
      simp only [List.mem_cons, Ne.symm hclear, false_or]
      exact hlast

theorem prepared_vocabulary (session : Session) (history : List Operation) :
    (session.prepared history).lexer.vocabulary = (session.run history).1.lexer.vocabulary := by
  rw [prepared, run_vocabulary, run_vocabulary, reservedBy_reserve]

theorem Fresh.prepared (h : Fresh source policy session) (history : List Operation) :
    Fresh source policy (session.prepared history) := by
  refine run_keeps ?_ h
  intro later operation hmem hlater
  obtain ⟨word, -, rfl⟩ := List.mem_map.mp hmem
  exact hlater.reserve word

theorem Fresh.alongside (h : Fresh source policy session) (history : List Operation) :
    Alongside (session.run history).1.sink.diagnostics.toList (session.run history).1.rewind
      (session.prepared history) := by
  have hnew := h.prepared history
  have hused := h.standing.run history
  obtain ⟨hcursor, -, hsink⟩ := hnew.opening
  refine ⟨?_, ?_, ?_⟩
  · obtain ⟨passed, ahead, hbetween, hsource⟩ := hused.cursor
    have hcursors : (session.run history).1.lexer.cursor.rewind =
        (session.prepared history).lexer.cursor := by
      rw [hcursor, hbetween, Cursor.rewind_between, hsource]
    have hexponents : (session.run history).1.lexer.exponents =
        (session.prepared history).lexer.exponents := by
      rw [Session.prepared, run_exponents, run_exponents]
    change Lexer.mk _ _ _ _ = Lexer.mk _ _ _ _
    rw [hnew.mark, prepared_vocabulary, ← hexponents, ← hcursors]
  · rw [hnew.standing.policy]
    exact hused.policy
  · rw [hsink]
    exact (List.append_nil _).symm

/-- A session that was used in any way and then rewound is as good as new. -/
theorem rewind_renews (h : Fresh source policy session) (history operations : List Operation) :
    Fresh source policy (session.prepared history) ∧
      Renews source (session.run history).1 (session.prepared history) operations := by
  have hnew := h.prepared history
  obtain ⟨hanswers, halongside⟩ := (h.alongside history).run hnew.standing operations
  exact ⟨hnew, hanswers, halongside⟩

theorem rewind_renews_halted :
    Fresh "x 1..2 été" .halt
        ((start "x 1..2 été" .halt).prepared [.next, .reserve "été", .reserve "1", .tokenize]) ∧
      Renews "x 1..2 été"
        ((start "x 1..2 été" .halt).run [.next, .reserve "été", .reserve "1", .tokenize]).1
        ((start "x 1..2 été" .halt).prepared [.next, .reserve "été", .reserve "1", .tokenize])
        [.take 1, .next, .diagnostics, .next, .count] :=
  rewind_renews .start [.next, .reserve "été", .reserve "1", .tokenize]
    [.take 1, .next, .diagnostics, .next, .count]

end Session

end PayoffLexer
