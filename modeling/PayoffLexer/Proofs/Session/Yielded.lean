import PayoffLexer.Proofs.Reports
import PayoffLexer.Proofs.Session.Pull

/-!
# The tokens that a session yields

Whatever a user asks of a session, the tokens in the answer are those of scans of the source. So
what holds of each lexeme and of the end holds of all tokens that a run yields.
-/

namespace PayoffLexer

theorem Answer.exists_of_yielded {α : Type} {answer : α → Answer} {result : Except Halt α}
    {token : Token} (h : token ∈ (ofResult answer result).yielded) :
    ∃ value, result = .ok value ∧ token ∈ (answer value).yielded := by
  cases result with
  | error halt => cases h
  | ok value => exact ⟨value, rfl, h⟩

theorem exists_of_map_ok {α β : Type} {f : α → β} {result : Except Halt α} {value : β}
    (h : result.map f = .ok value) : ∃ first, result = .ok first ∧ f first = value := by
  cases result with
  | error halt => cases h
  | ok first =>
    cases h
    exact ⟨first, rfl, rfl⟩

namespace Session

variable {source : String} {policy : Policy} {session : Session} {token : Token}

theorem pull_one (h : session.next.2 = .ok token) : (session.pull 1).2 = .ok [token] := by
  rw [pull_succ, h]
  dsimp only [Except.bind]
  split <;> rfl

/-- Whatever the operation, its tokens are among some that are pulled from the session. -/
theorem pulled_of_yielded {operation : Operation}
    (h : token ∈ (session.perform operation).2.yielded) :
    ∃ n tokens, (session.pull n).2 = .ok tokens ∧ token ∈ tokens := by
  cases operation with
  | next =>
    obtain ⟨found, hnext, hmem⟩ := Answer.exists_of_yielded h
    exact ⟨1, [found], pull_one hnext, hmem⟩
  | iterate =>
    obtain ⟨item, hitem, hmem⟩ := Answer.exists_of_yielded h
    obtain ⟨found, hnext, rfl⟩ := exists_of_map_ok hitem
    refine ⟨1, [found], pull_one hnext, ?_⟩
    cases hend : found.isEof with
    | true => simp [Answer.yielded, hend] at hmem
    | false => simpa [Answer.yielded, hend] using hmem
  | take n =>
    obtain ⟨others, htake, hmem⟩ := Answer.exists_of_yielded h
    obtain ⟨tokens, hpull, rfl⟩ := exists_of_map_ok htake
    exact ⟨n, tokens, hpull, List.mem_of_mem_filter hmem⟩
  | tokenize =>
    obtain ⟨tokens, hpull, hmem⟩ := Answer.exists_of_yielded h
    exact ⟨session.bound, tokens, hpull, hmem⟩
  | count =>
    obtain ⟨number, -, hmem⟩ := Answer.exists_of_yielded h
    cases hmem
  | reserve text =>
    rw [perform, reserve] at h
    cases hreserve : session.lexer.vocabulary.reserve text <;> rw [hreserve] at h <;> cases h
  | rewind | source | diagnostics | reports | clear | kindOf word | isReserved word
  | vocabularySize | isVocabularyEmpty => cases h

/-- The token is that of a lexeme of the source, or the end of the source. -/
inductive Scanned (source : String) (session : Session) : Token → Prop
  | lexeme {scan : Scan}
    (h : scan.IsLexeme session.lexer.vocabulary session.lexer.exponents source.toList) :
    Scanned source session scan.token
  | eof : Scanned source session (Scan.finish source.toList).token

theorem Standing.scanned_of_pulled (h : Standing source policy session) {n : Nat}
    {tokens : List Token} (hpull : (session.pull n).2 = .ok tokens) :
    ∀ token ∈ tokens, Scanned source session token := by
  obtain ⟨passed, ahead, hcursor, hsource⟩ := h.cursor
  rw [pull_answers hcursor h.kinds] at hpull
  rw [Policy.answers_tokens hpull]
  intro token htoken
  obtain ⟨scan, hscan, rfl⟩ := List.mem_map.mp htoken
  have hscanned := isLexeme_or_finish (List.mem_of_mem_take hscan)
  rw [← hsource] at hscanned
  rcases hscanned with hlexeme | rfl
  · exact .lexeme hlexeme
  · exact .eof

theorem Standing.scanned_of_yielded (h : Standing source policy session) {operation : Operation}
    (htoken : token ∈ (session.perform operation).2.yielded) : Scanned source session token := by
  obtain ⟨n, tokens, hpull, hmem⟩ := pulled_of_yielded htoken
  exact h.scanned_of_pulled hpull token hmem

/-- What holds of every token that is scanned holds of all tokens in the answers of a run. -/
theorem Standing.forall_yielded {Has : Token → Prop}
    (hscanned : ∀ session, Standing source policy session →
      ∀ token, Scanned source session token → Has token)
    (h : Standing source policy session) (operations : List Operation) :
    ∀ answer ∈ (session.run operations).2, ∀ token ∈ answer.yielded, Has token := by
  induction operations generalizing session with
  | nil => exact fun _ hanswer => absurd hanswer List.not_mem_nil
  | cons operation operations ih =>
    rw [Session.run, List.forall_mem_cons]
    refine ⟨fun token htoken => ?_, ih (h.perform operation)⟩
    exact hscanned session h token (h.scanned_of_yielded htoken)

end Session

end PayoffLexer
