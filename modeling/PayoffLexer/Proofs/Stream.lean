import PayoffLexer.Proofs.Progress
import PayoffLexer.Proofs.Session.Alike

/-!
# One stream for all who take tokens

However the tokens of a session are taken, one at a time, from the iterator, some at once, all that
are left or only counted, they come from one stream: each token goes to one taker, in order, and
none is lost where one takes over from another.
-/

namespace PayoffLexer

inductive Consumer
  | next
  | iterate
  | take (n : Nat)
  | count
  | tokenize

namespace Consumer

def operation : Consumer → Operation
  | next => .next
  | iterate => .iterate
  | take n => .take n
  | count => .count
  | tokenize => .tokenize

/-- What an answer tells: the tokens that it stands for, without the end of the source, and whether
the source has come to its end. A count stands for as many tokens as it says. -/
inductive Tells : Consumer → Answer → List Token → Bool → Prop
  | next {token : Token} (h : token.isEof = false) : Tells .next (.token token) [token] false
  | nextEnd {token : Token} (h : token.isEof = true) : Tells .next (.token token) [] true
  | iterate (item : Option Token) : Tells .iterate (.item item) item.toList item.isNone
  | take (n : Nat) (tokens : List Token) :
    Tells (.take n) (.tokens tokens) tokens (tokens.length < n)
  | count (tokens : List Token) : Tells .count (.number tokens.length) tokens true
  | tokenize (tokens : List Token) :
    Tells .tokenize (.tokens tokens) (tokens.filter fun token => !token.isEof) true

/-- What the answers to one consumer after another tell: all their tokens in order, and whether any
has seen the end of the source. -/
inductive TellAll : List Consumer → List Answer → List Token → Bool → Prop
  | nil : TellAll [] [] [] false
  | cons {consumer : Consumer} {consumers : List Consumer} {answer : Answer}
    {answers : List Answer} {tokens others : List Token} {ends laterEnds : Bool}
    (h : consumer.Tells answer tokens ends) (hs : TellAll consumers answers others laterEnds) :
    TellAll (consumer :: consumers) (answer :: answers) (tokens ++ others) (ends || laterEnds)

end Consumer

/-- Consumers of a stream have been given its front, the rest is left, and it is empty if any of
them has seen the end. To take `n` more gives and uses up the next `n`, or all if fewer are left. -/
structure Consumed (stream : List Token) (consumers : List Consumer)
    (result : Session × List Answer) (given left : List Token) (ended : Bool) : Prop where
  answers : Consumer.TellAll consumers result.2 given ended
  whole : given ++ left = stream
  complete : ended = true → left = []
  taking : ∀ n, (result.1.take n).2 = .ok (left.take n) ∧
    (result.1.take n).1.count.2 = .ok (left.length - min n left.length)

namespace Session

/-- The session gives these tokens one after another, and then the end of the source for ever. -/
inductive Yields : Session → List Token → Prop
  | rest {session : Session} {eof : Token} (hnext : session.next = (session, .ok eof))
    (hend : eof.isEof = true) : Yields session []
  | last {session after : Session} {eof : Token} (hnext : session.next = (after, .ok eof))
    (hend : eof.isEof = true) (h : Yields after []) : Yields session []
  | more {session after : Session} {token : Token} {tokens : List Token}
    (hnext : session.next = (after, .ok token)) (hend : token.isEof = false)
    (h : Yields after tokens) : Yields session (token :: tokens)

/-- How a stream of tokens goes on after an answer to a call for the next one. -/
inductive Supplies (after : Session) : Except Halt Token → List Token → Prop
  | eof {eof : Token} (hend : eof.isEof = true) (h : Yields after []) : Supplies after (.ok eof) []
  | token {token : Token} {tokens : List Token} (hend : token.isEof = false)
    (h : Yields after tokens) : Supplies after (.ok token) (token :: tokens)

variable {source : String} {policy : Policy} {session : Session} {tokens : List Token}

theorem Yields.next (h : Yields session tokens) :
    Supplies session.next.1 session.next.2 tokens := by
  cases h with
  | rest hnext hend =>
    have hagain := Yields.rest hnext hend
    rw [hnext]
    exact .eof hend hagain
  | last hnext hend h =>
    rw [hnext]
    exact .eof hend h
  | more hnext hend h =>
    rw [hnext]
    exact .token hend h

theorem Yields.pull (h : Yields session tokens) (n : Nat) :
    ∃ pulled, (session.pull n).2 = .ok pulled ∧
      (pulled.filter fun token => !token.isEof) = tokens.take n ∧
      Yields (session.pull n).1 (tokens.drop n) := by
  induction n generalizing session tokens with
  | zero => exact ⟨[], rfl, by simp, h⟩
  | succ n ih =>
    have hnext := h.next
    rw [pull_succ, pull_succ_session]
    cases hstep : session.next with
    | mk after answer =>
      rw [hstep] at hnext
      cases hnext with
      | @eof eof hend hafter =>
        simp only [Except.bind, hend, if_true]
        exact ⟨[eof], rfl, by simp [hend], hafter⟩
      | @token token tokens hend hafter =>
        obtain ⟨pulled, hpull, hpulled, hothers⟩ := ih hafter
        simp only [Except.bind, hend, Bool.false_eq_true, if_false, hpull]
        exact ⟨token :: pulled, rfl, by simp [hend, hpulled], hothers⟩

theorem Yields.take (h : Yields session tokens) (n : Nat) :
    (session.take n).2 = .ok (tokens.take n) ∧ Yields (session.take n).1 (tokens.drop n) := by
  obtain ⟨pulled, hpull, hpulled, hafter⟩ := h.pull n
  rw [take_eq, hpull, ← hpulled]
  exact ⟨rfl, hafter⟩

theorem Drains.yields {after : Session} {result : Except Halt (List Token)}
    (hdrains : Drains session after result) (h : Yields session tokens) :
    ∃ all, result = .ok all ∧ (all.filter fun token => !token.isEof) = tokens ∧
      Yields after [] := by
  induction hdrains generalizing tokens with
  | @last session after token hnext hend =>
    have hsupplies := h.next
    rw [hnext] at hsupplies
    cases hsupplies with
    | eof _ hafter => exact ⟨[token], rfl, by simp [hend], hafter⟩
    | token hmore _ => exact absurd (hmore.symm.trans hend) Bool.false_ne_true
  | halt hnext =>
    have hsupplies := h.next
    rw [hnext] at hsupplies
    cases hsupplies
  | @more session middle after token result hnext hmore _ ih =>
    have hsupplies := h.next
    rw [hnext] at hsupplies
    cases hsupplies with
    | eof hend _ => exact absurd (hmore.symm.trans hend) Bool.false_ne_true
    | token _ hafter =>
      obtain ⟨all, rfl, hall, hrest⟩ := ih hafter
      exact ⟨token :: all, rfl, by simp [hmore, hall], hrest⟩

theorem Yields.tokenize (h : Yields session tokens) (hstanding : Standing source policy session) :
    ∃ all, session.tokenize.2 = .ok all ∧
      (all.filter fun token => !token.isEof) = tokens ∧ Yields session.tokenize.1 [] :=
  (hstanding.pull_drains (Nat.lt_succ_self _)).yields h

theorem Yields.count (h : Yields session tokens) (hstanding : Standing source policy session) :
    session.count.2 = .ok tokens.length ∧ Yields session.count.1 [] := by
  obtain ⟨all, hall, hfilter, hafter⟩ := h.tokenize hstanding
  rw [Session.tokenize] at hall hafter
  rw [count_eq, take_eq, hall, ← hfilter]
  exact ⟨rfl, hafter⟩

theorem Yields.perform (h : Yields session tokens) (hstanding : Standing source policy session)
    (consumer : Consumer) :
    ∃ given left ends, given ++ left = tokens ∧
      consumer.Tells (session.perform consumer.operation).2 given ends ∧
      (ends = true → left = []) ∧ Yields (session.perform consumer.operation).1 left := by
  cases consumer <;>
    simp only [Consumer.operation, Session.perform, Prod.map_fst, Prod.map_snd, id_eq]
  case next =>
    have hnext := h.next
    generalize session.next.1 = after, session.next.2 = answer at hnext ⊢
    cases hnext with
    | eof hend hafter => exact ⟨[], [], true, rfl, .nextEnd hend, fun _ => rfl, hafter⟩
    | token hend hafter => exact ⟨_, _, false, rfl, .next hend, by simp, hafter⟩
  case iterate =>
    rw [iterate_eq]
    have hnext := h.next
    generalize session.next.1 = after, session.next.2 = answer at hnext ⊢
    cases hnext with
    | eof hend hafter =>
      simp only [Except.map, hend, if_true]
      exact ⟨[], [], true, rfl, .iterate none, fun _ => rfl, hafter⟩
    | @token token tokens hend hafter =>
      simp only [Except.map, hend, Bool.false_eq_true, if_false]
      exact ⟨[token], tokens, false, rfl, .iterate (some token), by simp, hafter⟩
  case take n =>
    obtain ⟨htake, hafter⟩ := h.take n
    rw [htake]
    refine ⟨tokens.take n, tokens.drop n, _, List.take_append_drop n tokens, .take n _, ?_, hafter⟩
    -- Fewer tokens than were asked for are all that there are.
    intro hfew
    simp only [List.length_take, decide_eq_true_eq] at hfew
    rw [List.drop_eq_nil_iff]
    omega
  case count =>
    obtain ⟨hcount, hafter⟩ := h.count hstanding
    rw [hcount]
    exact ⟨tokens, [], true, by simp, .count tokens, fun _ => rfl, hafter⟩
  case tokenize =>
    obtain ⟨all, hall, rfl, hafter⟩ := h.tokenize hstanding
    rw [hall]
    exact ⟨_, [], true, by simp, .tokenize all, fun _ => rfl, hafter⟩

theorem Yields.run (h : Yields session tokens) (hstanding : Standing source policy session)
    (consumers : List Consumer) :
    ∃ given left ended, given ++ left = tokens ∧
      Consumer.TellAll consumers (session.run (consumers.map Consumer.operation)).2 given ended ∧
      (ended = true → left = []) ∧
      Yields (session.run (consumers.map Consumer.operation)).1 left := by
  induction consumers generalizing session tokens with
  | nil => exact ⟨[], tokens, false, rfl, .nil, by simp, h⟩
  | cons consumer consumers ih =>
    obtain ⟨given, middle, ends, rfl, htells, hends, hmiddle⟩ := h.perform hstanding consumer
    obtain ⟨others, left, laterEnds, rfl, hothers, hlater, hleft⟩ :=
      ih hmiddle (hstanding.perform consumer.operation)
    refine ⟨given ++ others, left, ends || laterEnds, by simp, .cons htells hothers, ?_, hleft⟩
    rw [Bool.or_eq_true]
    rintro (hend | hend)
    · exact (List.append_eq_nil_iff.mp (hends hend)).2
    · exact hlater hend

/-- If its policy lets all scans pass, a session yields their tokens. -/
theorem yields_scans {passed ahead : List Char} {left : List Scan}
    (hcursor : session.lexer.cursor = Cursor.between passed ahead)
    (hkinds : session.lexer.vocabulary.HasWordKinds)
    (hleft : scans session.lexer.vocabulary session.lexer.exponents passed ahead = left)
    (hpass : ∀ scan ∈ left, session.sink.policy.Passes scan) :
    Yields session ((left.map (·.token)).filter fun token => !token.isEof) := by
  induction left generalizing session passed ahead with
  | nil =>
    obtain ⟨lexemes, hscans, -⟩ := scans_eq_lexemes_finish session.lexer.vocabulary
      session.lexer.exponents passed ahead
    rw [hleft] at hscans
    simp at hscans
  | cons scan others ih =>
    have hcall := next_call hcursor hkinds
    rw [hleft] at hcall
    rw [List.forall_mem_cons] at hpass
    cases hcall with
    | last hblank hnext =>
      have hrest : AtRest (passed ++ ahead) session.next.1 := by
        rw [hnext]
        exact ⟨rfl, rfl⟩
      have hagain := hrest.next_eq
      rw [hnext] at hagain
      exact .last hnext rfl (.rest hagain rfl)
    | @more run rest _ mark hrun hblank hend hnext =>
      have hafter := @ih session.next.1 (passed ++ run) rest
      rw [hnext, settle_lexer, settle_policy] at hafter
      have htoken : session.next.2 = .ok scan.token := by
        rw [hnext, settle_answer]
        exact Policy.answer_of_passes hpass.1
      rw [List.map_cons, List.filter_cons_of_pos (by simp [hend])]
      refine .more (Prod.ext rfl htoken) hend ?_
      rw [hnext]
      exact hafter rfl hkinds rfl hpass.2

/-- The tokens of a source in one stream: whoever takes them from a fresh session, and in whatever
order, is given what a single list of all tokens holds. -/
theorem run_consumed (h : Fresh source policy session) :
    (policy = .collect → ∃ tokens, session.tokenize.2 = .ok tokens) ∧
      ∀ tokens, session.tokenize.2 = .ok tokens → ∀ consumers, ∃ given left ended,
        Consumed (tokens.filter fun token => !token.isEof) consumers
          (session.run (consumers.map Consumer.operation)) given left ended := by
  constructor
  · rintro rfl
    exact h.tokenize_collect
  · intro tokens htokens consumers
    obtain ⟨hpass, rfl⟩ := h.tokenize_eq_ok_iff.mp htokens
    obtain ⟨hcursor, hkinds, hsink⟩ := h.opening
    have hyields := yields_scans hcursor hkinds rfl (by rw [hsink]; exact hpass)
    obtain ⟨given, left, ended, hwhole, htell, hended, hafter⟩ := hyields.run h.standing consumers
    refine ⟨given, left, ended, htell, hwhole, hended, fun n => ?_⟩
    have hstanding := h.standing.run (consumers.map Consumer.operation)
    obtain ⟨htake, hdrop⟩ := hafter.take n
    refine ⟨htake, ?_⟩
    rw [(hdrop.count (hstanding.perform (.take n))).1, List.length_drop]
    congr 1
    omega

theorem run_consumed_interleaved :
    ∃ tokens, (start "x:=1..2 $\r\nMAX(y) " .collect).tokenize.2 = .ok tokens ∧
      ∃ given left ended,
        Consumed (tokens.filter fun token => !token.isEof)
          [.iterate, .take 2, .next, .take 0, .count, .take 3, .next, .tokenize]
          ((start "x:=1..2 $\r\nMAX(y) " .collect).run
            ([.iterate, .take 2, .next, .take 0, .count, .take 3, .next, .tokenize].map
              Consumer.operation)) given left ended := by
  have hconsumed := run_consumed (@Fresh.start "x:=1..2 $\r\nMAX(y) " .collect)
  obtain ⟨tokens, htokens⟩ := hconsumed.1 rfl
  exact ⟨tokens, htokens, hconsumed.2 tokens htokens _⟩

end Session

end PayoffLexer
