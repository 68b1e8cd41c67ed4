import PayoffLexer.Proofs.Session.Pull
import PayoffLexer.Proofs.Session.Reachable

/-!
# Progress

A call for the next token moves past a character or finds the end of the source, and once the end is
found nothing moves any more but by a rewind. So the loops over all tokens end of themselves, and
the bound that the session puts on their turns is never met.
-/

namespace PayoffLexer

open Cursor (between)
open String (utf8Len utf8Len_append)
open Unicode (isWhiteSpace)

namespace Session

def FindsEnd (session : Session) : Prop :=
  ∃ token, session.next.2 = .ok token ∧ token.isEof = true

/-- Calls for the next token up to the end of the source, without a bound on their number: the
session after them, and the tokens or the halt that cut them short. -/
inductive Drains : Session → Session → Except Halt (List Token) → Prop
  | last {session after : Session} {token : Token} (hnext : session.next = (after, .ok token))
    (hend : token.isEof = true) : Drains session after (.ok [token])
  | halt {session after : Session} {halt : Halt} (hnext : session.next = (after, .error halt)) :
    Drains session after (.error halt)
  | more {session middle after : Session} {token : Token} {tokens : Except Halt (List Token)}
    (hnext : session.next = (middle, .ok token)) (hend : token.isEof = false)
    (h : Drains middle after tokens) : Drains session after (tokens.map (token :: ·))

/-- Calls of the iterator up to its end, without a bound on their number. -/
inductive Exhausts : Session → Session → Except Halt (List Token) → Prop
  | done {session after : Session} (hiterate : session.iterate = (after, .ok none)) :
    Exhausts session after (.ok [])
  | halt {session after : Session} {halt : Halt}
    (hiterate : session.iterate = (after, .error halt)) : Exhausts session after (.error halt)
  | item {session middle after : Session} {token : Token} {tokens : Except Halt (List Token)}
    (hiterate : session.iterate = (middle, .ok (some token)))
    (h : Exhausts middle after tokens) : Exhausts session after (tokens.map (token :: ·))

/-- How a session over a source goes on with the text `rest` ahead. -/
structure Progress (source : String) (policy : Policy) (session : Session) (rest : String) :
    Prop where
  ends_iff : session.FindsEnd ↔ Blank rest.toList
  advances : ¬ session.FindsEnd →
    session.lexer.cursor.position < session.next.1.lexer.cursor.position
  within : session.lexer.cursor.position ≤ source.utf8ByteSize
  monotone : ∀ operation, operation ≠ .rewind →
    session.lexer.cursor.position ≤ (session.perform operation).1.lexer.cursor.position
  exhausted : session.FindsEnd →
    session.next.1.lexer.cursor.position = source.utf8ByteSize ∧
      session.next.1.lexer.cursor.atEnd = true
  sticky : ∀ token, session.next.2 = .ok token → token.isEof = true →
    ∀ operations, .rewind ∉ operations →
      (session.next.1.run operations).1.lexer.cursor = session.next.1.lexer.cursor ∧
        (session.next.1.run operations).1.next = ((session.next.1.run operations).1, .ok token)
  drains : Drains session session.tokenize.1 session.tokenize.2
  exhausts : Exhausts session (session.take session.bound).1 (session.take session.bound).2
  returns : policy = .collect → ∃ tokens, session.tokenize.2 = .ok tokens
  few : ∀ tokens, session.tokenize.2 = .ok tokens →
    tokens.length ≤ rest.toList.countP (fun c => !isWhiteSpace c) + 1

variable {source : String} {policy : Policy} {session : Session} {passed ahead : List Char}

section call
variable {left : List Scan}

theorem Call.ends_iff (h : Call session passed ahead left) : session.FindsEnd ↔ Blank ahead := by
  cases h with
  | last hblank hnext =>
    refine ⟨fun _ => hblank, fun _ => ⟨(Scan.finish (passed ++ ahead)).token, ?_, rfl⟩⟩
    rw [hnext]
  | more hrun hblank hend hnext =>
    refine ⟨?_, fun h => absurd h hblank⟩
    rintro ⟨token, hanswer, hfound⟩
    rw [hnext, settle_answer] at hanswer
    rw [Policy.answer_token hanswer, hend] at hfound
    exact absurd hfound Bool.false_ne_true

/-- A call that does not find the end leaves the session some characters further on. -/
theorem Call.moves (h : Call session passed ahead left) (hend : ¬ session.FindsEnd) :
    ∃ run rest, run ≠ [] ∧ ahead = run ++ rest ∧
      session.next.1.lexer.cursor = between (passed ++ run) rest := by
  cases h with
  | last hblank hnext => exact absurd ((Call.last hblank hnext).ends_iff.mpr hblank) hend
  | @more run rest _ _ hrun _ _ hnext =>
    refine ⟨run, rest, hrun, rfl, ?_⟩
    rw [hnext, settle_lexer]

theorem Call.finds (h : Call session passed ahead left) (hend : session.FindsEnd) :
    session.next =
      ({ session with lexer := { session.lexer with
          cursor := between (passed ++ ahead) []
          mark := Place.origin.pastAll (passed ++ ahead) } },
        .ok (Scan.finish (passed ++ ahead)).token) := by
  cases h with
  | last hblank hnext => exact hnext
  | more hrun hblank hnot hnext =>
    exact absurd ((Call.more hrun hblank hnot hnext).ends_iff.mp hend) hblank

variable (hcursor : session.lexer.cursor = between passed ahead)
include hcursor

theorem Call.position_lt (h : Call session passed ahead left) (hend : ¬ session.FindsEnd) :
    session.lexer.cursor.position < session.next.1.lexer.cursor.position := by
  obtain ⟨run, rest, hrun, -, hmoved⟩ := h.moves hend
  have hpositive := Text.utf8Len_pos hrun
  rw [hcursor, hmoved, Cursor.between_position, Cursor.between_position, utf8Len_append]
  omega

theorem Call.bytesLeft_lt (h : Call session passed ahead left) (hend : ¬ session.FindsEnd) :
    session.next.1.lexer.cursor.bytesLeft < session.lexer.cursor.bytesLeft := by
  obtain ⟨run, rest, hrun, rfl, hmoved⟩ := h.moves hend
  have hpositive := Text.utf8Len_pos hrun
  rw [hcursor, hmoved, Cursor.bytesLeft_between, Cursor.bytesLeft_between, utf8Len_append]
  omega

theorem Call.position_le (h : Call session passed ahead left) :
    session.lexer.cursor.position ≤ session.next.1.lexer.cursor.position := by
  by_cases hend : session.FindsEnd
  · simp [h.finds hend, hcursor]
  · exact (h.position_lt hcursor hend).le

end call

theorem Standing.position_le_next (h : Standing source policy session) :
    session.lexer.cursor.position ≤ session.next.1.lexer.cursor.position := by
  obtain ⟨passed, ahead, hcursor, -⟩ := h.cursor
  exact (next_call hcursor h.kinds).position_le hcursor

theorem Standing.position_le_perform (h : Standing source policy session) {operation : Operation}
    (hoperation : operation ≠ .rewind) :
    session.lexer.cursor.position ≤ (session.perform operation).1.lexer.cursor.position := by
  have hkeep : Standing source policy (session.perform operation).1 ∧
      session.lexer.cursor.position ≤ (session.perform operation).1.lexer.cursor.position := by
    refine @perform_keeps_of_ne_rewind
      (fun later => Standing source policy later ∧
        session.lexer.cursor.position ≤ later.lexer.cursor.position)
      ?_ ?_ ?_ session ⟨h, Nat.le_refl _⟩ operation hoperation
    · rintro later ⟨hlater, hle⟩
      exact ⟨hlater.next, hle.trans hlater.position_le_next⟩
    · rintro later text ⟨hlater, hle⟩
      refine ⟨hlater.reserve text, ?_⟩
      rwa [reserve_eq]
    · rintro later ⟨hlater, hle⟩
      exact ⟨hlater.clear, hle⟩
  exact hkeep.2

structure AtRest (passed : List Char) (session : Session) : Prop where
  cursor : session.lexer.cursor = between passed []
  mark : session.lexer.mark = Place.origin.pastAll passed

theorem AtRest.next_eq (h : AtRest passed session) :
    session.next = (session, .ok (Scan.finish passed).token) := by
  rw [next_of_blank h.cursor .nil, List.append_nil, ← h.cursor, ← h.mark]

theorem AtRest.perform (h : AtRest passed session) {operation : Operation}
    (hoperation : operation ≠ .rewind) : AtRest passed (session.perform operation).1 := by
  refine perform_keeps_of_ne_rewind ?_ ?_ ?_ h hoperation
  · intro later hlater
    rwa [hlater.next_eq]
  · intro later text hlater
    rw [reserve_eq]
    exact ⟨hlater.cursor, hlater.mark⟩
  · exact fun later hlater => ⟨hlater.cursor, hlater.mark⟩

theorem AtRest.run (h : AtRest passed session) {operations : List Operation}
    (hrewind : .rewind ∉ operations) : AtRest passed (session.run operations).1 := by
  refine run_keeps ?_ h
  intro later operation hmem hlater
  apply hlater.perform
  rintro rfl
  exact hrewind hmem

/-- With a bound above the number of bytes left the bounded loop is the loop without a bound. -/
theorem Standing.pull_drains (h : Standing source policy session) {n : Nat}
    (hn : session.lexer.cursor.bytesLeft < n) :
    Drains session (session.pull n).1 (session.pull n).2 := by
  induction n generalizing session with
  | zero => exact absurd hn (Nat.not_lt_zero _)
  | succ n ih =>
    obtain ⟨passed, ahead, hcursor, -⟩ := h.cursor
    have hless := (next_call hcursor h.kinds).bytesLeft_lt hcursor
    have hstanding := h.next
    rw [pull]
    cases hnext : session.next with
    | mk after answer =>
      rw [hnext] at hless hstanding
      cases answer with
      | error halt => exact .halt hnext
      | ok token =>
        dsimp only at hless hstanding ⊢
        cases hend : token.isEof with
        | true => exact .last hnext hend
        | false =>
          have hmore : ¬ session.FindsEnd := by
            rintro ⟨other, hother, hotherEnd⟩
            rw [hnext] at hother
            cases hother
            rw [hend] at hotherEnd
            exact Bool.false_ne_true hotherEnd
          have hothers := ih hstanding (by have := hless hmore; omega)
          have hdrains := Drains.more hnext hend hothers
          cases hpull : after.pull n with
          | mk last answers =>
            rw [hpull] at hdrains
            cases answers <;> exact hdrains

/-- Whoever takes the tokens from the iterator gets those of the loop but for the end. -/
theorem Drains.exhausts {after : Session} {tokens : Except Halt (List Token)}
    (h : Drains session after tokens) :
    Exhausts session after (tokens.map fun tokens => tokens.filter fun token => !token.isEof) := by
  induction h with
  | @last session after token hnext hend =>
    have hiterate : session.iterate = (after, .ok none) := by
      rw [iterate_eq, hnext]
      simp [Except.map, hend]
    have hexhausts := Exhausts.done hiterate
    simpa [Except.map, hend] using hexhausts
  | @halt session after halt hnext =>
    have hiterate : session.iterate = (after, .error halt) := by
      rw [iterate_eq, hnext]
      rfl
    exact .halt hiterate
  | @more session middle after token tokens hnext hend _ ih =>
    have hiterate : session.iterate = (middle, .ok (some token)) := by
      rw [iterate_eq, hnext]
      simp [Except.map, hend]
    have hexhausts := Exhausts.item hiterate ih
    cases tokens with
    | error halt => exact hexhausts
    | ok tokens => simpa [Except.map, hend] using hexhausts

/-- From every reachable session each call makes progress until the end is found, and the end is
found again and again. -/
theorem reachable_progress (h : Reachable source policy session) :
    ∃ rest, session.lexer.cursor.remaining? = some rest ∧
      Progress source policy session rest := by
  have hstanding := h.standing
  obtain ⟨passed, ahead, hcursor, hsource⟩ := hstanding.cursor
  have hcall := next_call hcursor hstanding.kinds
  have hbytes : utf8Len (passed ++ ahead) = source.utf8ByteSize := by
    rw [← hsource, Text.utf8Len_toList]
  have hanswers := tokenize_answers hcursor hstanding.kinds
  rw [hstanding.policy] at hanswers
  refine ⟨String.ofList ahead, ?_, ?_⟩
  · rw [hcursor, Cursor.remaining?_between]
  constructor
  · rw [String.toList_ofList]
    exact hcall.ends_iff
  · exact hcall.position_lt hcursor
  · rw [hcursor, Cursor.between_position, ← hbytes, utf8Len_append]
    omega
  · exact fun operation hoperation => hstanding.position_le_perform hoperation
  · intro hend
    rw [hcall.finds hend, Cursor.between_position, hbytes]
    exact ⟨rfl, by simp⟩
  · intro token hnext hend operations hrewind
    have hfinds := hcall.finds ⟨token, hnext, hend⟩
    have hrest : AtRest (passed ++ ahead) session.next.1 := by
      rw [hfinds]
      exact ⟨rfl, rfl⟩
    have hlater := hrest.run hrewind
    rw [hfinds, Except.ok.injEq] at hnext
    rw [← hnext]
    exact ⟨hlater.cursor.trans hrest.cursor.symm, hlater.next_eq⟩
  · exact hstanding.pull_drains (Nat.lt_succ_self _)
  · exact (hstanding.pull_drains (Nat.lt_succ_self _)).exhausts
  · rintro rfl
    exact ⟨_, hanswers.trans (Policy.answers_collect _)⟩
  · intro tokens htokens
    rw [Policy.answers_tokens (hanswers.symm.trans htokens), List.length_map,
      String.toList_ofList]
    exact scans_length_le _ _ passed ahead

theorem reachable_progress_second :
    ∃ rest, ((start "x \x00.e\u2003" .collect).perform .next).1.lexer.cursor.remaining? =
        some rest ∧
      Progress "x \x00.e\u2003" .collect
        ((start "x \x00.e\u2003" .collect).perform .next).1 rest :=
  reachable_progress ((Reachable.fresh .start).perform .next)

end Session

end PayoffLexer
