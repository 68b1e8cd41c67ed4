import PayoffLexer.Proofs.Concatenation
import PayoffLexer.Proofs.Halting
import PayoffLexer.Proofs.Session.Words
import PayoffLexer.Proofs.Stream

/-!
# A new start between two tokens

Nothing but the text ahead decides what a session goes on with. A new session over that text gives
whoever takes tokens the same as the old one does, and its spans are smaller by the bytes that the
old one has passed.
-/

namespace PayoffLexer

open Cursor (between)
open String (utf8Len)

/-- Two results are alike if both are values in a relation, or both were cut short by diagnostics
that are alike. -/
inductive ResultAlike (related : Span → Span → Prop) {α : Type} (values : α → α → Prop) :
    Except Halt α → Except Halt α → Prop
  | ok {value other : α} (h : values value other) :
    ResultAlike related values (.ok value) (.ok other)
  | reported {diagnostic other : Diagnostic} (h : diagnostic.Alike related other) :
    ResultAlike related values (.error (.reported diagnostic)) (.error (.reported other))

/-- Two answers are alike if they differ in spans alone, and these are in a relation. -/
inductive Answer.Alike (related : Span → Span → Prop) : Answer → Answer → Prop
  | token {token other : Token} (h : token.Alike related other) :
    Alike related (.token token) (.token other)
  | item {item other : Option Token} (h : Option.Rel (Token.Alike related) item other) :
    Alike related (.item item) (.item other)
  | tokens {tokens others : List Token} (h : List.Forall₂ (Token.Alike related) tokens others) :
    Alike related (.tokens tokens) (.tokens others)
  | number (value : Nat) : Alike related (.number value) (.number value)
  | halted {diagnostic other : Diagnostic} (h : diagnostic.Alike related other) :
    Alike related (.halted (.reported diagnostic)) (.halted (.reported other))

/-- To all consumers the later session gives what the new one does, further on by the offset, and
its sink receives the same diagnostics. -/
structure Continues (offset : Nat) (new later : Session) (consumers : List Consumer) : Prop where
  answers : List.Forall₂ (Answer.Alike (Span.Shifted offset))
    (new.run (consumers.map Consumer.operation)).2
    (later.run (consumers.map Consumer.operation)).2
  diagnostics : ∃ received,
    (later.run (consumers.map Consumer.operation)).1.sink.diagnostics.toList =
      later.sink.diagnostics.toList ++ received ∧
    List.Forall₂ (Diagnostic.Alike (Span.Shifted offset))
      (new.run (consumers.map Consumer.operation)).1.sink.diagnostics.toList received

section alike
variable {related : Span → Span → Prop} {α β : Type} {values : α → α → Prop}
  {others : β → β → Prop}

theorem ResultAlike.map {result other : Except Halt α} (h : ResultAlike related values result other)
    {f g : α → β} (hf : ∀ a b, values a b → others (f a) (g b)) :
    ResultAlike related others (result.map f) (other.map g) := by
  cases h with
  | ok h => exact .ok (hf _ _ h)
  | reported h => exact .reported h

theorem ResultAlike.answer {result other : Except Halt α}
    (h : ResultAlike related values result other) {answer : α → Answer}
    (hanswer : ∀ a b, values a b → Answer.Alike related (answer a) (answer b)) :
    Answer.Alike related (.ofResult answer result) (.ofResult answer other) := by
  cases h with
  | ok h => exact hanswer _ _ h
  | reported h => exact .halted h

theorem Policy.answer_alike (policy : Policy) {scan other : Scan} (h : scan.Alike related other) :
    ResultAlike related (Token.Alike related) (policy.answer scan) (policy.answer other) := by
  obtain ⟨token, fault⟩ := scan
  obtain ⟨otherToken, otherFault⟩ := other
  obtain ⟨htoken, hfault⟩ := h
  dsimp only at htoken hfault
  subst hfault
  cases policy with
  | collect => exact .ok htoken
  | halt =>
    cases otherFault with
    | none => exact .ok htoken
    | some fault => exact .reported ⟨rfl, rfl, rfl, htoken.span⟩

theorem Token.Alike.filter {tokens others : List Token}
    (h : List.Forall₂ (Token.Alike related) tokens others) :
    List.Forall₂ (Token.Alike related) (tokens.filter fun token => !token.isEof)
      (others.filter fun token => !token.isEof) := by
  induction h with
  | nil => exact .nil
  | @cons token other _ _ hhead _ ih =>
    rw [List.filter_cons, List.filter_cons, hhead.isEof_eq]
    split
    · exact .cons hhead ih
    · exact ih

end alike

namespace Session

/-- The later session has passed some characters more than the new one, and else stands where that
does. Its sink has received the same diagnostics after some from before. -/
structure Trails (before : List Char) (earlier : List Diagnostic) (new later : Session) : Prop where
  cursor : ∃ passed ahead, new.lexer.cursor = between passed ahead ∧
    later.lexer.cursor = between (before ++ passed) ahead
  kinds : new.lexer.vocabulary.HasWordKinds
  vocabulary : later.lexer.vocabulary = new.lexer.vocabulary
  exponents : later.lexer.exponents = new.lexer.exponents
  policy : later.sink.policy = new.sink.policy
  diagnostics : ∃ received, later.sink.diagnostics.toList = earlier ++ received ∧
    List.Forall₂ (Diagnostic.Alike (Span.Shifted (utf8Len before))) new.sink.diagnostics.toList
      received

variable {source : String} {policy : Policy} {session new later : Session} {before : List Char}
  {earlier : List Diagnostic}

/-- The sessions stay in step over scans that are alike. -/
theorem Trails.next_of_scans (h : Trails before earlier new later) {lexer moved : Lexer}
    {scan other : Scan} (hnew : new.lexer.scan = (lexer, some scan))
    (hlater : later.lexer.scan = (moved, some other))
    (halike : scan.Alike (Span.Shifted (utf8Len before)) other)
    (hcursor : ∃ passed ahead, lexer.cursor = between passed ahead ∧
      moved.cursor = between (before ++ passed) ahead) :
    ResultAlike (Span.Shifted (utf8Len before)) (Token.Alike (Span.Shifted (utf8Len before)))
        new.next.2 later.next.2 ∧
      Trails before earlier new.next.1 later.next.1 := by
  have hkinds : later.lexer.vocabulary.HasWordKinds := by
    rw [h.vocabulary]
    exact h.kinds
  constructor
  · rw [next_answer_of_scan h.kinds hnew, next_answer_of_scan hkinds hlater, h.policy]
    exact new.sink.policy.answer_alike halike
  obtain ⟨received, hreceived, hdiagnostics⟩ := h.diagnostics
  constructor
  · rw [next_lexer, next_lexer, hnew, hlater]
    exact hcursor
  · rw [next_vocabulary]
    exact h.kinds
  · rw [next_vocabulary, next_vocabulary, h.vocabulary]
  · rw [next_exponents, next_exponents, h.exponents]
  · rw [next_sink_of_scan h.kinds hnew, next_sink_of_scan hkinds hlater]
    exact h.policy
  · refine ⟨received ++ new.sink.policy.kept other, ?_, ?_⟩
    · rw [next_sink_of_scan hkinds hlater, h.policy, Array.toList_appendList, hreceived,
        List.append_assoc]
    · rw [next_sink_of_scan h.kinds hnew, Array.toList_appendList]
      exact List.rel_append hdiagnostics (Policy.kept_alike halike)

theorem Trails.next (h : Trails before earlier new later) :
    ResultAlike (Span.Shifted (utf8Len before)) (Token.Alike (Span.Shifted (utf8Len before)))
        new.next.2 later.next.2 ∧
      Trails before earlier new.next.1 later.next.1 := by
  obtain ⟨passed, ahead, hnew, hlater⟩ := h.cursor
  cases Front.parts new.lexer.exponents ahead with
  | blank hwhite =>
    refine h.next_of_scans (Lexer.scan_blank hnew hwhite) (Lexer.scan_blank hlater hwhite) ?_
      ⟨_, _, rfl, by rw [← List.append_assoc]⟩
    rw [List.append_assoc]
    exact Scan.finish_shifted before _
  | lexeme hwhite hsolid hrun hlexeme _ =>
    have hsame := h.exponents ▸ hlexeme
    refine h.next_of_scans (Lexer.scan_lexeme hnew hwhite hsolid hrun hlexeme)
      (Lexer.scan_lexeme hlater hwhite hsolid hrun hsame) ?_ ⟨_, _, rfl, by simp⟩
    rw [h.vocabulary, List.append_assoc]
    exact Scan.taken_shifted _ before _ _ _

theorem Trails.pull (h : Trails before earlier new later) (n : Nat) :
    ResultAlike (Span.Shifted (utf8Len before))
        (List.Forall₂ (Token.Alike (Span.Shifted (utf8Len before)))) (new.pull n).2
        (later.pull n).2 ∧
      Trails before earlier (new.pull n).1 (later.pull n).1 := by
  induction n generalizing new later with
  | zero => exact ⟨.ok .nil, h⟩
  | succ n ih =>
    obtain ⟨hanswer, hafter⟩ := h.next
    obtain ⟨hothers, hlast⟩ := ih hafter
    rw [pull_succ, pull_succ, pull_succ_session, pull_succ_session]
    generalize new.next.2 = answer, later.next.2 = other at hanswer ⊢
    cases hanswer with
    | reported hdiagnostic => exact ⟨.reported hdiagnostic, hafter⟩
    | @ok token other htoken =>
      simp only [Except.bind, htoken.isEof_eq]
      split
      · exact ⟨.ok (.cons htoken .nil), hafter⟩
      · exact ⟨hothers.map fun _ _ => List.Forall₂.cons htoken, hlast⟩

theorem Trails.bound_eq (h : Trails before earlier new later) : later.bound = new.bound := by
  obtain ⟨passed, ahead, hnew, hlater⟩ := h.cursor
  rw [bound, bound, hnew, hlater, Cursor.bytesLeft_between, Cursor.bytesLeft_between]

theorem Trails.perform (h : Trails before earlier new later) (consumer : Consumer) :
    Answer.Alike (Span.Shifted (utf8Len before)) (new.perform consumer.operation).2
        (later.perform consumer.operation).2 ∧
      Trails before earlier (new.perform consumer.operation).1
        (later.perform consumer.operation).1 := by
  cases consumer with
  | next =>
    obtain ⟨hanswer, hafter⟩ := h.next
    exact ⟨hanswer.answer fun _ _ => .token, hafter⟩
  | iterate =>
    obtain ⟨hanswer, hafter⟩ := h.next
    refine ⟨(hanswer.map ?_).answer fun _ _ => .item, hafter⟩
    intro token other htoken
    rw [htoken.isEof_eq]
    split
    · exact .none
    · exact .some htoken
  | take n =>
    obtain ⟨hanswer, hafter⟩ := h.pull n
    exact ⟨(hanswer.map fun _ _ => Token.Alike.filter).answer fun _ _ => .tokens, hafter⟩
  | count =>
    obtain ⟨hanswer, hafter⟩ := h.pull new.bound
    have hcount := (hanswer.map fun _ _ => Token.Alike.filter).map fun _ _ => List.Forall₂.length_eq
    simp only [Consumer.operation, Session.perform, count_eq, take_eq, h.bound_eq]
    refine ⟨hcount.answer ?_, hafter⟩
    rintro number _ rfl
    exact .number number
  | tokenize =>
    obtain ⟨hanswer, hafter⟩ := h.pull new.bound
    simp only [Consumer.operation, Session.perform, tokenize, h.bound_eq]
    exact ⟨hanswer.answer fun _ _ => .tokens, hafter⟩

theorem Trails.run (h : Trails before earlier new later) (consumers : List Consumer) :
    List.Forall₂ (Answer.Alike (Span.Shifted (utf8Len before)))
        (new.run (consumers.map Consumer.operation)).2
        (later.run (consumers.map Consumer.operation)).2 ∧
      Trails before earlier (new.run (consumers.map Consumer.operation)).1
        (later.run (consumers.map Consumer.operation)).1 := by
  induction consumers generalizing new later with
  | nil => exact ⟨.nil, h⟩
  | cons consumer consumers ih =>
    obtain ⟨hanswer, hafter⟩ := h.perform consumer
    obtain ⟨hanswers, hlast⟩ := ih hafter
    exact ⟨.cons hanswer hanswers, hlast⟩

theorem calls_vocabulary (session : Session) (n : Nat) :
    (session.run (Operation.calls n)).1.lexer.vocabulary = session.lexer.vocabulary := by
  have hnone : (Operation.calls n).filterMap Operation.word? = [] := by
    simp [Operation.calls, Operation.word?]
  rw [run_vocabulary, reservedBy_eq, hnone]
  rfl

/-- After some calls from a fresh session there is text ahead, and a new session over it is trailed
by the old one. -/
theorem Fresh.trails (h : Fresh source policy session) (n : Nat) :
    ∃ passed ahead, source.toList = passed ++ ahead ∧
      (session.run (Operation.calls n)).1.lexer.cursor = between passed ahead ∧
      Trails passed (session.run (Operation.calls n)).1.sink.diagnostics.toList
        (session.withText (String.ofList ahead)) (session.run (Operation.calls n)).1 := by
  have hused := h.standing.run (Operation.calls n)
  obtain ⟨passed, ahead, hcursor, hsource⟩ := hused.cursor
  obtain ⟨-, -, hsink⟩ := h.opening
  obtain ⟨hopening, hkinds, -⟩ := (h.withText (String.ofList ahead)).opening
  rw [String.toList_ofList] at hopening
  refine ⟨passed, ahead, hsource, hcursor, ?_⟩
  constructor
  · exact ⟨[], ahead, hopening, by rw [List.append_nil, hcursor]⟩
  · exact hkinds
  · exact calls_vocabulary session n
  · exact run_exponents session _
  · rw [hused.policy]
    exact h.standing.policy.symm
  · refine ⟨[], (List.append_nil _).symm, ?_⟩
    change List.Forall₂ _ session.sink.diagnostics.toList []
    rw [hsink]
    exact .nil

/-- Wherever calls for tokens have left a session, the text ahead is a text of its own, and a new
session over it with the same words and settings gives what the old one goes on to give. -/
theorem run_restarts (h : Fresh source policy session) (n : Nat) :
    ∃ rest, Text.slice? source (session.run (Operation.calls n)).1.lexer.cursor.position
        source.utf8ByteSize = some rest ∧
      Fresh rest policy (session.withText rest) ∧
      ∀ consumers, Continues (session.run (Operation.calls n)).1.lexer.cursor.position
        (session.withText rest) (session.run (Operation.calls n)).1 consumers := by
  obtain ⟨passed, ahead, hsource, hcursor, htrails⟩ := h.trails n
  have hslice : Text.slice? source (utf8Len passed) (utf8Len (passed ++ ahead)) =
      some (String.ofList ahead) :=
    Text.slice?_of_toList (by rw [hsource, List.append_nil])
  rw [hcursor, Cursor.between_position, ← Text.utf8Len_toList, hsource]
  refine ⟨String.ofList ahead, hslice, h.withText _, fun consumers => ?_⟩
  obtain ⟨hanswers, hafter⟩ := htrails.run consumers
  exact ⟨hanswers, hafter.diagnostics⟩

theorem run_restarts_between_words :
    ∃ rest, Text.slice? "été1.5e..2 :=$"
        ((start "été1.5e..2 :=$" .halt).run (Operation.calls 2)).1.lexer.cursor.position
        "été1.5e..2 :=$".utf8ByteSize = some rest ∧
      Fresh rest .halt ((start "été1.5e..2 :=$" .halt).withText rest) ∧
      ∀ consumers, Continues
        ((start "été1.5e..2 :=$" .halt).run (Operation.calls 2)).1.lexer.cursor.position
        ((start "été1.5e..2 :=$" .halt).withText rest)
        ((start "été1.5e..2 :=$" .halt).run (Operation.calls 2)).1 consumers :=
  run_restarts .start 2

end Session

end PayoffLexer
