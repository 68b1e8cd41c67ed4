import Mathlib.Data.List.Forall2
import PayoffLexer.Proofs.Session.Pull
import PayoffLexer.Proofs.Session.Reachable

/-!
# The same tokens elsewhere

Tokens and diagnostics are compared up to their spans, and the spans by a relation. Where the scans
of two texts are alike in this sense, so is all that a session gives of one text and of the other.
-/

namespace PayoffLexer

namespace Span

/-- The second span is the first one, so many bytes further on. -/
def Shifted (offset : Nat) (span other : Span) : Prop :=
  other.start = span.start + offset ∧ other.stop = span.stop + offset

end Span

/-- Two tokens are the same lexical unit, with their spans in a relation. -/
structure Token.Alike (related : Span → Span → Prop) (token other : Token) : Prop where
  kind : other.kind = token.kind
  text : other.text = token.text
  span : related token.span other.span

theorem Token.Alike.isEof_eq {related : Span → Span → Prop} {token other : Token}
    (h : token.Alike related other) : other.isEof = token.isEof := by
  rw [isEof, isEof, h.kind]

structure Diagnostic.Alike (related : Span → Span → Prop) (diagnostic other : Diagnostic) :
    Prop where
  message : other.message = diagnostic.message
  code : other.code = diagnostic.code
  helps : other.helps = diagnostic.helps
  span : related diagnostic.span other.span

structure Scan.Alike (related : Span → Span → Prop) (scan other : Scan) : Prop where
  token : scan.token.Alike related other.token
  fault : other.fault = scan.fault

theorem Scan.finish_alike {related : Span → Span → Prop} {before other : List Char}
    (h : related (finish before).token.span (finish other).token.span) :
    Alike related (.finish before) (.finish other) := ⟨⟨rfl, rfl, h⟩, rfl⟩

theorem Scan.taken_alike {related : Span → Span → Prop} {vocabulary : Vocabulary}
    {before other run : List Char} {shape : Shape}
    (h : related (taken vocabulary before shape run).token.span
      (taken vocabulary other shape run).token.span) :
    Alike related (.taken vocabulary before shape run) (.taken vocabulary other shape run) :=
  ⟨⟨rfl, rfl, h⟩, rfl⟩

section lists
variable {related : Span → Span → Prop} {policy : Policy} {scans others : List Scan}

theorem Policy.kept_alike {scan other : Scan} (h : scan.Alike related other) :
    List.Forall₂ (Diagnostic.Alike related) (policy.kept scan) (policy.kept other) := by
  obtain ⟨token, fault⟩ := scan
  obtain ⟨otherToken, otherFault⟩ := other
  obtain ⟨htoken, hfault⟩ := h
  dsimp only at htoken hfault
  subst hfault
  cases policy with
  | halt => exact .nil
  | collect =>
    cases otherFault with
    | none => exact .nil
    | some fault => exact .cons ⟨rfl, rfl, rfl, htoken.span⟩ .nil

variable (h : List.Forall₂ (Scan.Alike related) scans others)
include h

theorem Policy.passes_alike (hpass : ∀ scan ∈ scans, policy.Passes scan) :
    ∀ other ∈ others, policy.Passes other := by
  induction h with
  | nil => exact hpass
  | cons hhead _ ih =>
    rw [List.forall_mem_cons] at hpass ⊢
    refine ⟨?_, ih hpass.2⟩
    rw [Passes, hhead.fault]
    exact hpass.1

theorem tokens_alike :
    List.Forall₂ (Token.Alike related) (scans.map (·.token)) (others.map (·.token)) := by
  rw [List.forall₂_map_left_iff, List.forall₂_map_right_iff]
  exact h.imp fun _ _ halike => halike.token

theorem diagnostics_alike :
    List.Forall₂ (Diagnostic.Alike related) (scans.flatMap policy.kept)
      (others.flatMap policy.kept) :=
  List.rel_flatMap h fun _ _ => Policy.kept_alike

end lists

namespace Session

/-- A session over another text, with the words and settings of this one, before the first
character. -/
def withText (session : Session) (text : String) : Session :=
  { session with lexer := .start text session.lexer.vocabulary session.lexer.exponents }

variable {source : String} {policy : Policy} {session : Session}

/-- The same opening and the same reserved words give a session over any text. -/
theorem Fresh.withText (h : Fresh source policy session) (text : String) :
    Fresh text policy (session.withText text) := by
  induction h with
  | start => exact .start
  | @configure settings session h =>
    obtain ⟨vocabulary, hvocabulary, rfl⟩ := configure_eq_ok_iff.mp h
    exact .configure (configure_eq_ok_iff.mpr ⟨vocabulary, hvocabulary, rfl⟩)
  | @reserve session _ word ih =>
    have hreserve : (session.reserve word).1.withText text =
        ((session.withText text).reserve word).1 := by
      simp only [Session.reserve, Session.withText, Lexer.start]
      cases session.lexer.vocabulary.reserve word <;> rfl
    rw [hreserve]
    exact ih.reserve word

/-- What a fresh session gives of its source are the answers to the scans of the source. -/
theorem Fresh.tokenize_answers (h : Fresh source policy session) :
    session.tokenize.2 =
      (scans session.lexer.vocabulary session.lexer.exponents [] source.toList).mapM
        policy.answer := by
  obtain ⟨hcursor, hkinds, hsink⟩ := h.opening
  rw [Session.tokenize_answers hcursor hkinds, hsink]
  rfl

theorem Fresh.tokenize_eq_ok_iff (h : Fresh source policy session) {tokens : List Token} :
    session.tokenize.2 = .ok tokens ↔
      (∀ scan ∈ scans session.lexer.vocabulary session.lexer.exponents [] source.toList,
        policy.Passes scan) ∧
      tokens = (scans session.lexer.vocabulary session.lexer.exponents [] source.toList).map
        (·.token) := by
  rw [h.tokenize_answers, Policy.answers_eq_ok_iff]

theorem Fresh.tokenize_diagnostics (h : Fresh source policy session) :
    session.tokenize.1.sink.diagnostics.toList =
      (scans session.lexer.vocabulary session.lexer.exponents [] source.toList).flatMap
        policy.kept := by
  obtain ⟨hcursor, hkinds, hsink⟩ := h.opening
  rw [Session.tokenize_diagnostics hcursor hkinds, hsink]
  rfl

/-- A session that collects its diagnostics comes to the end of its source. -/
theorem Fresh.tokenize_collect (h : Fresh source .collect session) :
    ∃ tokens, session.tokenize.2 = .ok tokens :=
  ⟨_, h.tokenize_eq_ok_iff.mpr ⟨fun _ _ => .inl rfl, rfl⟩⟩

theorem Fresh.withText_answers (h : Fresh source policy session) (text : String) :
    (session.withText text).tokenize.2 =
      (scans session.lexer.vocabulary session.lexer.exponents [] text.toList).mapM policy.answer :=
  (h.withText text).tokenize_answers

theorem Fresh.withText_eq_ok_iff (h : Fresh source policy session) (text : String)
    {tokens : List Token} :
    (session.withText text).tokenize.2 = .ok tokens ↔
      (∀ scan ∈ scans session.lexer.vocabulary session.lexer.exponents [] text.toList,
        policy.Passes scan) ∧
      tokens = (scans session.lexer.vocabulary session.lexer.exponents [] text.toList).map
        (·.token) :=
  (h.withText text).tokenize_eq_ok_iff

theorem Fresh.withText_diagnostics (h : Fresh source policy session) (text : String) :
    (session.withText text).tokenize.1.sink.diagnostics.toList =
      (scans session.lexer.vocabulary session.lexer.exponents [] text.toList).flatMap
        policy.kept :=
  (h.withText text).tokenize_diagnostics

end Session

end PayoffLexer
