import PayoffLexer.Proofs.Decimal.Literals
import PayoffLexer.Proofs.Numbers
import PayoffLexer.Proofs.Session.Yielded

/-!
# Values of tokens

What the scanner takes as a number the reader of decimals takes too. So each number token has a
value, infinite if there is no double that large, and no other token has one.
-/

namespace PayoffLexer

/-- A number has a value, which is no failed result and not negative, and nothing else has one. -/
structure Token.Valued (token : Token) : Prop where
  number : token.kind = .number → ∃ value, token.value? = some value ∧ value.HasSign false
  other : token.kind ≠ .number → token.value? = none

theorem Token.valued_of_literal {token : Token}
    (h : token.kind = .number → Literal true token.text.toList) : token.Valued := by
  constructor
  · intro hkind
    obtain ⟨value, hread, hsign⟩ := Decimal.read?_of_literal (h hkind)
    exact ⟨value, by rw [value?, if_pos hkind, hread], hsign⟩
  · intro hkind
    rw [value?, if_neg hkind]

namespace Session

variable {source : String} {policy : Policy} {session : Session} {token : Token}

theorem Scanned.valued (h : Scanned source session token)
    (hkinds : session.lexer.vocabulary.HasWordKinds) : token.Valued := by
  apply Token.valued_of_literal
  intro hkind
  cases h with
  | lexeme hlexeme => exact (hlexeme.literal hkinds hkind).of_plain
  | eof => cases hkind

/-- Of all tokens that a run yields the numbers have a value, and no others. -/
theorem run_values (h : Reachable source policy session) (operations : List Operation) :
    ∀ answer ∈ (session.run operations).2, ∀ token ∈ answer.yielded, token.Valued :=
  h.standing.forall_yielded (fun _ hstanding _ hscanned => hscanned.valued hstanding.kinds)
    operations

/-- A number too great for a double has a value too. -/
theorem run_values_overflow :
    ∃ value, (Token.mk .number "1e999" ⟨2, 7, 1, 3⟩).value? = some value ∧
      value.HasSign false := by
  have hanswer : Answer.token (.mk .number "1e999" ⟨2, 7, 1, 3⟩) ∈
      ((start "x 1e999" .halt).run [.next, .next]).2 := by
    decide +kernel
  have hvalues := run_values (.fresh (@Fresh.start "x 1e999" .halt)) [.next, .next]
  exact (hvalues _ hanswer _ List.mem_cons_self).number rfl

end Session

end PayoffLexer
