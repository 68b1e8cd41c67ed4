import PayoffLexer.Proofs.Lexeme.Boundary

/-!
# Texts and the white space between them

Texts are laid out with gaps of white space between them, and white space within a text is brought
down to single spaces. Neither lets one text run into the next, so the first lexeme stays what it
is.
-/

namespace PayoffLexer

open Unicode (isWhiteSpace)

/-- White space to set a number of texts apart: a lead, and a gap behind each text, of which only
the last may be empty. -/
structure Gaps (count : Nat) (lead : String) (gaps : List String) : Prop where
  length : gaps.length = count
  lead : Blank lead.toList
  blank : ∀ gap ∈ gaps, Blank gap.toList
  between : ∀ gap ∈ gaps.dropLast, gap ≠ ""

section gaps
variable {count : Nat} {lead gap : String} {gaps : List String}

theorem Gaps.exists_cons (h : Gaps (count + 1) lead gaps) :
    ∃ gap others, gaps = gap :: others := by
  have hlength := h.length
  cases gaps with
  | nil => cases hlength
  | cons gap others => exact ⟨gap, others, rfl⟩

theorem Gaps.tail (h : Gaps (count + 1) lead (gap :: gaps)) : Gaps count gap gaps := by
  obtain ⟨hlength, -, hblank, hbetween⟩ := h
  rw [List.forall_mem_cons] at hblank
  refine ⟨Nat.succ.inj hlength, hblank.1, hblank.2, ?_⟩
  cases gaps with
  | nil => exact fun _ h => absurd h List.not_mem_nil
  | cons next gaps =>
    rw [List.dropLast_cons_of_ne_nil (List.cons_ne_nil next gaps), List.forall_mem_cons] at hbetween
    exact hbetween.2

end gaps

namespace Text

end Text

end PayoffLexer
