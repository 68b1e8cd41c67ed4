import Mathlib.Data.List.DropRight
import PayoffLexer.Text.Lines

/-!
# The line of a place

The line of a text that holds some place is found by the line feeds before the place, and it begins
with the characters between the last of them and the place.
-/

namespace PayoffLexer.Text

def lastLine (cs : List Char) : List Char := cs.rtakeWhile fun c => c != '\n'

@[simp] theorem lastLine_nil : lastLine [] = [] := rfl

theorem lastLine_concat (cs : List Char) (c : Char) :
    lastLine (cs ++ [c]) = if c = '\n' then [] else lastLine cs ++ [c] := by
  rw [lastLine, List.rtakeWhile_concat]
  by_cases hc : c = '\n' <;> simp [hc, lastLine]

theorem lastLine_eq_self {cs : List Char} (h : '\n' ∉ cs) : lastLine cs = cs := by
  rw [lastLine, List.rtakeWhile_eq_self_iff]
  intro c hc
  simp only [bne_iff_ne, ne_eq]
  rintro rfl
  exact h hc

theorem lastLine_cons_of_mem (c : Char) {cs : List Char} (h : '\n' ∈ cs) :
    lastLine (c :: cs) = lastLine cs := by
  induction cs using List.reverseRecOn with
  | nil => cases h
  | append_singleton cs d ih =>
    rw [← List.cons_append, lastLine_concat, lastLine_concat]
    by_cases hd : d = '\n'
    · rw [if_pos hd, if_pos hd]
    · have hmem : '\n' ∈ cs := by
        simpa [Ne.symm hd] using h
      rw [if_neg hd, if_neg hd, ih hmem]

theorem lastLine_newline (cs : List Char) : lastLine ('\n' :: cs) = lastLine cs := by
  by_cases h : '\n' ∈ cs
  · exact lastLine_cons_of_mem '\n' h
  · induction cs using List.reverseRecOn with
    | nil => rfl
    | append_singleton cs d ih =>
      simp only [List.mem_append, List.mem_singleton, not_or] at h
      rw [← List.cons_append, lastLine_concat, lastLine_concat, ih h.1]

theorem lastLine_length_le (cs : List Char) : (lastLine cs).length ≤ cs.length :=
  (List.rtakeWhile_suffix _ cs).length_le

theorem newline_not_mem_breakLines (cs : List Char) : ∀ line ∈ breakLines cs, '\n' ∉ line := by
  induction cs with
  | nil => simp [breakLines]
  | cons c rest ih =>
    rw [breakLines]
    split
    · simpa using ih
    · next hfeed =>
      split
      · exact ih
      · split
        · simpa using Ne.symm hfeed
        · next line others hbreak =>
          rw [hbreak] at ih
          simpa [Ne.symm hfeed] using ih

/-- Text that ends no line stands at the beginning of the first line. -/
theorem breakLines_run {run : List Char} (hrun : ∀ c ∈ run, c ≠ '\n' ∧ c ≠ '\r') (hne : run ≠ [])
    (rest : List Char) : ∃ tail others, breakLines (run ++ rest) = (run ++ tail) :: others := by
  induction run with
  | nil => exact absurd rfl hne
  | cons c run ih =>
    rw [List.forall_mem_cons] at hrun
    obtain ⟨⟨hfeed, hreturn⟩, hothers⟩ := hrun
    rw [List.cons_append, breakLines, if_neg hfeed, if_neg fun h => hreturn h.1]
    cases run with
    | nil =>
      cases breakLines ([] ++ rest) with
      | nil => exact ⟨[], [], rfl⟩
      | cons line others => exact ⟨line, others, rfl⟩
    | cons d run =>
      obtain ⟨tail, others, hbreak⟩ := ih hothers (List.cons_ne_nil d run)
      rw [hbreak]
      exact ⟨tail, others, rfl⟩

/-- The line of a place has as many lines before it as there are line feeds, and begins with what
stands between the last line feed and the place. -/
theorem breakLines_append (before : List Char) {ahead line : List Char} {others : List (List Char)}
    (hahead : breakLines ahead = line :: others) (hhead : ahead.head? ≠ some '\n') :
    (breakLines (before ++ ahead))[before.count '\n']? = some (lastLine before ++ line) := by
  induction before with
  | nil => simp [hahead]
  | cons c before ih =>
    rw [List.cons_append, breakLines]
    by_cases hfeed : c = '\n'
    · subst hfeed
      rw [if_pos rfl, List.count_cons_self, List.getElem?_cons_succ, ih, lastLine_newline]
    · rw [if_neg hfeed, List.count_cons_of_ne hfeed]
      by_cases hreturn : c = '\r' ∧ (before ++ ahead).head? = some '\n'
      · -- A carriage return is dropped only in front of a line feed, which ends its line.
        have hmem : '\n' ∈ before := by
          cases before with
          | nil => exact absurd hreturn.2 hhead
          | cons d before =>
            have hd := Option.some.inj hreturn.2
            simp [hd]
        rw [if_pos hreturn, ih, lastLine_cons_of_mem c hmem]
      · rw [if_neg hreturn]
        cases hbreak : breakLines (before ++ ahead) with
        | nil =>
          rw [hbreak] at ih
          cases ih
        | cons first more =>
          rw [hbreak] at ih
          by_cases hmem : '\n' ∈ before
          · obtain ⟨k, hk⟩ := Nat.exists_eq_succ_of_ne_zero
              (Nat.pos_iff_ne_zero.mp (List.count_pos_iff.mpr hmem))
            rw [hk, List.getElem?_cons_succ] at ih ⊢
            rw [ih, lastLine_cons_of_mem c hmem]
          · have hcons : '\n' ∉ c :: before := by simp [hmem, Ne.symm hfeed]
            rw [List.count_eq_zero.mpr hmem, lastLine_eq_self hmem] at ih
            rw [List.count_eq_zero.mpr hmem, lastLine_eq_self hcons]
            simpa using ih

end PayoffLexer.Text
