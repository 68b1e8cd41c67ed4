import PayoffLexer.Proofs.Cursor.Between
import PayoffLexer.Proofs.Text.Lines

/-!
# Lines and columns

The line of a place counts the line feeds before it and its column the characters after the last of
them, both from one. Neither number wraps around in a text that is short enough for them.
-/

namespace PayoffLexer.Place

open Text (lastLine)

variable {cs : List Char}

theorem past_line (place : Place) (c : Char) :
    (place.past c).line = if c = '\n' then place.line + 1 else place.line := by
  rw [past]
  split <;> rfl

theorem past_column (place : Place) (c : Char) :
    (place.past c).column = if c = '\n' then 1 else place.column + 1 := by
  rw [past]
  split <;> rfl

theorem pastAll_concat (place : Place) (cs : List Char) (c : Char) :
    place.pastAll (cs ++ [c]) = (place.pastAll cs).past c := by
  rw [pastAll_append, pastAll_singleton]

theorem toNat_add_one {n : UInt32} (h : n.toNat + 1 < 2 ^ 32) : (n + 1).toNat = n.toNat + 1 := by
  rw [UInt32.toNat_add]
  exact Nat.mod_eq_of_lt h

/-- The line of a place is one more than the line feeds before it. -/
theorem pastAll_line (h : cs.length + 1 < 2 ^ 32) :
    (origin.pastAll cs).line.toNat = cs.count '\n' + 1 := by
  induction cs using List.reverseRecOn with
  | nil => rfl
  | append_singleton cs c ih =>
    rw [List.length_append, List.length_singleton] at h
    have hcount := List.count_le_length (a := '\n') (l := cs)
    have hline := ih (by omega)
    rw [pastAll_concat, past_line, List.count_append]
    by_cases hc : c = '\n'
    · subst hc
      rw [if_pos rfl, toNat_add_one (by omega), hline]
      simp
    · rw [if_neg hc, hline]
      simp [hc]

theorem pastAll_column (h : cs.length + 1 < 2 ^ 32) :
    (origin.pastAll cs).column.toNat = (lastLine cs).length + 1 := by
  induction cs using List.reverseRecOn with
  | nil => rfl
  | append_singleton cs c ih =>
    rw [List.length_append, List.length_singleton] at h
    have hlast := Text.lastLine_length_le cs
    have hcolumn := ih (by omega)
    rw [pastAll_concat, past_column, Text.lastLine_concat]
    by_cases hc : c = '\n'
    · simp [hc]
    · rw [if_neg hc, if_neg hc, toNat_add_one (by omega), hcolumn]
      simp

end PayoffLexer.Place
