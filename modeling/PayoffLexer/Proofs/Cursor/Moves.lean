import PayoffLexer.Proofs.Cursor.Columns

/-!
# Moves of a cursor

A cursor is moved by its operations in any order. Each of them takes characters from those ahead or
goes back to the start, as a cut does that is moved through the list of the source's characters. So
at all times the line and column are those of the characters before the cursor.
-/

namespace PayoffLexer

/-- The line and the column of the place are those of the text before its byte. -/
def Place.Accurate (source : String) (place : Place) : Prop :=
  ∃ before, Text.slice? source 0 place.position = some before ∧
    place.line.toNat = before.toList.count '\n' + 1 ∧
    place.column.toNat = (Text.lastLine before.toList).length + 1

/-- The place after a beginning of a source is accurate, if its numbers have room. -/
theorem Place.accurate_pastAll {source : String} {before after : List Char}
    (hsource : source.toList = before ++ after) (hroom : before.length + 1 < 2 ^ 32) :
    (origin.pastAll before).Accurate source := by
  refine ⟨String.ofList before, ?_, ?_, ?_⟩
  · rw [origin_pastAll_position]
    have hrange : source.toList = [] ++ before ++ after := hsource
    exact Text.slice?_of_toList hrange
  · rw [String.toList_ofList, pastAll_line hroom]
  · rw [String.toList_ofList, pastAll_column hroom]

namespace Cursor

inductive Move
  | advance
  | advanceBy (n : Nat)
  | accept (expected : Char)
  | skipWhiteSpace
  | advanceWhile (p : Char → Bool)
  | rewind

/-- The cursor after one move; a character that is not accepted leaves it where it is. -/
def move (c : Cursor) : Move → Cursor
  | .advance => c.advance
  | .advanceBy n => c.advanceBy n
  | .accept expected => (c.accept? expected).getD c
  | .skipWhiteSpace => c.skipWhiteSpace
  | .advanceWhile p => c.advanceWhile p
  | .rewind => c.rewind

def moveAll (c : Cursor) (moves : List Move) : Cursor := moves.foldl move c

/-- The cursor stands between two parts of the source. -/
def Over (source : String) (c : Cursor) : Prop :=
  ∃ passed ahead, c = between passed ahead ∧ source.toList = passed ++ ahead

/-- The cursor knows its line and its column, and neither number is full before a character. -/
structure Located (source : String) (c : Cursor) : Prop where
  accurate : c.toPlace.Accurate source
  room : c.current?.isSome = true → c.line.toNat + 1 < 2 ^ 32 ∧ c.column.toNat + 1 < 2 ^ 32

end Cursor

/-- A text that is cut in two between its characters. -/
structure Zipper where
  passed : List Char
  ahead : List Char

namespace Zipper

open Cursor (Move between)

def ofText (source : String) : Zipper := ⟨[], source.toList⟩

def whole (z : Zipper) : List Char := z.passed ++ z.ahead

def shift (z : Zipper) (n : Nat) : Zipper := ⟨z.passed ++ z.ahead.take n, z.ahead.drop n⟩

def accepts (z : Zipper) (expected : Char) : Bool := z.ahead.head? == some expected

/-- The cut after one move. A run of characters that satisfy a predicate is the longest that is
ahead. -/
def move (z : Zipper) : Move → Zipper
  | .advance => z.shift 1
  | .advanceBy n => z.shift n
  | .accept expected => if z.accepts expected then z.shift 1 else z
  | .skipWhiteSpace => z.shift (z.ahead.takeWhile Unicode.isWhiteSpace).length
  | .advanceWhile p => z.shift (z.ahead.takeWhile p).length
  | .rewind => ⟨[], z.whole⟩

def moveAll (z : Zipper) (moves : List Move) : Zipper := moves.foldl move z

def cursor (z : Zipper) : Cursor := between z.passed z.ahead

theorem whole_shift (z : Zipper) (n : Nat) : (z.shift n).whole = z.whole := by
  rw [whole, shift, List.append_assoc, List.take_append_drop, whole]

theorem whole_move (z : Zipper) (move : Move) : (z.move move).whole = z.whole := by
  cases move with
  | accept expected =>
    rw [Zipper.move]
    split
    · exact z.whole_shift 1
    · rfl
  | rewind => rfl
  | advance | advanceBy | skipWhiteSpace | advanceWhile => exact z.whole_shift _

theorem whole_moveAll (z : Zipper) (moves : List Move) : (z.moveAll moves).whole = z.whole := by
  induction moves generalizing z with
  | nil => rfl
  | cons move moves ih => exact (ih (z.move move)).trans (z.whole_move move)

theorem cursor_shift_one (z : Zipper) : z.cursor.advance = (z.shift 1).cursor := by
  obtain ⟨passed, _ | ⟨c, ahead⟩⟩ := z
  · simp [cursor, shift]
  · simp [cursor, shift]

theorem accept?_cursor (z : Zipper) (expected : Char) :
    z.cursor.accept? expected =
      if z.accepts expected then some (z.shift 1).cursor else none := by
  obtain ⟨passed, _ | ⟨c, ahead⟩⟩ := z
  · simp [cursor, accepts, Cursor.accept?_between_nil]
  · simp [cursor, accepts, shift, Cursor.accept?_between_cons]

theorem advanceWhile_cursor (z : Zipper) (p : Char → Bool) :
    z.cursor.advanceWhile p = (z.shift (z.ahead.takeWhile p).length).cursor := by
  have htake : z.ahead.take (z.ahead.takeWhile p).length = z.ahead.takeWhile p :=
    (List.prefix_iff_eq_take.mp (List.takeWhile_prefix p)).symm
  have hdrop : (z.ahead.takeWhile p ++ z.ahead.dropWhile p).drop (z.ahead.takeWhile p).length =
      z.ahead.dropWhile p := List.drop_left
  rw [List.takeWhile_append_dropWhile] at hdrop
  rw [cursor, Cursor.advanceWhile_between, cursor, shift, htake, hdrop]

/-- The cursor at the cut moves with it. -/
theorem move_cursor (z : Zipper) (move : Move) : z.cursor.move move = (z.move move).cursor := by
  cases move with
  | advance => exact z.cursor_shift_one
  | advanceBy n => exact Cursor.advanceBy_between z.passed z.ahead n
  | accept expected =>
    rw [Cursor.move, accept?_cursor, Zipper.move]
    split <;> rfl
  | skipWhiteSpace => exact z.advanceWhile_cursor Unicode.isWhiteSpace
  | advanceWhile p => exact z.advanceWhile_cursor p
  | rewind => exact Cursor.rewind_between z.passed z.ahead

theorem moveAll_cursor (z : Zipper) (moves : List Move) :
    z.cursor.moveAll moves = (z.moveAll moves).cursor := by
  induction moves generalizing z with
  | nil => rfl
  | cons move moves ih =>
    change (z.cursor.move move).moveAll moves = _
    rw [move_cursor, ih]
    rfl

end Zipper

namespace Cursor

variable {source : String} {c : Cursor}

theorem over_atStart (source : String) : Over source (atStart source) :=
  ⟨[], source.toList, atStart_eq_between source, rfl⟩

theorem Over.moveAll (h : Over source c) (moves : List Move) : Over source (c.moveAll moves) := by
  obtain ⟨passed, ahead, rfl, hsource⟩ := h
  let z : Zipper := ⟨passed, ahead⟩
  refine ⟨(z.moveAll moves).passed, (z.moveAll moves).ahead, z.moveAll_cursor moves, ?_⟩
  exact hsource.trans (z.whole_moveAll moves).symm

/-- In a short source a cursor that stands between two of its parts is located. -/
theorem Over.located (h : Over source c) (hshort : source.length < 2 ^ 32 - 1) :
    Located source c := by
  obtain ⟨passed, ahead, rfl, hsource⟩ := h
  have hlength : passed.length + ahead.length < 2 ^ 32 - 1 := by
    rwa [← List.length_append, ← hsource, String.length_toList]
  have hpassed : passed.length + 1 < 2 ^ 32 := by omega
  constructor
  · exact Place.accurate_pastAll hsource hpassed
  · intro hcurrent
    have hahead : ahead ≠ [] := by
      rintro rfl
      simp at hcurrent
    have hpositive := List.length_pos_iff.mpr hahead
    have hfeeds := List.count_le_length (a := '\n') (l := passed)
    have hlast := Text.lastLine_length_le passed
    rw [between_toPlace, Place.pastAll_line hpassed, Place.pastAll_column hpassed]
    omega

end Cursor

end PayoffLexer
