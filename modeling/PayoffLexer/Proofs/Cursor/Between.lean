import PayoffLexer.Cursor
import PayoffLexer.Proofs.Text.Slice

/-!
# The cursor as two lists of characters

A cursor that only moves by its own operations stands between the characters it has passed and
those ahead. Seen so, every move takes characters from the front of the second list to the end of
the first, and the counts of bytes, lines and columns are those of the first list.
-/

namespace PayoffLexer

open String (utf8Len utf8Len_append)

namespace Place

def pastAll (place : Place) (cs : List Char) : Place := cs.foldl past place

@[simp] theorem pastAll_nil (place : Place) : place.pastAll [] = place := rfl

@[simp] theorem pastAll_append (place : Place) (cs ds : List Char) :
    place.pastAll (cs ++ ds) = (place.pastAll cs).pastAll ds := by
  simp [pastAll, List.foldl_append]

theorem pastAll_singleton (place : Place) (c : Char) : place.pastAll [c] = place.past c := rfl

@[simp] theorem pastAll_position (place : Place) (cs : List Char) :
    (place.pastAll cs).position = place.position + utf8Len cs := by
  induction cs generalizing place with
  | nil => rfl
  | cons c cs ih =>
    change ((place.past c).pastAll cs).position = _
    rw [ih, past_position, String.utf8Len_cons]
    omega

@[simp] theorem origin_pastAll_position (cs : List Char) :
    (origin.pastAll cs).position = utf8Len cs := by
  rw [pastAll_position]
  exact Nat.zero_add _

end Place

namespace Cursor

/-- The cursor that has passed some characters and has others ahead. -/
def between (passed ahead : List Char) : Cursor :=
  ⟨Place.origin.pastAll passed, String.ofList (passed ++ ahead)⟩

variable (passed ahead : List Char)

theorem atStart_eq_between (source : String) : atStart source = between [] source.toList := by
  simp [atStart, between]

@[simp] theorem between_toPlace :
    (between passed ahead).toPlace = Place.origin.pastAll passed := rfl

@[simp] theorem between_source :
    (between passed ahead).source = String.ofList (passed ++ ahead) := rfl

@[simp] theorem between_position : (between passed ahead).position = utf8Len passed := by
  simp [between, Place.origin]

@[simp] theorem atEnd_between : (between passed ahead).atEnd = ahead.isEmpty := by
  have hpos : utf8Len ahead = 0 ↔ ahead = [] := String.utf8Len_eq_zero
  rw [atEnd, between_position, between_source, String.utf8ByteSize_ofList, utf8Len_append,
    Bool.eq_iff_iff, decide_eq_true_iff, List.isEmpty_iff, ← hpos]
  omega

@[simp] theorem bytesLeft_between : (between passed ahead).bytesLeft = utf8Len ahead := by
  rw [bytesLeft, between_position, between_source, String.utf8ByteSize_ofList, utf8Len_append]
  omega

@[simp] theorem current?_between : (between passed ahead).current? = ahead.head? := by
  rw [current?, atEnd_between, between_position, between_source, String.get_of_valid]
  cases ahead with
  | nil => rfl
  | cons c ahead => simp

@[simp] theorem advance_between_nil : (between passed []).advance = between passed [] := by
  simp [advance]

@[simp] theorem advance_between_cons (c : Char) :
    (between passed (c :: ahead)).advance = between (passed ++ [c]) ahead := by
  have h : (between passed (c :: ahead)).current? = some c := by simp
  rw [advance, h]
  simp [between, Place.pastAll_singleton]

theorem advanceBy_between (n : Nat) :
    (between passed ahead).advanceBy n = between (passed ++ ahead.take n) (ahead.drop n) := by
  induction n generalizing passed ahead with
  | zero => simp [advanceBy]
  | succ n ih =>
    cases ahead with
    | nil => simp [advanceBy]
    | cons c ahead => simp [advanceBy, ih]

theorem advanceWhile_between (p : Char → Bool) :
    (between passed ahead).advanceWhile p =
      between (passed ++ ahead.takeWhile p) (ahead.dropWhile p) := by
  induction ahead generalizing passed with
  | nil =>
    rw [advanceWhile]
    split
    · simp
    · next h => simp at h
  | cons c ahead ih =>
    rw [advanceWhile]
    split
    · next h => simp at h
    · next ch h =>
      rw [current?_between, List.head?_cons, Option.some.injEq] at h
      subst h
      by_cases hp : p c = true
      · rw [if_pos hp, advance_between_cons, ih, List.takeWhile_cons_of_pos hp,
          List.dropWhile_cons_of_pos hp, List.append_assoc, List.singleton_append]
      · rw [if_neg hp, List.takeWhile_cons_of_neg hp, List.dropWhile_cons_of_neg hp,
          List.append_nil]

theorem accept?_between_cons (c expected : Char) :
    (between passed (c :: ahead)).accept? expected =
      if c = expected then some (between (passed ++ [c]) ahead) else none := by
  simp [accept?]

theorem accept?_between_nil (expected : Char) : (between passed []).accept? expected = none := by
  simp [accept?]

@[simp] theorem rewind_between : (between passed ahead).rewind = between [] (passed ++ ahead) := by
  simp [rewind, atStart_eq_between]

theorem textFrom?_between (text : List Char) :
    (between (passed ++ text) ahead).textFrom? (utf8Len passed) = some (String.ofList text) := by
  rw [textFrom?, between_source, between_position, Text.slice?_between]

theorem remaining?_between : (between passed ahead).remaining? = some (String.ofList ahead) := by
  have h := Text.slice?_between passed ahead []
  rw [remaining?, between_source, between_position, String.utf8ByteSize_ofList]
  simpa using h

end Cursor

end PayoffLexer
