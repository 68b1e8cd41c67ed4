import PayoffLexer.Proofs.Cursor.Moves

/-!
# A cursor counts bytes and keeps to characters

A cursor knows nothing but a number of bytes. Yet whatever moves it has made, it stands where a cut
through the list of the source's characters does that has made the same moves: what it says of the
text before and after it is what the list says, and only the ends of whole characters before it are
offsets from which it gives a text.
-/

namespace PayoffLexer

open String (utf8Len)

namespace Cursor

structure Tracks (source : String) (c : Cursor) (z : Zipper) : Prop where
  whole : z.passed ++ z.ahead = source.toList
  source : c.source = source
  position : c.position = utf8Len z.passed
  remaining : c.remaining? = some (String.ofList z.ahead)
  atEnd : c.atEnd = true ↔ z.ahead = []
  accepts : ∀ expected, (c.accept? expected).isSome = true ↔ z.ahead.head? = some expected
  textFrom : ∀ before text, z.passed = before ++ text →
    c.textFrom? (utf8Len before) = some (String.ofList text)
  outside : ∀ start, (∀ before, before <+: z.passed → utf8Len before ≠ start) →
    c.textFrom? start = none

variable {source : String}

theorem exists_of_textFrom? {passed ahead : List Char} {start : Nat} {text : String}
    (h : (between passed ahead).textFrom? start = some text) :
    ∃ before, before <+: passed ∧ utf8Len before = start := by
  rw [textFrom?, between_source, between_position] at h
  obtain ⟨before, after, hsource, hstart, hstop⟩ := Text.exists_of_slice? h
  refine ⟨before, ?_, hstart⟩
  rw [String.toList_ofList] at hsource
  have hlong : before ++ text.toList <+: passed ++ ahead := ⟨after, hsource.symm⟩
  have hpassed := Text.prefix_of_utf8Len_le hlong (List.prefix_append passed ahead) hstop.le
  exact (List.prefix_append before text.toList).trans hpassed

theorem tracks_cursor {z : Zipper} (h : z.whole = source.toList) : Tracks source z.cursor z where
  whole := h
  source := by
    rw [Zipper.cursor, between_source]
    exact (congrArg String.ofList h).trans String.ofList_toList
  position := between_position z.passed z.ahead
  remaining := remaining?_between z.passed z.ahead
  atEnd := by
    rw [Zipper.cursor, atEnd_between, List.isEmpty_iff]
  accepts expected := by
    rw [Zipper.accept?_cursor, Zipper.accepts]
    split
    · next haccepts => simpa using haccepts
    · next haccepts => simpa using haccepts
  textFrom before text hpassed := by
    rw [Zipper.cursor, hpassed]
    exact textFrom?_between before z.ahead text
  outside start hstart := by
    cases htext : z.cursor.textFrom? start with
    | none => rfl
    | some text =>
      obtain ⟨before, hbefore, hlength⟩ := exists_of_textFrom? htext
      exact absurd hlength (hstart before hbefore)

/-- After any moves the cursor tracks the cut that has made them. -/
theorem moveAll_tracks (source : String) (moves : List Move) :
    Tracks source ((atStart source).moveAll moves) ((Zipper.ofText source).moveAll moves) := by
  have hstart : atStart source = (Zipper.ofText source).cursor := atStart_eq_between source
  rw [hstart, Zipper.moveAll_cursor]
  exact tracks_cursor ((Zipper.ofText source).whole_moveAll moves)

end Cursor

end PayoffLexer
