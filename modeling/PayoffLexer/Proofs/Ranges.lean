import PayoffLexer.Proofs.Cursor.Moves
import PayoffLexer.Proofs.Session.Reported

/-!
# No range is broken

The mark of a lexer never comes behind its cursor, and both stand between characters of the source.
A call moves the cursor character by character, so each text that is taken on its way, of a token or
of all that is ahead, is a range of the source, and all that can cut a call short is a diagnostic
under a sink that halts.
-/

namespace PayoffLexer

open String (utf8Len utf8Len_append)
open Cursor (between)

structure Lexer.Ordered (source : String) (lexer : Lexer) : Prop where
  mark_le : lexer.mark.position ≤ lexer.cursor.position
  within : lexer.cursor.position ≤ source.utf8ByteSize
  mark : Text.isBoundary source lexer.mark.position = true
  cursor : Text.isBoundary source lexer.cursor.position = true

inductive Lexer.Marked (source : String) (lexer : Lexer) : Prop
  | intro {before run ahead : List Char} (hsource : source.toList = before ++ run ++ ahead)
    (hmark : lexer.mark.position = utf8Len before)
    (hcursor : lexer.cursor = between (before ++ run) ahead)

/-- Wherever a cursor comes by moving on, the text ahead can be taken, and so can the text from any
place that it has come by; and where there is a character to pass, there is a number for the line
and the column behind it. -/
structure Cursor.Clear (c : Cursor) : Prop where
  remaining : ∀ n, (c.advanceBy n).remaining?.isSome = true
  text : ∀ m n, ((c.advanceBy (m + n)).textFrom? (c.advanceBy m).position).isSome = true
  room : ∀ n, (c.advanceBy n).current?.isSome = true →
    (c.advanceBy n).line.toNat + 1 < 2 ^ 32 ∧ (c.advanceBy n).column.toNat + 1 < 2 ^ 32

namespace Session

/-- Nothing is broken in a session, nor in anything that can be done with it next. A call moves the
cursor over white space, sets the mark there and moves on. -/
structure Sound (source : String) (policy : Policy) (session : Session) : Prop where
  ordered : session.lexer.Ordered source
  marked : session.lexer.text?.isSome = true
  clear : session.lexer.cursor.Clear
  call : ∃ white run,
    session.next.1.lexer.mark = (session.lexer.cursor.advanceBy white).toPlace ∧
      session.next.1.lexer.cursor = session.lexer.cursor.advanceBy (white + run)
  halts : ∀ operation halt, (session.perform operation).2 = .halted halt →
    policy = .halt ∧ ∃ diagnostic, halt = .reported diagnostic

end Session

namespace Cursor

theorem clear_between {source : String} {passed ahead : List Char}
    (hsource : source.toList = passed ++ ahead) (hshort : source.length < 2 ^ 32 - 1) :
    (between passed ahead).Clear := by
  constructor
  · intro n
    rw [advanceBy_between, remaining?_between]
    rfl
  · intro m n
    have htake : ahead.take (m + n) = ahead.take m ++ (ahead.drop m).take n := List.take_add
    rw [advanceBy_between, advanceBy_between, between_position, htake, ← List.append_assoc,
      textFrom?_between]
    rfl
  · intro n
    rw [advanceBy_between]
    have hover : Over source (between (passed ++ ahead.take n) (ahead.drop n)) :=
      ⟨_, _, rfl, by rw [hsource, List.append_assoc, List.take_append_drop]⟩
    exact (hover.located hshort).room

theorem advanceBy_append (passed run rest : List Char) :
    (between passed (run ++ rest)).advanceBy run.length = between (passed ++ run) rest := by
  rw [advanceBy_between, List.take_left, List.drop_left]

end Cursor

namespace Lexer

variable {source : String} {lexer : Lexer}

theorem Marked.ordered (h : lexer.Marked source) : lexer.Ordered source := by
  obtain ⟨hsource, hmark, hcursor⟩ := h
  rename_i before run ahead
  have hposition : lexer.cursor.position = utf8Len (before ++ run) := by
    rw [hcursor, Cursor.between_position]
  have hsize : source.utf8ByteSize = utf8Len (before ++ run ++ ahead) := by
    rw [← Text.utf8Len_toList, hsource]
  have hofList : source = String.ofList (before ++ run ++ ahead) := by
    rw [← hsource, String.ofList_toList]
  constructor
  · rw [hmark, hposition, utf8Len_append]
    omega
  · rw [hposition, hsize, utf8Len_append _ ahead]
    omega
  · rw [hmark, hofList, List.append_assoc]
    exact Text.isBoundary_after before (run ++ ahead)
  · rw [hposition, hofList]
    exact Text.isBoundary_after (before ++ run) ahead

theorem Marked.text? (h : lexer.Marked source) : lexer.text?.isSome = true := by
  obtain ⟨hsource, hmark, hcursor⟩ := h
  rw [Lexer.text?, hmark, hcursor, Cursor.textFrom?_between]
  rfl

end Lexer

namespace Session

variable {source : String} {policy : Policy} {session moved : Session} {scan : Scan}

/-- A turn sets the mark behind the white space and moves on over the lexeme. -/
theorem Turn.marked (h : Turn source session moved scan) : moved.lexer.Marked source := by
  cases h with
  | @finish passed white hcursor hsource hwhite =>
    have hwhole : source.toList = passed ++ white ++ [] ++ [] := by simp [hsource]
    refine .intro hwhole ?_ ?_
    · exact Place.origin_pastAll_position (passed ++ white)
    · simp
  | lexeme hcursor hsource hwhite hsolid hrun hlexeme =>
    exact .intro hsource (Place.origin_pastAll_position _) rfl

theorem Turn.advances (h : Turn source session moved scan) :
    ∃ white run, moved.lexer.mark = (session.lexer.cursor.advanceBy white).toPlace ∧
      moved.lexer.cursor = session.lexer.cursor.advanceBy (white + run) := by
  cases h with
  | @finish passed white hcursor hsource hwhite =>
    have hmoved := Cursor.advanceBy_append passed white []
    rw [List.append_nil, ← hcursor] at hmoved
    exact ⟨white.length, 0, by rw [hmoved]; rfl, by rw [Nat.add_zero, hmoved]⟩
  | @lexeme passed white run rest shape hcursor hsource hwhite hsolid hrun hlexeme =>
    have hmark := Cursor.advanceBy_append passed white (run ++ rest)
    have hmoved := Cursor.advanceBy_append passed (white ++ run) rest
    rw [List.append_assoc, ← hcursor, ← List.append_assoc, List.length_append] at hmoved
    rw [← hcursor] at hmark
    exact ⟨white.length, run.length, by rw [hmark]; rfl, hmoved.symm⟩

structure Placed (source : String) (policy : Policy) (session : Session) : Prop where
  standing : Standing source policy session
  marked : session.lexer.Marked source

theorem Placed.next (h : Placed source policy session) : Placed source policy session.next.1 := by
  obtain ⟨moved, scan, hturn, hlexer, -⟩ := h.standing.next_spec
  refine ⟨h.standing.next, ?_⟩
  rw [hlexer]
  exact hturn.marked

theorem marked_atStart {lexer : Lexer} (hcursor : lexer.cursor = between [] source.toList)
    (hmark : lexer.mark = .origin) : lexer.Marked source := by
  have hwhole : source.toList = [] ++ [] ++ source.toList := rfl
  exact .intro hwhole (by rw [hmark]; rfl) hcursor

theorem Placed.rewind (h : Placed source policy session) : Placed source policy session.rewind := by
  refine ⟨h.standing.rewind, marked_atStart ?_ rfl⟩
  obtain ⟨passed, ahead, hcursor, hsource⟩ := h.standing.cursor
  change session.lexer.cursor.rewind = _
  rw [hcursor, Cursor.rewind_between, hsource]

theorem Placed.reserve (h : Placed source policy session) (text : String) :
    Placed source policy (session.reserve text).1 := by
  refine ⟨h.standing.reserve text, ?_⟩
  obtain ⟨hsource, hmark, hcursor⟩ := h.marked
  rw [reserve_eq]
  exact .intro hsource hmark hcursor

theorem Placed.clear (h : Placed source policy session) : Placed source policy session.clear :=
  ⟨h.standing.clear, h.marked⟩

theorem Reachable.placed (h : Reachable source policy session) :
    Placed source policy session := by
  induction h with
  | fresh h => exact ⟨h.standing, marked_atStart h.opening.1 h.mark⟩
  | perform _ operation ih =>
    exact perform_keeps (fun _ => .next) (fun _ => .rewind) (fun _ text h => h.reserve text)
      (fun _ => .clear) ih operation

/-- Over a source that is not too long every session is sound, however it was used and wherever it
was cut short. -/
theorem reachable_sound (h : Reachable source policy session)
    (hshort : source.length < 2 ^ 32 - 1) : Sound source policy session := by
  have hplaced := h.placed
  obtain ⟨passed, ahead, hcursor, hsource⟩ := hplaced.standing.cursor
  constructor
  · exact hplaced.marked.ordered
  · exact hplaced.marked.text?
  · rw [hcursor]
    exact Cursor.clear_between hsource hshort
  · obtain ⟨moved, scan, hturn, hlexer, -⟩ := hplaced.standing.next_spec
    rw [hlexer]
    exact hturn.advances
  · intro operation halt hhalted
    cases perform_halted hplaced.standing hhalted with
    | intro hfaulty => exact ⟨rfl, _, rfl⟩

theorem reachable_sound_halted :
    Sound "é 1..2\n:x" .halt
      ((start "é 1..2\n:x" .halt).run [.next, .next, .reserve "x", .next]).1 :=
  reachable_sound
    (.perform (.perform (.perform (.perform (.fresh .start) .next) .next) (.reserve "x")) .next)
    (by decide)

end Session

end PayoffLexer
