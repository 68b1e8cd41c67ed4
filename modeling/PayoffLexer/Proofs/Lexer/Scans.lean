import PayoffLexer.Fault
import PayoffLexer.Lexer
import PayoffLexer.Proofs.Lexeme.Solid
import PayoffLexer.Token

/-!
# The scans of a text

A scan is a token together with its fault, if it has one. What a lexer finds depends only on the
characters that it has passed and those ahead: scan after scan, these two lists give all tokens up
to the end of the source.
-/

namespace PayoffLexer

open String (utf8Len)
open Unicode (isWhiteSpace)
open Cursor (between)

structure Scan where
  token : Token
  fault : Option Fault
deriving DecidableEq

namespace Lexer

def kindOf (vocabulary : Vocabulary) (text : String) : Shape → Kind
  | .word => (vocabulary.kindOf? text).getD .identifier
  | .number => .number
  | .symbol kind => kind
  | .malformedNumber | .unexpected _ => .invalid

def faultOf (text : String) : Shape → Option Fault
  | .word | .number | .symbol _ => none
  | .malformedNumber => some (.malformedNumber text)
  | .unexpected c => some (.unexpectedCharacter c)

def scanOf (lexer : Lexer) (shape : Shape) (text : String) : Scan :=
  ⟨⟨kindOf lexer.vocabulary text shape, text, lexer.span⟩, faultOf text shape⟩

/-- The scan of a lexeme that was found at the mark; none if its bytes are no range of the source.
-/
def takeAs (lexer : Lexer) (found : Shape × Cursor) : Lexer × Option Scan :=
  let lexer := { lexer with cursor := found.2 }
  (lexer, lexer.text?.map (lexer.scanOf found.1))

def scan (lexer : Lexer) : Lexer × Option Scan :=
  let lexer := lexer.approach
  if lexer.cursor.atEnd then (lexer, some ⟨⟨.endOfInput, "", lexer.span⟩, none⟩)
  else lexer.takeAs (lexer.cursor.lexeme lexer.exponents)

end Lexer

namespace Scan

/-- The scan of a run of characters of some shape that stands after other characters. -/
def taken (vocabulary : Vocabulary) (before : List Char) (shape : Shape) (run : List Char) : Scan :=
  let text := String.ofList run
  let span := .between (Place.origin.pastAll before) (utf8Len (before ++ run))
  ⟨⟨Lexer.kindOf vocabulary text shape, text, span⟩, Lexer.faultOf text shape⟩

def finish (before : List Char) : Scan :=
  ⟨⟨.endOfInput, "", .between (Place.origin.pastAll before) (utf8Len before)⟩, none⟩

end Scan

/-- The scans of the characters ahead, which stand after those passed; the last is the end. -/
def scans (vocabulary : Vocabulary) (exponents : Bool) (passed ahead : List Char) : List Scan :=
  let before := passed ++ ahead.takeWhile isWhiteSpace
  match _h : ahead.dropWhile isWhiteSpace with
  | [] => [.finish before]
  | c :: others =>
    let run := (Front.lexeme exponents (c :: others)).2
    .taken vocabulary before (Front.lexeme exponents (c :: others)).1 run ::
      scans vocabulary exponents (before ++ run) ((c :: others).drop run.length)
termination_by ahead.length
decreasing_by
  have hreading := Front.lexeme_reading exponents (c :: others)
  have hrun := List.length_pos_iff.mpr (hreading.ne_nil (List.cons_ne_nil c others))
  have hsuffix : ahead.dropWhile isWhiteSpace <:+ ahead := List.dropWhile_suffix isWhiteSpace
  have hshort := hsuffix.length_le
  rw [_h] at hshort
  simp only [List.length_drop, List.length_cons] at hshort ⊢
  omega

section
variable {vocabulary : Vocabulary} {exponents : Bool} {passed white run rest : List Char}
  {shape : Shape}

theorem Blank.takeWhile_append (hwhite : Blank white) (ahead : List Char) :
    (white ++ ahead).takeWhile isWhiteSpace = white ++ ahead.takeWhile isWhiteSpace :=
  List.takeWhile_append_of_pos hwhite

theorem Blank.dropWhile_append (hwhite : Blank white) (ahead : List Char) :
    (white ++ ahead).dropWhile isWhiteSpace = ahead.dropWhile isWhiteSpace :=
  List.dropWhile_append_of_pos hwhite

theorem Solid.head_append (hsolid : Solid run) (hrun : run ≠ []) (rest : List Char) :
    ∃ c others, run ++ rest = c :: others ∧ isWhiteSpace c = false := by
  obtain ⟨c, tail, rfl⟩ := List.exists_cons_of_ne_nil hrun
  exact ⟨c, tail ++ rest, rfl, hsolid c List.mem_cons_self⟩

theorem Blank.dropWhile_solid (hwhite : Blank white) (hsolid : Solid run) (hrun : run ≠ [])
    (rest : List Char) :
    (white ++ (run ++ rest)).takeWhile isWhiteSpace = white ∧
      (white ++ (run ++ rest)).dropWhile isWhiteSpace = run ++ rest := by
  obtain ⟨c, others, heq, hc⟩ := hsolid.head_append hrun rest
  rw [hwhite.takeWhile_append, hwhite.dropWhile_append, heq]
  simp [hc]

theorem scans_blank (hwhite : Blank white) :
    scans vocabulary exponents passed white = [.finish (passed ++ white)] := by
  have htake := hwhite.takeWhile_append []
  have hdrop := hwhite.dropWhile_append []
  rw [List.append_nil] at htake hdrop
  rw [scans]
  split
  · rw [htake]
    simp
  · next h => simp [hdrop] at h

theorem scans_lexeme (hwhite : Blank white) (hsolid : Solid run) (hrun : run ≠ [])
    (hlexeme : Front.lexeme exponents (run ++ rest) = (shape, run)) :
    scans vocabulary exponents passed (white ++ (run ++ rest)) =
      .taken vocabulary (passed ++ white) shape run ::
        scans vocabulary exponents (passed ++ white ++ run) rest := by
  obtain ⟨htake, hdrop⟩ := hwhite.dropWhile_solid hsolid hrun rest
  rw [scans]
  split
  · next h => simp [hdrop, hrun] at h
  · next c others h =>
    rw [hdrop] at h
    rw [htake, ← h, hlexeme]
    simp

theorem scans_nil : scans vocabulary exponents passed [] = [.finish passed] := by
  have hscans := @scans_blank vocabulary exponents passed [] Blank.nil
  rwa [List.append_nil] at hscans

theorem scans_single (hsolid : Solid run) (hrun : run ≠ [])
    (hlexeme : Front.lexeme exponents run = (shape, run)) :
    scans vocabulary exponents passed run =
      [.taken vocabulary passed shape run, .finish (passed ++ run)] := by
  have hfront : Front.lexeme exponents (run ++ []) = (shape, run) := by rwa [List.append_nil]
  have hscans := @scans_lexeme vocabulary exponents passed _ _ _ _ Blank.nil hsolid hrun hfront
  simpa [scans_nil] using hscans

/-- Each scan but that of the end takes a character that is not white space. -/
theorem scans_length_le (vocabulary : Vocabulary) (exponents : Bool) (passed ahead : List Char) :
    (scans vocabulary exponents passed ahead).length ≤
      ahead.countP (fun c => !isWhiteSpace c) + 1 := by
  induction Front.parts exponents ahead generalizing passed with
  | blank hwhite => simp [scans_blank hwhite]
  | @lexeme white run rest shape hwhite hsolid hrun hlexeme _ ih =>
    have htaken : run.countP (fun c => !isWhiteSpace c) = run.length := by
      rw [List.countP_eq_length]
      intro c hc
      simp [hsolid c hc]
    have hpositive := List.length_pos_iff.mpr hrun
    have hothers := ih (passed ++ white ++ run)
    rw [scans_lexeme hwhite hsolid hrun hlexeme, List.length_cons, List.countP_append,
      List.countP_append, htaken]
    omega

end

namespace Lexer

variable {lexer : Lexer} {passed white run rest : List Char} {shape : Shape}

theorem approach_between {ahead : List Char} (hcursor : lexer.cursor = between passed ahead) :
    lexer.approach =
      { lexer with
        cursor := between (passed ++ ahead.takeWhile isWhiteSpace) (ahead.dropWhile isWhiteSpace)
        mark := Place.origin.pastAll (passed ++ ahead.takeWhile isWhiteSpace) } := by
  rw [approach, Cursor.skipWhiteSpace, hcursor, Cursor.advanceWhile_between]
  rfl

theorem approach_blank (hcursor : lexer.cursor = between passed white) (hwhite : Blank white) :
    lexer.approach =
      { lexer with
        cursor := between (passed ++ white) []
        mark := Place.origin.pastAll (passed ++ white) } := by
  have htake := hwhite.takeWhile_append []
  have hdrop := hwhite.dropWhile_append []
  rw [List.append_nil, List.takeWhile_nil, List.append_nil] at htake
  rw [List.append_nil, List.dropWhile_nil] at hdrop
  rw [approach_between hcursor, htake, hdrop]

theorem scan_blank (hcursor : lexer.cursor = between passed white) (hwhite : Blank white) :
    lexer.scan =
      ({ lexer with
          cursor := between (passed ++ white) []
          mark := Place.origin.pastAll (passed ++ white) },
        some (.finish (passed ++ white))) := by
  rw [scan, approach_blank hcursor hwhite]
  simp only [Cursor.atEnd_between, List.isEmpty_nil, if_true, span, Cursor.between_position]
  rfl

/-- A scan passes white space and takes the lexeme after it. -/
theorem scan_lexeme (hcursor : lexer.cursor = between passed (white ++ (run ++ rest)))
    (hwhite : Blank white) (hsolid : Solid run) (hrun : run ≠ [])
    (hlexeme : Front.lexeme lexer.exponents (run ++ rest) = (shape, run)) :
    lexer.scan =
      ({ lexer with
          cursor := between (passed ++ white ++ run) rest
          mark := Place.origin.pastAll (passed ++ white) },
        some (.taken lexer.vocabulary (passed ++ white) shape run)) := by
  obtain ⟨htake, hdrop⟩ := hwhite.dropWhile_solid hsolid hrun rest
  have hahead : (run ++ rest).isEmpty = false := by simp [hrun]
  rw [scan, approach_between hcursor, htake, hdrop]
  simp only [Cursor.atEnd_between, hahead, Bool.false_eq_true, if_false]
  rw [takeAs]
  simp only [Cursor.lexeme_between, hlexeme, Cursor.past, List.drop_left]
  simp only [text?, scanOf, span, Place.origin_pastAll_position, Cursor.textFrom?_between,
    Cursor.between_position, Option.map_some]
  rfl

end Lexer

end PayoffLexer
