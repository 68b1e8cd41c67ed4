import PayoffLexer.Proofs.Cursor.Columns
import PayoffLexer.Proofs.Excerpts
import PayoffLexer.Proofs.Session.Reported
import PayoffLexer.Proofs.Text.OneLine

/-!
# Carets under the text at fault

A report shows the line of its token and under it as many carets as the token has characters, each
below one of them. Lines of the source are told apart by the reader of the report and by the cursor
in two ways, and the numbers of the cursor hold for both.
-/

namespace PayoffLexer

open Unicode (isWhiteSpace)
open String (utf8Len)
open Text (lastLine)

namespace Diagnostic

/-- The rows of a report with carets under some characters of a line of the source. -/
def rows (diagnostic : Diagnostic) (line : String) (carets : Nat) : List String :=
  let number := toString diagnostic.span.line.toNat
  let width := max 3 number.length
  let shown := line.toList.take (diagnostic.span.column.toNat - 1)
  let padding := shown.map fun c => if isWhiteSpace c then c else ' '
  [diagnostic.header,
    "  --> " ++ number ++ ":" ++ toString diagnostic.span.column.toNat,
    String.ofList (List.replicate (width - number.length) ' ') ++ number ++ " | " ++ line,
    String.ofList (List.replicate width ' ') ++ " | " ++ String.ofList padding ++
      String.ofList (List.replicate carets '^')] ++
    diagnostic.helps.map fun help => "  = help: " ++ help

variable {diagnostic : Diagnostic} {source line : String} {carets : Nat}

theorem render_eq_rows (hplace : diagnostic.span.line.toNat ≠ 0)
    (hline : Text.line? source (diagnostic.span.line.toNat - 1) = some line)
    (hwidth : diagnostic.width source = carets) (hcarets : 1 ≤ carets) :
    diagnostic.render source =
      String.join ((diagnostic.rows line carets).map fun row => row ++ "\n") := by
  have hexcerpt : diagnostic.excerpt? source =
      some ⟨line, diagnostic.span.line.toNat, diagnostic.span.column.toNat,
        diagnostic.span.column.toNat + carets⟩ := by
    simp only [excerpt?, if_neg hplace, hline, hwidth, Option.map_some]
  have hends : max 1 (diagnostic.span.column.toNat + carets - diagnostic.span.column.toNat) =
      carets := by
    omega
  have hdigits : (toString diagnostic.span.line.toNat).length =
      (Nat.toDigits 10 diagnostic.span.line.toNat).length := by
    rw [Nat.toString_eq_ofList_toDigits, String.length_ofList]
  rw [render, location, hexcerpt, ← String.toList_inj]
  simp only [rows, Excerpt.format, Excerpt.gutter, Excerpt.gutterWidth, Excerpt.numberDigits,
    Excerpt.padding, Excerpt.carets, hends, hdigits]
  simp [helpLine, List.flatMap_map, Function.comp_def]

theorem rows_oneLine (hheader : OneLine diagnostic.header)
    (hhelps : ∀ help ∈ diagnostic.helps, OneLine help) (hline : OneLine line) (carets : Nat) :
    ∀ row ∈ diagnostic.rows line carets, OneLine row := by
  have hspaces (n : Nat) : OneLine (String.ofList (List.replicate n ' ')) :=
    oneLine_replicate (by decide) n
  have hbar : OneLine " | " := by decide
  have hpadding (n : Nat) : OneLine (String.ofList
      ((line.toList.take n).map fun c => if isWhiteSpace c then c else ' ')) :=
    oneLine_ofList.mpr (Excerpt.newline_notMem_repeated hline n)
  intro row hrow
  simp only [rows, List.cons_append, List.nil_append, List.mem_cons, List.mem_map] at hrow
  rcases hrow with rfl | rfl | rfl | rfl | ⟨help, hhelp, rfl⟩
  · exact hheader
  · exact ((((by decide : OneLine "  --> ").append (oneLine_toString _)).append
      (by decide : OneLine ":")).append (oneLine_toString _))
  · exact (((hspaces _).append (oneLine_toString _)).append hbar).append hline
  · exact (((hspaces _).append hbar).append (hpadding _)).append (oneLine_replicate (by decide) _)
  · exact (by decide : OneLine "  = help: ").append (hhelps help hhelp)

/-- The report of the diagnostic shows the line of the source and has its carets exactly under the
text. -/
structure PointsAt (source : String) (diagnostic : Diagnostic) (line text : String) : Prop where
  covers : diagnostic.span.text? source = some text
  place : 1 ≤ diagnostic.span.line.toNat ∧ 1 ≤ diagnostic.span.column.toNat
  found : Text.line? source (diagnostic.span.line.toNat - 1) = some line
  reaches : diagnostic.span.column.toNat - 1 ≤ line.length
  under : (line.toList.drop (diagnostic.span.column.toNat - 1)).take text.length = text.toList
  render : diagnostic.render source =
    String.join ((diagnostic.rows line text.length).map fun row => row ++ "\n")
  count : (diagnostic.rows line text.length).length = 4 + diagnostic.helps.length
  oneLine : ∀ row ∈ diagnostic.rows line text.length, OneLine row

/-- A diagnostic points at the text of its span, if this stands on its line in its column. -/
theorem pointsAt {shown run tail : List Char} {index : Nat} (hrun : run ≠ [])
    (hcovers : diagnostic.span.text? source = some (String.ofList run))
    (hline : diagnostic.span.line.toNat = index + 1)
    (hcolumn : diagnostic.span.column.toNat = shown.length + 1)
    (hfound : Text.line? source index = some (String.ofList (shown ++ (run ++ tail))))
    (hshown : OneLine (String.ofList (shown ++ (run ++ tail))))
    (hheader : OneLine diagnostic.header) (hhelps : ∀ help ∈ diagnostic.helps, OneLine help) :
    diagnostic.PointsAt source (String.ofList (shown ++ (run ++ tail))) (String.ofList run) := by
  have hindex : diagnostic.span.line.toNat - 1 = index := by omega
  have hbefore : diagnostic.span.column.toNat - 1 = shown.length := by omega
  have hcarets : 1 ≤ (String.ofList run).length := by
    rw [String.length_ofList]
    exact List.length_pos_iff.mpr hrun
  have hwidth : diagnostic.width source = (String.ofList run).length := by
    rw [width, hcovers]
  constructor
  · exact hcovers
  · omega
  · rw [hindex, hfound]
  · rw [hbefore, String.length_ofList, List.length_append]
    omega
  · simp [hbefore]
  · apply render_eq_rows (by omega) _ hwidth hcarets
    rw [hindex, hfound]
  · simp only [rows, List.length_append, List.length_cons, List.length_nil, List.length_map]
  · exact rows_oneLine hheader hhelps hshown _

end Diagnostic

theorem Solid.breaks_no_line {run : List Char} (h : Solid run) :
    ∀ c ∈ run, c ≠ '\n' ∧ c ≠ '\r' := by
  intro c hc
  have hsolid := h c hc
  constructor <;> rintro rfl <;> exact absurd hsolid (by decide)

/-- A lexeme stands on the line that the line feeds before it tell, after what stands there before
it. -/
theorem line?_lexeme {source : String} {before run rest : List Char}
    (hsource : source.toList = before ++ run ++ rest) (hsolid : Solid run) (hrun : run ≠ []) :
    ∃ tail, Text.line? source (before.count '\n') =
        some (String.ofList (lastLine before ++ (run ++ tail))) ∧
      OneLine (String.ofList (lastLine before ++ (run ++ tail))) := by
  have hbreaks := hsolid.breaks_no_line
  obtain ⟨tail, others, hbreak⟩ := Text.breakLines_run hbreaks hrun rest
  have hhead : (run ++ rest).head? ≠ some '\n' := by
    obtain ⟨c, cs, rfl⟩ := List.exists_cons_of_ne_nil hrun
    simpa using (hbreaks c List.mem_cons_self).1
  have hline := Text.breakLines_append before hbreak hhead
  rw [← List.append_assoc, ← hsource] at hline
  refine ⟨tail, ?_, ?_⟩
  · rw [Text.line?, hline, Option.map_some]
  · rw [oneLine_ofList]
    exact Text.newline_not_mem_breakLines source.toList _ (List.mem_of_getElem? hline)

theorem faultOf_quotesOneLine {run : List Char} (hsolid : Solid run) {shape : Shape} {fault : Fault}
    (hfault : Lexer.faultOf (String.ofList run) shape = some fault) : fault.QuotesOneLine := by
  cases shape with
  | malformedNumber =>
    cases hfault
    exact oneLine_ofList.mpr fun hmem => (hsolid.breaks_no_line _ hmem).1 rfl
  | unexpected c =>
    cases hfault
    trivial
  | word | number | symbol kind => cases hfault

theorem Faulty.pointsAt {source : String} {diagnostic : Diagnostic} (h : Faulty source diagnostic)
    (hshort : source.length < 2 ^ 32 - 1) : ∃ line text, diagnostic.PointsAt source line text := by
  cases h with
  | @intro vocabulary exponents scan fault hlexeme hfault =>
    cases hlexeme with
    | @intro before run rest shape hsource hsolid hrun hlexeme =>
      -- The lexeme itself takes a character, so the numbers of its place do not wrap around.
      have hbefore : before.length + 1 < 2 ^ 32 := by
        rw [← String.length_toList, hsource, List.length_append, List.length_append] at hshort
        omega
      have hline : (Place.origin.pastAll before).line.toNat = before.count '\n' + 1 :=
        Place.pastAll_line hbefore
      have hcolumn : (Place.origin.pastAll before).column.toNat = (lastLine before).length + 1 :=
        Place.pastAll_column hbefore
      obtain ⟨tail, hfound, honeLine⟩ := line?_lexeme hsource hsolid hrun
      have hcovers : Text.slice? source (Place.origin.pastAll before).position
          (utf8Len (before ++ run)) = some (String.ofList run) := by
        rw [Place.origin_pastAll_position]
        exact Text.slice?_of_toList hsource
      exact ⟨_, _, Diagnostic.pointsAt hrun hcovers hline hcolumn hfound honeLine
        (Fault.header_oneLine _ (faultOf_quotesOneLine hsolid hfault)) (Fault.helps_oneLine _)⟩

namespace Session

/-- The report of every diagnostic of a lexer has its carets exactly under the text at fault. -/
theorem reported_pointsAt {source : String} {diagnostic : Diagnostic}
    (h : Reported source diagnostic) (hshort : source.length < 2 ^ 32 - 1) :
    ∃ line text, diagnostic.PointsAt source line text :=
  h.faulty.pointsAt hshort

theorem reported_pointsAt_second_line :
    ∃ line text, ((Fault.unexpectedCharacter '$').diagnostic ⟨7, 8, 2, 4⟩).PointsAt
      "x\r\n\té $ 1" line text := by
  have hkept : (Fault.unexpectedCharacter '$').diagnostic ⟨7, 8, 2, 4⟩ ∈
      ((start "x\r\n\té $ 1" .collect).perform .tokenize).1.sink.diagnostics := by
    decide +kernel
  exact reported_pointsAt (.kept (.perform (.fresh .start) .tokenize) hkept) (by decide)

end Session

end PayoffLexer
