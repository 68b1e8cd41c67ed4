import Mathlib.Data.List.Chain
import PayoffLexer.Proofs.Vocabulary

/-!
# The lexemes of a text

All scans of a text but the last are of lexemes. Each is of a solid run of the text's characters,
and the runs with the white space between them are the whole text.
-/

namespace PayoffLexer

open String (utf8Len utf8Len_append)
open Unicode (isWhiteSpace)

inductive Scan.IsLexeme (vocabulary : Vocabulary) (exponents : Bool) (cs : List Char) : Scan → Prop
  | intro {before run rest : List Char} {shape : Shape} (hsource : cs = before ++ run ++ rest)
    (hsolid : Solid run) (hrun : run ≠ [])
    (hlexeme : Front.lexeme exponents (run ++ rest) = (shape, run)) :
    IsLexeme vocabulary exponents cs (.taken vocabulary before shape run)

theorem Blank.filter_eq_nil {cs : List Char} (h : Blank cs) :
    cs.filter (fun c => !isWhiteSpace c) = [] := by
  rw [List.filter_eq_nil_iff]
  intro c hc
  simp [h c hc]

theorem Solid.filter_eq_self {cs : List Char} (h : Solid cs) :
    cs.filter (fun c => !isWhiteSpace c) = cs := by
  rw [List.filter_eq_self]
  intro c hc
  simp [h c hc]

/-- The bytes of the source from one offset to another are a range of white space. -/
def Gap (source : String) (start stop : Nat) : Prop :=
  start ≤ stop ∧ ∃ text, Text.slice? source start stop = some text ∧ Blank text.toList

theorem gap_between (before : List Char) {white : List Char} (after : List Char)
    (hwhite : Blank white) :
    Gap (String.ofList (before ++ white ++ after)) (utf8Len before)
      (utf8Len (before ++ white)) := by
  refine ⟨by simp, String.ofList white, Text.slice?_between before white after, ?_⟩
  rw [String.toList_ofList]
  exact hwhite

namespace Scan

variable {vocabulary : Vocabulary} {exponents : Bool} {cs before run white : List Char}
  {shape : Shape} {scan : Scan}

@[simp] theorem taken_text :
    (taken vocabulary before shape run).token.text = String.ofList run := rfl

@[simp] theorem taken_start :
    (taken vocabulary before shape run).token.span.start = utf8Len before :=
  Place.origin_pastAll_position before

@[simp] theorem taken_stop :
    (taken vocabulary before shape run).token.span.stop = utf8Len (before ++ run) := rfl

@[simp] theorem finish_start : (finish before).token.span.start = utf8Len before :=
  Place.origin_pastAll_position before

@[simp] theorem finish_stop : (finish before).token.span.stop = utf8Len before := rfl

theorem IsLexeme.kind_ne_endOfInput (h : IsLexeme vocabulary exponents cs scan)
    (hkinds : vocabulary.HasWordKinds) : scan.token.kind ≠ .endOfInput := by
  cases h with
  | intro hsource hsolid hrun hlexeme => exact taken_kind_ne_endOfInput hkinds _ hlexeme

theorem IsLexeme.start_lt_stop (h : IsLexeme vocabulary exponents cs scan) :
    scan.token.span.start < scan.token.span.stop := by
  cases h with
  | @intro before run rest shape hsource hsolid hrun hlexeme =>
    have hpos := Text.utf8Len_pos hrun
    rw [taken_start, taken_stop, utf8Len_append]
    omega

theorem IsLexeme.span_text (h : IsLexeme vocabulary exponents cs scan) :
    scan.token.span.text? (String.ofList cs) = some scan.token.text := by
  cases h with
  | @intro before run rest shape hsource hsolid hrun hlexeme =>
    rw [Span.text?, taken_start, taken_stop, hsource, Text.slice?_between, taken_text]

theorem IsLexeme.solid (h : IsLexeme vocabulary exponents cs scan) :
    Solid scan.token.text.toList := by
  cases h with
  | intro hsource hsolid hrun hlexeme =>
    rw [taken_text, String.toList_ofList]
    exact hsolid

end Scan

variable (vocabulary : Vocabulary) (exponents : Bool) (passed ahead : List Char)

/-- The last scan is of the end of the text, and all others are of lexemes. -/
theorem scans_eq_lexemes_finish :
    ∃ lexemes, scans vocabulary exponents passed ahead = lexemes ++ [.finish (passed ++ ahead)] ∧
      ∀ scan ∈ lexemes, scan.IsLexeme vocabulary exponents (passed ++ ahead) := by
  induction Front.parts exponents ahead generalizing passed with
  | blank hwhite => exact ⟨[], scans_blank hwhite, fun _ h => absurd h List.not_mem_nil⟩
  | @lexeme white run rest shape hwhite hsolid hrun hlexeme _ ih =>
    obtain ⟨lexemes, hlexemes, hall⟩ := ih (passed ++ white ++ run)
    have hsource : passed ++ (white ++ (run ++ rest)) = passed ++ white ++ run ++ rest := by simp
    rw [scans_lexeme hwhite hsolid hrun hlexeme, hlexemes, hsource]
    refine ⟨.taken vocabulary (passed ++ white) shape run :: lexemes, rfl, ?_⟩
    intro scan hscan
    rcases List.mem_cons.mp hscan with rfl | hscan
    · exact .intro rfl hsolid hrun hlexeme
    · exact hall scan hscan

variable {vocabulary exponents passed ahead} in
theorem isLexeme_or_finish {scan : Scan} (h : scan ∈ scans vocabulary exponents passed ahead) :
    scan.IsLexeme vocabulary exponents (passed ++ ahead) ∨ scan = .finish (passed ++ ahead) := by
  obtain ⟨lexemes, hscans, hlexemes⟩ := scans_eq_lexemes_finish vocabulary exponents passed ahead
  rw [hscans, List.mem_append, List.mem_singleton] at h
  exact h.imp_left (hlexemes scan)

theorem scans_first_gap :
    ∀ scan ∈ (scans vocabulary exponents passed ahead).head?,
      Gap (String.ofList (passed ++ ahead)) (utf8Len passed) scan.token.span.start := by
  intro scan hscan
  cases Front.parts exponents ahead with
  | blank hwhite =>
    rw [scans_blank hwhite] at hscan
    cases hscan
    have hgap := gap_between passed [] hwhite
    rw [List.append_nil] at hgap
    rwa [Scan.finish_start]
  | @lexeme white run rest shape hwhite hsolid hrun hlexeme _ =>
    rw [scans_lexeme hwhite hsolid hrun hlexeme] at hscan
    cases hscan
    rw [Scan.taken_start, ← List.append_assoc]
    exact gap_between passed (run ++ rest) hwhite

theorem scans_gaps :
    (scans vocabulary exponents passed ahead).IsChain fun scan next =>
      Gap (String.ofList (passed ++ ahead)) scan.token.span.stop next.token.span.start := by
  induction Front.parts exponents ahead generalizing passed with
  | blank hwhite =>
    rw [scans_blank hwhite]
    exact .singleton _
  | @lexeme white run rest shape hwhite hsolid hrun hlexeme _ ih =>
    have hsource : passed ++ (white ++ (run ++ rest)) = passed ++ white ++ run ++ rest := by simp
    rw [scans_lexeme hwhite hsolid hrun hlexeme, hsource, List.isChain_cons]
    refine ⟨?_, ih (passed ++ white ++ run)⟩
    intro next hnext
    rw [Scan.taken_stop]
    exact scans_first_gap vocabulary exponents (passed ++ white ++ run) rest next hnext

/-- The texts of all scans one after another are the characters ahead without white space. -/
theorem scans_texts :
    (scans vocabulary exponents passed ahead).flatMap (fun scan => scan.token.text.toList) =
      ahead.filter fun c => !isWhiteSpace c := by
  induction Front.parts exponents ahead generalizing passed with
  | blank hwhite =>
    rw [scans_blank hwhite, hwhite.filter_eq_nil]
    rfl
  | lexeme hwhite hsolid hrun hlexeme _ ih =>
    rw [scans_lexeme hwhite hsolid hrun hlexeme, List.flatMap_cons, ih, List.filter_append,
      List.filter_append, hwhite.filter_eq_nil, hsolid.filter_eq_self, Scan.taken_text,
      String.toList_ofList, List.nil_append]

end PayoffLexer
