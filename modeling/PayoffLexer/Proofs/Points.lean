import PayoffLexer.Proofs.Numbers
import PayoffLexer.Proofs.Session.Reported
import PayoffLexer.Proofs.Session.Yielded

/-!
# Points of numbers

A number has one point at most. What is reported as a malformed number has two points or more, as
the help says, unless an exponent stands between its digits and its only point.
-/

namespace PayoffLexer

/-- Digits with an exponent, and behind it the only point. -/
inductive LatePoint : List Char → Prop
  | intro {whole power others : List Char} (hwhole : Digits whole) (hpower : Exponent power)
    (hothers : ∀ c ∈ others, c.isDigit = true) : LatePoint (whole ++ power ++ '.' :: others)

/-- The diagnostic of a malformed number: the text it is about, the help, and when that is right. -/
structure PointReport (source : String) (diagnostic : Diagnostic) (text : String) : Prop where
  covers : diagnostic.span.text? source = some text
  helps : diagnostic.helps = ["a number has at most one decimal point"]
  truthful : 2 ≤ text.toList.count '.' ↔ ¬ LatePoint text.toList

/-- What is scanned of a source as a number has one point at most, and the help with the report of a
malformed number is right unless the point that it complains of stands behind an exponent. -/
structure Points (source : String) : Prop where
  number : ∀ {policy session}, Session.Reachable source policy session →
    ∀ operation, ∀ token ∈ (session.perform operation).2.yielded,
      token.kind = .number → token.text.toList.count '.' ≤ 1
  report : ∀ {diagnostic}, Session.Reported source diagnostic →
    diagnostic.code = some .invalidNumber → ∃ text, PointReport source diagnostic text

theorem point_notMem_of_digits {run : List Char} (h : ∀ c ∈ run, c.isDigit = true) :
    '.' ∉ run := fun hmem => absurd (h '.' hmem) (by decide)

theorem count_point_of_digits {run : List Char} (h : ∀ c ∈ run, c.isDigit = true) :
    run.count '.' = 0 := List.count_eq_zero.mpr (point_notMem_of_digits h)

theorem Exponent.count_point {power : List Char} (h : Exponent power) : power.count '.' = 0 := by
  cases h with
  | intro hmark hsign hpower =>
    have hdigits := count_point_of_digits hpower.2
    rcases hmark with rfl | rfl <;> rcases hsign with rfl | rfl | rfl <;> simp [hdigits]

theorem Mantissa.count_point_le {body : List Char} (h : Mantissa body) : body.count '.' ≤ 1 := by
  cases h with
  | whole hdigits => simp [count_point_of_digits hdigits.2]
  | pointed hdigits hfraction =>
    simp [count_point_of_digits hdigits.2, count_point_of_digits hfraction]
  | point hfraction => simp [count_point_of_digits hfraction.2]

theorem Mantissa.digits_of_notMem {body : List Char} (h : Mantissa body) (hnone : '.' ∉ body) :
    Digits body := by
  cases h with
  | whole hdigits => exact hdigits
  | pointed => simp at hnone
  | point => simp at hnone

theorem Literal.count_point_le {exponents : Bool} {cs : List Char} (h : Literal exponents cs) :
    cs.count '.' ≤ 1 := by
  cases h with
  | plain hbody => exact hbody.count_point_le
  | scaled hallowed hbody hpower =>
    rw [List.count_append, hpower.count_point]
    exact hbody.count_point_le

theorem LatePoint.count_point {text : List Char} (h : LatePoint text) : text.count '.' = 1 := by
  cases h with
  | intro hwhole hpower hothers =>
    simp [count_point_of_digits hwhole.2, hpower.count_point, count_point_of_digits hothers]

namespace Front

theorem number_digits_point_ne (exponents : Bool) {whole : List Char} (h : Digits whole)
    (others : List Char) : number exponents (whole ++ '.' :: others) ≠ whole := by
  intro hnumber
  apply point_notMem_of_digits h.2
  rw [← hnumber, number, mantissa_append h.2, mantissa_point]
  cases exponents <;> simp

/-- A number that the scanner has left at a point has one itself or ends with an exponent. -/
theorem point_mem_or_exponent {exponents : Bool} {literal others : List Char}
    (hliteral : Literal exponents literal)
    (hnumber : number exponents (literal ++ '.' :: others) = literal) :
    '.' ∈ literal ∨ ∃ whole power, literal = whole ++ power ∧ Digits whole ∧ Exponent power := by
  by_cases hpoint : '.' ∈ literal
  · exact .inl hpoint
  · right
    cases hliteral with
    | plain hbody =>
      have hdigits := hbody.digits_of_notMem hpoint
      exact absurd hnumber (number_digits_point_ne exponents hdigits others)
    | @scaled body power hallowed hbody hpower =>
      have hdigits := hbody.digits_of_notMem fun hmem => hpoint (List.mem_append_left _ hmem)
      exact ⟨body, power, rfl, hdigits, hpower⟩

end Front

/-- The only point of a malformed number stands behind an exponent. -/
theorem points_behind_literal {exponents : Bool} {literal others more : List Char}
    (hliteral : Literal exponents literal)
    (hnumber : Front.number exponents (literal ++ '.' :: others) = literal)
    (hmore : ∀ c ∈ more, c.isDigit = true ∨ c = '.') :
    2 ≤ (literal ++ '.' :: more).count '.' ↔ ¬ LatePoint (literal ++ '.' :: more) := by
  constructor
  · intro hmany hlate
    rw [hlate.count_point] at hmany
    omega
  · intro hnot
    have hcount : (literal ++ '.' :: more).count '.' = literal.count '.' + more.count '.' + 1 := by
      simp [Nat.add_assoc]
    by_cases hpoint : '.' ∈ more
    · have hpositive := List.count_pos_iff.mpr hpoint
      omega
    · rcases Front.point_mem_or_exponent hliteral hnumber with hmem | hscaled
      · have hpositive := List.count_pos_iff.mpr hmem
        omega
      · obtain ⟨whole, power, rfl, hwhole, hpower⟩ := hscaled
        -- Without a further point behind it the one behind the exponent stands alone.
        refine absurd (.intro hwhole hpower ?_) hnot
        intro c hc
        rcases hmore c hc with hdigit | rfl
        · exact hdigit
        · exact absurd hc hpoint

theorem Front.Reading.malformed_points {exponents : Bool} {ahead run : List Char}
    (h : Front.Reading exponents ahead .malformedNumber run) :
    2 ≤ run.count '.' ↔ ¬ LatePoint run := by
  cases h with
  | malformedNumber hnumber hpoint =>
    have hliteral := Front.number_spec exponents ((Front.beginsNumber_iff ahead).mp hnumber)
    have hsplit := List.prefix_iff_eq_append.mp (Front.number_begins exponents ahead)
    generalize hrest : ahead.drop (Front.number exponents ahead).length = rest at hpoint hsplit
    cases rest with
    | nil => cases hpoint
    | cons c others =>
      cases hpoint
      rw [List.takeWhile_cons_of_pos (by decide)]
      apply points_behind_literal hliteral
      · rw [hsplit]
      · intro c hc
        have hmember := takeWhile_all c hc
        simpa [Front.isDigitOrPoint] using hmember

theorem Faulty.pointReport {source : String} {diagnostic : Diagnostic}
    (h : Faulty source diagnostic) (hcode : diagnostic.code = some .invalidNumber) :
    ∃ text, PointReport source diagnostic text := by
  cases h with
  | @intro vocabulary exponents scan fault hlexeme hfault =>
    have hcovers := hlexeme.span_text
    rw [String.ofList_toList] at hcovers
    cases hlexeme with
    | @intro before run rest shape hsource hsolid hrun hlexeme =>
      change Lexer.faultOf (String.ofList run) shape = some fault at hfault
      cases shape with
      | malformedNumber =>
        cases hfault
        refine ⟨String.ofList run, hcovers, rfl, ?_⟩
        rw [String.toList_ofList]
        exact (Front.reading_of_lexeme hlexeme).malformed_points
      | unexpected c =>
        cases hfault
        cases hcode
      | word | number | symbol kind => cases hfault

namespace Session

variable {source : String} {session : Session} {token : Token}

theorem Scanned.count_point_le (h : Scanned source session token)
    (hkinds : session.lexer.vocabulary.HasWordKinds) (hkind : token.kind = .number) :
    token.text.toList.count '.' ≤ 1 := by
  cases h with
  | lexeme hlexeme => exact (hlexeme.literal hkinds hkind).count_point_le
  | eof => cases hkind

/-- Only behind an exponent the point of a malformed number may be its first. -/
theorem points (source : String) : Points source := by
  constructor
  · intro policy session h operation token htoken
    exact (h.standing.scanned_of_yielded htoken).count_point_le h.standing.kinds
  · intro diagnostic h
    exact h.faulty.pointReport

theorem points_trailing :
    ∃ text, PointReport "x 2.5. 1e5" ((Fault.malformedNumber "2.5.").diagnostic ⟨2, 6, 1, 3⟩)
      text := by
  have hkept : (Fault.malformedNumber "2.5.").diagnostic ⟨2, 6, 1, 3⟩ ∈
      ((start "x 2.5. 1e5" .collect).perform .tokenize).1.sink.diagnostics := by
    decide +kernel
  exact (points "x 2.5. 1e5").report (.kept (.perform (.fresh .start) .tokenize) hkept) rfl

/-- The point of this source is the only one, and the help with its report says that there are
more. -/
theorem points_late :
    ∃ diagnostic, Reported "1e5." diagnostic ∧ diagnostic.code = some .invalidNumber ∧
      diagnostic.helps = ["a number has at most one decimal point"] ∧
      diagnostic.span.text? "1e5." = some "1e5." ∧ "1e5.".toList.count '.' = 1 := by
  have hkept : (Fault.malformedNumber "1e5.").diagnostic ⟨0, 4, 1, 1⟩ ∈
      ((start "1e5." .collect).perform .tokenize).1.sink.diagnostics := by
    decide +kernel
  exact ⟨_, .kept (.perform (.fresh .start) .tokenize) hkept, rfl, rfl, by decide +kernel,
    by decide⟩

end Session

end PayoffLexer
