import PayoffLexer.Proofs.Lexeme.Boundary
import PayoffLexer.Proofs.Lexeme.Grammar

/-!
# The longest number

The scanner takes the digits, the fraction and the exponent of a number one after another and never
goes back. What it has taken in the end is a number of the grammar, and no longer one begins the
text.
-/

namespace PayoffLexer

/-- The run is the longest beginning of the text that has the property. -/
structure LongestFront (Fits : List Char → Prop) (ahead run : List Char) : Prop where
  fits : Fits run
  begins : run <+: ahead
  longest : ∀ other, Fits other → other <+: ahead → other.length ≤ run.length

theorem LongestFront.unique {Fits : List Char → Prop} {ahead run other : List Char}
    (h : LongestFront Fits ahead run) (hother : LongestFront Fits ahead other) : run = other := by
  have hle := h.longest other hother.fits hother.begins
  have hge := hother.longest run h.fits h.begins
  exact (List.prefix_of_prefix_length_le h.begins hother.begins hge).eq_of_length (by omega)

inductive NumberAhead : List Char → Prop
  | digit {c : Char} {rest : List Char} (hdigit : c.isDigit = true) : NumberAhead (c :: rest)
  | point {d : Char} {rest : List Char} (hdigit : d.isDigit = true) : NumberAhead ('.' :: d :: rest)

namespace Front

theorem beginsNumber_iff (ahead : List Char) : beginsNumber ahead = true ↔ NumberAhead ahead := by
  constructor
  · intro h
    cases ahead with
    | nil => exact absurd h (by decide)
    | cons c rest =>
      rcases (beginsNumber_cons c rest).mp h with hdigit | ⟨rfl, d, tail, rfl, hdigit⟩
      · exact .digit hdigit
      · exact .point hdigit
  · intro h
    cases h with
    | digit hdigit => exact (beginsNumber_cons _ _).mpr (.inl hdigit)
    | point hdigit => exact (beginsNumber_cons _ _).mpr (.inr ⟨rfl, _, _, rfl, hdigit⟩)

theorem takeWhile_longest (p : Char → Bool) (ahead : List Char) :
    LongestFront (fun run => ∀ c ∈ run, p c = true) ahead (ahead.takeWhile p) := by
  refine ⟨takeWhile_all, List.takeWhile_prefix p, ?_⟩
  rintro other hall ⟨rest, rfl⟩
  rw [List.takeWhile_append_of_pos hall]
  simp

section parts
variable {run : List Char}

theorem digits_append (h : ∀ c ∈ run, c.isDigit = true) (rest : List Char) :
    digits (run ++ rest) = run ++ digits rest := List.takeWhile_append_of_pos h

theorem digits_cons_of_not {c : Char} (h : c.isDigit = false) (rest : List Char) :
    digits (c :: rest) = [] := by
  simp [digits, h]

theorem mantissa_append (h : ∀ c ∈ run, c.isDigit = true) (rest : List Char) :
    mantissa (run ++ rest) = run ++ mantissa rest := by
  simp [mantissa, digits_append h, List.drop_length_add_append]

theorem mantissa_point (rest : List Char) : mantissa ('.' :: rest) = '.' :: digits rest := by
  have hpoint : digits ('.' :: rest) = [] := digits_cons_of_not (by decide) rest
  simp [mantissa, hpoint, fraction]

theorem mantissa_cons_of_not {c : Char} (hdigit : c.isDigit = false) (hpoint : c ≠ '.')
    (rest : List Char) : mantissa (c :: rest) = [] := by
  simp [mantissa, digits_cons_of_not hdigit, fraction_cons, hpoint]

end parts

theorem mantissa_spec {ahead : List Char} (h : NumberAhead ahead) : Mantissa (mantissa ahead) := by
  cases h with
  | @digit c rest hdigit =>
    have hdigits : Digits (digits (c :: rest)) := by
      refine ⟨?_, takeWhile_all⟩
      simp [digits, hdigit]
    rw [mantissa]
    -- The fraction decides whether the digits have a point behind them.
    cases (c :: rest).drop (digits (c :: rest)).length with
    | nil => simpa [fraction] using Mantissa.whole hdigits
    | cons d tail =>
      by_cases hd : d = '.'
      · subst hd
        exact .pointed hdigits takeWhile_all
      · simpa [fraction_cons, hd] using Mantissa.whole hdigits
  | @point d rest hdigit =>
    rw [mantissa_point]
    refine .point ⟨?_, takeWhile_all⟩
    simp [digits, hdigit]

theorem sign_cases (ahead : List Char) :
    sign ahead = [] ∨ sign ahead = ['+'] ∨ sign ahead = ['-'] := by
  simp only [sign]
  split <;> simp

theorem exponent_spec (ahead : List Char) : exponent ahead = [] ∨ Exponent (exponent ahead) := by
  cases ahead with
  | nil => exact .inl rfl
  | cons mark rest =>
    rw [exponent_cons]
    split
    · next h =>
      exact .inr (.intro h.1 (sign_cases rest) ⟨h.2, takeWhile_all⟩)
    · exact .inl rfl

theorem number_spec (exponents : Bool) {ahead : List Char} (h : NumberAhead ahead) :
    Literal exponents (number exponents ahead) := by
  have hbody := mantissa_spec h
  rw [number]
  cases exponents with
  | false => exact .plain hbody
  | true =>
    rcases exponent_spec (ahead.drop (mantissa ahead).length) with hnone | hpower
    · simpa [hnone] using Literal.plain hbody
    · exact .scaled rfl hbody hpower

end Front

open Front

theorem Exponent.exists_mark {power : List Char} (h : Exponent power) :
    ∃ mark rest, power = mark :: rest ∧ mark.isDigit = false ∧ mark ≠ '.' := by
  cases h with
  | intro hmark => rcases hmark with rfl | rfl <;> exact ⟨_, _, rfl, by decide, by decide⟩

/-- Digits with or without a point are taken whole, and more only where digits follow them or, if
there is no point yet, a fraction. -/
theorem Mantissa.mantissa_append {body : List Char} (h : Mantissa body) (rest : List Char) :
    mantissa (body ++ rest) = body ++ mantissa rest ∨
      mantissa (body ++ rest) = body ++ digits rest := by
  cases h with
  | whole hdigits => exact .inl (Front.mantissa_append hdigits.2 rest)
  | pointed hdigits hfraction =>
    right
    rw [List.append_assoc, Front.mantissa_append hdigits.2, List.cons_append, mantissa_point,
      digits_append hfraction]
    simp
  | point hfraction =>
    right
    rw [List.cons_append, mantissa_point, digits_append hfraction.2, List.cons_append]

theorem Mantissa.mantissa_mark {body : List Char} (h : Mantissa body) {mark : Char}
    (hdigit : mark.isDigit = false) (hpoint : mark ≠ '.') (rest : List Char) :
    mantissa (body ++ mark :: rest) = body := by
  rcases h.mantissa_append (mark :: rest) with hmore | hmore <;>
    simp [hmore, mantissa_cons_of_not hdigit hpoint, digits_cons_of_not hdigit]

theorem Exponent.begins_exponent {power : List Char} (h : Exponent power) (rest : List Char) :
    power <+: exponent (power ++ rest) := by
  cases h with
  | @intro mark lead digits hmark hsign hpower =>
    obtain ⟨d, tail, rfl⟩ := List.exists_cons_of_ne_nil hpower.1
    have hsignRun : sign (lead ++ d :: tail ++ rest) = lead := by
      rcases hsign with rfl | rfl | rfl
      · have hd : d.isDigit = true := hpower.2 d List.mem_cons_self
        have hnone : ¬ (d = '+' ∨ d = '-') := by
          rintro (rfl | rfl) <;> exact absurd hd (by decide)
        simp [sign_cons, hnone]
      · rfl
      · rfl
    have hdrop : (lead ++ d :: tail ++ rest).drop lead.length = d :: tail ++ rest := by simp
    rw [List.cons_append, exponent_cons, hsignRun, hdrop, digits_append hpower.2,
      if_pos ⟨hmark, by simp⟩]
    simp

theorem Literal.numberAhead {exponents : Bool} {cs : List Char} (h : Literal exponents cs) :
    NumberAhead cs := by
  have hbegins := h.beginsNumber []
  rwa [List.append_nil, beginsNumber_iff] at hbegins

theorem Literal.begins_number {exponents : Bool} {cs : List Char} (h : Literal exponents cs)
    (rest : List Char) : cs <+: number exponents (cs ++ rest) := by
  cases h with
  | plain hbody =>
    have hmantissa : cs <+: mantissa (cs ++ rest) := by
      rcases hbody.mantissa_append rest with hmore | hmore <;> simp [hmore]
    refine hmantissa.trans ?_
    rw [number]
    cases exponents <;> simp
  | @scaled body power hallowed hbody hpower =>
    obtain ⟨mark, others, hmark, hdigit, hpoint⟩ := hpower.exists_mark
    have hbegins := hpower.begins_exponent rest
    have hmantissa : mantissa (body ++ (power ++ rest)) = body := by
      rw [hmark]
      exact hbody.mantissa_mark hdigit hpoint (others ++ rest)
    rw [number, hallowed, List.append_assoc, hmantissa]
    simpa using hbegins

/-- The scanner takes the longest number of the grammar. -/
theorem Front.number_longest (exponents : Bool) {ahead : List Char} (h : NumberAhead ahead) :
    LongestFront (Literal exponents) ahead (number exponents ahead) := by
  refine ⟨number_spec exponents h, number_begins exponents ahead, ?_⟩
  rintro other hother ⟨rest, rfl⟩
  exact (hother.begins_number rest).length_le

theorem Mantissa.number_refused {body : List Char} (h : Mantissa body) (exponents : Bool)
    {mark : Char} (hmark : mark = 'e' ∨ mark = 'E') {tail : List Char}
    (hnone : ∀ power, Exponent power → ¬ power <+: mark :: tail) :
    number exponents (body ++ mark :: tail) = body := by
  have hmantissa : mantissa (body ++ mark :: tail) = body := by
    rcases hmark with rfl | rfl <;> exact h.mantissa_mark (by decide) (by decide) tail
  have hexponent : exponent (mark :: tail) = [] := by
    rcases exponent_spec (mark :: tail) with hnil | hpower
    · exact hnil
    · exact absurd (exponent_begins (mark :: tail)) (hnone _ hpower)
  rw [number, hmantissa]
  cases exponents <;> simp [hexponent]

end PayoffLexer
