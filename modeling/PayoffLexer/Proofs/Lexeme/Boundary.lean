import PayoffLexer.Proofs.Lexeme.Solid

/-!
# The boundary behind a lexeme

What stands behind a lexeme can be cut off without a change to the lexeme, for no part of it looks
ahead in the hope of more than it finds there. As a lexeme holds no white space, it is the same
before white space as it is at the end of the text.
-/

namespace PayoffLexer

open Cursor (endMark)
open Unicode (isWhiteSpace)

namespace Front

/-- The part at the front of a text is the same without the text behind it. -/
def Stable (part : List Char → List Char) : Prop :=
  ∀ kept cut, part (kept ++ cut) <+: kept → part kept = part (kept ++ cut)

theorem Stable.append {first second : List Char → List Char} (hfirst : Stable first)
    (hsecond : Stable second) :
    Stable fun ahead => first ahead ++ second (ahead.drop (first ahead).length) := by
  intro kept cut h
  dsimp only at h ⊢
  have hbegins : first (kept ++ cut) <+: kept := (List.prefix_append _ _).trans h
  rw [hfirst kept cut hbegins]
  generalize first (kept ++ cut) = run at h hbegins ⊢
  obtain ⟨rest, rfl⟩ := hbegins
  rw [List.append_assoc, List.drop_left, List.prefix_append_right_inj] at h
  rw [List.append_assoc, List.drop_left, List.drop_left, hsecond rest cut h]

theorem takeWhile_stable (p : Char → Bool) : Stable (List.takeWhile p) := by
  intro kept cut h
  rw [List.takeWhile_append] at h ⊢
  split
  · next hall =>
    rw [if_pos hall] at h
    have hnone : cut.takeWhile p = [] := by
      have hlength := h.length_le
      rw [List.length_append] at hlength
      exact List.eq_nil_of_length_eq_zero (by omega)
    rw [hnone, List.append_nil]
    exact (List.takeWhile_prefix p).eq_of_length hall
  · rfl

theorem digits_stable : Stable digits := takeWhile_stable Char.isDigit

theorem fraction_stable : Stable fraction := by
  intro kept cut h
  cases kept with
  | nil => exact (List.prefix_nil.mp h).symm
  | cons c kept =>
    rw [List.cons_append, fraction_cons] at h ⊢
    rw [fraction_cons]
    by_cases hc : c = '.'
    · subst hc
      rw [if_pos rfl, List.cons_prefix_cons] at h
      rw [if_pos rfl, if_pos rfl, digits_stable kept cut h.2]
    · rw [if_neg hc, if_neg hc]

theorem sign_stable : Stable sign := by
  intro kept cut h
  cases kept with
  | nil => exact (List.prefix_nil.mp h).symm
  | cons c kept => rw [List.cons_append, sign_cons, sign_cons]

/-- Where no digits follow the sign, none follow it in a shorter text. -/
theorem digits_sign_nil {kept cut : List Char}
    (h : digits ((kept ++ cut).drop (sign (kept ++ cut)).length) = []) :
    digits (kept.drop (sign kept).length) = [] := by
  cases kept with
  | nil => rfl
  | cons c kept =>
    have hsign : sign (c :: kept) = sign (c :: kept ++ cut) := by
      rw [List.cons_append, sign_cons, sign_cons]
    rw [← hsign, List.drop_append, digits, List.takeWhile_append] at h
    split at h
    · rw [(List.append_eq_nil_iff.mp h).1]
      rfl
    · exact h

theorem exponent_stable : Stable exponent := by
  intro kept cut h
  cases kept with
  | nil => exact (List.prefix_nil.mp h).symm
  | cons mark kept =>
    rw [List.cons_append, exponent_cons] at h ⊢
    rw [exponent_cons]
    by_cases hmark : mark = 'e' ∨ mark = 'E'
    · by_cases hpower : digits ((kept ++ cut).drop (sign (kept ++ cut)).length) = []
      · rw [if_neg (fun h => h.2 (digits_sign_nil hpower)), if_neg (fun h => h.2 hpower)]
      · rw [if_pos ⟨hmark, hpower⟩, List.cons_prefix_cons] at h
        have hsign : sign kept = sign (kept ++ cut) :=
          sign_stable kept cut ((List.prefix_append _ _).trans h.2)
        have hsame := sign_stable.append digits_stable kept cut h.2
        dsimp only at hsame
        have hdigits : digits (kept.drop (sign kept).length) =
            digits ((kept ++ cut).drop (sign (kept ++ cut)).length) := by
          rw [hsign] at hsame ⊢
          exact List.append_cancel_left hsame
        rw [← hdigits] at hpower
        rw [if_pos ⟨hmark, hpower⟩, hsame, ← hdigits, if_pos ⟨hmark, hpower⟩]
    · rw [if_neg (fun h => hmark h.1), if_neg (fun h => hmark h.1)]

theorem mantissa_stable : Stable mantissa := digits_stable.append fraction_stable

theorem number_stable (exponents : Bool) : Stable (number exponents) := by
  cases exponents with
  | false => exact mantissa_stable
  | true => exact mantissa_stable.append exponent_stable

theorem head?_append_of_head? {kept cut : List Char} {c : Char} (h : kept.head? = some c) :
    (kept ++ cut).head? = some c := by
  rw [List.head?_append, h, Option.some_or]

theorem beginsNumber_append {kept : List Char} (h : beginsNumber kept = true) (cut : List Char) :
    beginsNumber (kept ++ cut) = true := by
  cases kept with
  | nil => exact absurd h (by decide)
  | cons c kept =>
    rw [List.cons_append, beginsNumber_cons]
    rcases (beginsNumber_cons c kept).mp h with hdigit | ⟨hpoint, d, tail, rfl, hd⟩
    · exact .inl hdigit
    · exact .inr ⟨hpoint, d, tail ++ cut, rfl, hd⟩

theorem beginsNumber_of_append {exponents : Bool} {kept cut : List Char}
    (h : beginsNumber (kept ++ cut) = true) (hrun : number exponents (kept ++ cut) <+: kept) :
    beginsNumber kept = true := by
  have hmantissa : mantissa (kept ++ cut) <+: kept := by
    refine List.IsPrefix.trans ?_ hrun
    rw [number]
    cases exponents with
    | false => exact List.prefix_rfl
    | true => exact List.prefix_append _ _
  have hne := mantissa_ne_nil h
  cases kept with
  | nil => exact absurd (List.prefix_nil.mp hmantissa) hne
  | cons c kept =>
    rw [beginsNumber_cons]
    rcases (beginsNumber_cons c (kept ++ cut)).mp h with hdigit | ⟨rfl, d, tail, htail, hd⟩
    · exact .inl hdigit
    · -- The number is at least the point and the digit behind it.
      have hbegins : ['.', d] <+: mantissa ('.' :: kept ++ cut) := by
        rw [List.cons_append, htail]
        simp [mantissa, digits, fraction, hd]
      obtain ⟨rest, hrest⟩ := hbegins.trans hmantissa
      rw [List.cons_append, List.cons_append, List.cons.injEq] at hrest
      exact .inr ⟨rfl, d, rest, hrest.2.symm, hd⟩

/-- What is known of a lexeme determines it. -/
theorem Reading.lexeme_eq {exponents : Bool} {ahead run : List Char} {shape : Shape}
    (h : Reading exponents ahead shape run) : lexeme exponents ahead = (shape, run) := by
  rw [lexeme]
  cases h with
  | number hnumber hend => rw [if_pos hnumber, numberLexeme, if_neg hend]
  | malformedNumber hnumber hpoint => rw [if_pos hnumber, numberLexeme, if_pos hpoint]
  | word hnumber hword => rw [hnumber, if_neg Bool.false_ne_true, if_pos hword]
  | symbol hnumber hword hsymbol =>
    rw [hnumber, hword, if_neg Bool.false_ne_true, if_neg Bool.false_ne_true, hsymbol]
  | unexpected hnumber hword hsymbol =>
    rw [hnumber, hword, if_neg Bool.false_ne_true, if_neg Bool.false_ne_true, hsymbol]

theorem symbol?_some_of_append {kept cut : List Char} {text : String} {kind : Kind}
    (h : symbol? (kept ++ cut) = some (text, kind)) (hrun : text.toList <+: kept) :
    symbol? kept = some (text, kind) := by
  rw [symbol?, List.find?_eq_some_iff_append] at h ⊢
  obtain ⟨-, before, after, hsymbols, hbefore⟩ := h
  refine ⟨List.isPrefixOf_iff_prefix.mpr hrun, before, after, hsymbols, ?_⟩
  intro entry hentry
  have hnot := hbefore entry hentry
  rw [Bool.not_eq_true', Bool.eq_false_iff, ne_eq, List.isPrefixOf_iff_prefix] at hnot ⊢
  exact fun h => hnot (h.trans (List.prefix_append kept cut))

theorem symbol?_none_of_append {kept cut : List Char} (h : symbol? (kept ++ cut) = none) :
    symbol? kept = none := by
  rw [symbol?, List.find?_eq_none] at h ⊢
  intro entry hentry
  have hnot := h entry hentry
  rw [List.isPrefixOf_iff_prefix] at hnot ⊢
  exact fun h => hnot (h.trans (List.prefix_append kept cut))

/-- The lexeme at the front of a text is the same without the text behind it. -/
theorem lexeme_of_append {exponents : Bool} {kept cut run : List Char} {shape : Shape}
    (hlexeme : lexeme exponents (kept ++ cut) = (shape, run)) (hne : kept ≠ [])
    (hrun : run <+: kept) : lexeme exponents kept = (shape, run) := by
  obtain ⟨c, others, hkept⟩ := List.exists_cons_of_ne_nil hne
  have hhead : (kept ++ cut).head?.getD endMark = kept.head?.getD endMark := by
    rw [hkept]
    rfl
  have hnot (h : beginsNumber (kept ++ cut) = false) : beginsNumber kept = false := by
    rw [Bool.eq_false_iff] at h ⊢
    exact fun hkept => h (beginsNumber_append hkept cut)
  apply Reading.lexeme_eq
  cases reading_of_lexeme hlexeme with
  | number hnumber hend =>
    have hsame := number_stable exponents kept cut hrun
    rw [← hsame] at hend ⊢
    refine .number (beginsNumber_of_append hnumber hrun) fun hpoint => hend ?_
    rw [List.drop_append]
    exact head?_append_of_head? hpoint
  | malformedNumber hnumber hpoint =>
    have hbody := (List.prefix_append _ _).trans hrun
    have hsame := number_stable exponents kept cut hbody
    have hwhole := (number_stable exponents).append (takeWhile_stable isDigitOrPoint) kept cut hrun
    dsimp only at hwhole
    rw [← hwhole]
    rw [← hsame] at hpoint hrun
    refine .malformedNumber (beginsNumber_of_append hnumber hbody) ?_
    -- The run has the point behind the number, so the point is kept with it.
    rw [List.drop_append] at hpoint hrun
    cases hrest : kept.drop (number exponents kept).length with
    | nil =>
      rw [hrest, List.nil_append] at hpoint hrun
      obtain ⟨tail, htail⟩ := List.head?_eq_some_iff.mp hpoint
      have hlong := hrun.length_le
      have hshort := List.drop_eq_nil_iff.mp hrest
      rw [htail, List.length_append, List.takeWhile_cons_of_pos (by decide),
        List.length_cons] at hlong
      omega
    | cons d tail => simpa [hrest] using hpoint
  | word hnumber hword =>
    rw [← takeWhile_stable continuesWord kept cut hrun]
    exact .word (hnot hnumber) (hhead ▸ hword)
  | symbol hnumber hword hsymbol =>
    exact .symbol (hnot hnumber) (hhead ▸ hword) (symbol?_some_of_append hsymbol hrun)
  | unexpected hnumber hword hsymbol =>
    have htake : (kept ++ cut).take 1 = kept.take 1 := by
      rw [hkept]
      rfl
    rw [hhead, htake]
    exact .unexpected (hnot hnumber) (hhead ▸ hword) (symbol?_none_of_append hsymbol)

end Front

/-- No character stands here, or white space does. -/
def Parted (cs : List Char) : Prop := ∀ c ∈ cs.head?, isWhiteSpace c = true

theorem Blank.parted_append {white : List Char} (h : Blank white) (hne : white ≠ [])
    (rest : List Char) : Parted (white ++ rest) := by
  obtain ⟨c, tail, rfl⟩ := List.exists_cons_of_ne_nil hne
  intro d hd
  cases hd
  exact h c List.mem_cons_self

theorem Solid.begins_of_parted {run front tail : List Char} (hsolid : Solid run)
    (hbegins : run <+: front ++ tail) (htail : Parted tail) : run <+: front := by
  rcases List.prefix_or_prefix_of_prefix hbegins (List.prefix_append front tail) with h | h
  · exact h
  · obtain ⟨others, rfl⟩ := h
    rw [List.prefix_append_right_inj] at hbegins
    cases others with
    | nil => simp
    | cons c others =>
      obtain ⟨rest, rfl⟩ := hbegins
      have hwhite := htail c rfl
      rw [hsolid c (by simp)] at hwhite
      exact absurd hwhite Bool.false_ne_true

/-- A lexeme before white space is the same as at the end of the text. -/
theorem Front.lexeme_append_parted (exponents : Bool) {run tail : List Char} (hsolid : Solid run)
    (hrun : run ≠ []) (rest : List Char) (htail : Parted tail) :
    lexeme exponents (run ++ (rest ++ tail)) = lexeme exponents (run ++ rest) := by
  obtain ⟨c, others, rfl⟩ := List.exists_cons_of_ne_nil hrun
  rw [← List.append_assoc]
  have hreading := lexeme_reading exponents (c :: others ++ rest ++ tail)
  have hlexeme := hreading.solid (hsolid c List.mem_cons_self)
  have hbegins := hlexeme.begins_of_parted hreading.begins htail
  exact (lexeme_of_append rfl (List.cons_ne_nil c (others ++ rest)) hbegins).symm

end PayoffLexer
