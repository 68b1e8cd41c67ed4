import PayoffLexer.Proofs.Lexeme.Front

/-!
# Lexemes are solid

The lexeme at the front of a text is a beginning of it and is not empty. It holds no white space, so
every text falls into lexemes with white space around them.
-/

namespace PayoffLexer

open Unicode

def Blank (cs : List Char) : Prop := ∀ c ∈ cs, isWhiteSpace c = true

def Solid (cs : List Char) : Prop := ∀ c ∈ cs, isWhiteSpace c = false

theorem Blank.nil : Blank [] := fun _ hc => absurd hc List.not_mem_nil

instance (cs : List Char) : Decidable (Blank cs) :=
  List.decidableBAll (fun c => isWhiteSpace c = true) cs

instance (cs : List Char) : Decidable (Solid cs) :=
  List.decidableBAll (fun c => isWhiteSpace c = false) cs

theorem Blank.append {cs ds : List Char} (hc : Blank cs) (hd : Blank ds) : Blank (cs ++ ds) := by
  intro c h
  rcases List.mem_append.mp h with h | h
  · exact hc c h
  · exact hd c h

theorem Solid.append {cs ds : List Char} (hc : Solid cs) (hd : Solid ds) : Solid (cs ++ ds) := by
  intro c h
  rcases List.mem_append.mp h with h | h
  · exact hc c h
  · exact hd c h

theorem solid_singleton {c : Char} : Solid [c] ↔ isWhiteSpace c = false := by simp [Solid]

namespace Front

theorem append_begins {run others ahead : List Char} (h : run <+: ahead)
    (hothers : others <+: ahead.drop run.length) : run ++ others <+: ahead := by
  obtain ⟨rest, rfl⟩ := h
  rw [List.drop_left] at hothers
  exact (List.prefix_append_right_inj run).mpr hothers

theorem takeWhile_all {p : Char → Bool} {cs : List Char} : ∀ c ∈ cs.takeWhile p, p c = true :=
  fun _ h => List.all_eq_true.mp List.all_takeWhile _ h

theorem digits_begins (ahead : List Char) : digits ahead <+: ahead := List.takeWhile_prefix _

theorem fraction_begins (ahead : List Char) : fraction ahead <+: ahead := by
  simp only [fraction]
  split
  · exact List.cons_prefix_cons.mpr ⟨rfl, digits_begins _⟩
  · exact List.nil_prefix

theorem sign_begins (ahead : List Char) : sign ahead <+: ahead := by
  simp only [sign]
  split <;> simp

theorem exponent_begins (ahead : List Char) : exponent ahead <+: ahead := by
  cases ahead with
  | nil => exact List.nil_prefix
  | cons mark rest =>
    rw [exponent_cons]
    split
    · exact List.cons_prefix_cons.mpr ⟨rfl, append_begins (sign_begins rest) (digits_begins _)⟩
    · exact List.nil_prefix

theorem mantissa_begins (ahead : List Char) : mantissa ahead <+: ahead :=
  append_begins (digits_begins ahead) (fraction_begins _)

theorem number_begins (exponents : Bool) (ahead : List Char) :
    number exponents ahead <+: ahead := by
  rw [number]
  cases exponents with
  | false => exact mantissa_begins ahead
  | true => exact append_begins (mantissa_begins ahead) (exponent_begins _)

theorem symbol?_some {ahead : List Char} {text : String} {kind : Kind}
    (h : symbol? ahead = some (text, kind)) : (text, kind) ∈ symbols ∧ text.toList <+: ahead := by
  obtain ⟨hfound, before, after, hsymbols, -⟩ := List.find?_eq_some_iff_append.mp h
  refine ⟨?_, List.isPrefixOf_iff_prefix.mp hfound⟩
  rw [hsymbols]
  simp

theorem Reading.begins {exponents : Bool} {ahead run : List Char} {shape : Shape}
    (h : Reading exponents ahead shape run) : run <+: ahead := by
  cases h with
  | number => exact number_begins exponents ahead
  | malformedNumber =>
    exact append_begins (number_begins exponents ahead) (List.takeWhile_prefix _)
  | word => exact List.takeWhile_prefix _
  | symbol _ _ hsymbol => exact (symbol?_some hsymbol).2
  | unexpected => exact List.take_prefix 1 ahead

theorem digits_solid (ahead : List Char) : Solid (digits ahead) :=
  fun c h => isWhiteSpace_of_isDigit (takeWhile_all c h)

theorem fraction_solid (ahead : List Char) : Solid (fraction ahead) := by
  simp only [fraction]
  split
  · next rest =>
    intro c h
    rcases List.mem_cons.mp h with rfl | h
    · decide
    · exact digits_solid rest c h
  · exact fun c h => absurd h List.not_mem_nil

theorem sign_solid (ahead : List Char) : Solid (sign ahead) := by
  simp only [sign]
  split
  · rw [solid_singleton]
    decide
  · rw [solid_singleton]
    decide
  · exact fun c h => absurd h List.not_mem_nil

theorem exponent_solid (ahead : List Char) : Solid (exponent ahead) := by
  cases ahead with
  | nil => exact fun c h => absurd h List.not_mem_nil
  | cons mark rest =>
    rw [exponent_cons]
    split
    · next hmark =>
      intro c h
      rcases List.mem_cons.mp h with rfl | h
      · rcases hmark.1 with rfl | rfl <;> decide
      · exact (sign_solid rest).append (digits_solid _) c h
    · exact fun c h => absurd h List.not_mem_nil

theorem number_solid (exponents : Bool) (ahead : List Char) : Solid (number exponents ahead) := by
  have hbody : Solid (mantissa ahead) := (digits_solid ahead).append (fraction_solid _)
  rw [number]
  cases exponents with
  | false => exact hbody
  | true => exact hbody.append (exponent_solid _)

theorem Reading.solid {exponents : Bool} {c : Char} {rest run : List Char} {shape : Shape}
    (h : Reading exponents (c :: rest) shape run) (hc : isWhiteSpace c = false) : Solid run := by
  cases h with
  | number => exact number_solid exponents _
  | malformedNumber =>
    apply (number_solid exponents _).append
    intro d hd
    have hmember := takeWhile_all d hd
    simp only [isDigitOrPoint, Bool.or_eq_true, beq_iff_eq] at hmember
    rcases hmember with hdigit | rfl
    · exact isWhiteSpace_of_isDigit hdigit
    · decide
  | word => exact fun d hd => isWhiteSpace_of_continuesWord (takeWhile_all d hd)
  | symbol _ _ hsymbol =>
    exact fun d hd => ((symbols_solid _ (symbol?_some hsymbol).1).2 d hd).1
  | unexpected =>
    rw [List.take_succ_cons, List.take_zero, solid_singleton]
    exact hc

theorem beginsNumber_cons (c : Char) (rest : List Char) :
    beginsNumber (c :: rest) = true ↔
      c.isDigit = true ∨ (c = '.' ∧ ∃ d tail, rest = d :: tail ∧ d.isDigit = true) := by
  rw [beginsNumber, startsNumber]
  rw [List.head?_cons, Option.getD_some, List.getElem?_cons_succ, ← List.head?_eq_getElem?,
    Bool.or_eq_true, Bool.and_eq_true, beq_iff_eq]
  apply or_congr_right
  apply and_congr_right
  intro _
  cases rest with
  | nil => simp [Cursor.endMark]
  | cons d tail =>
    constructor
    · intro h
      exact ⟨d, tail, rfl, h⟩
    · rintro ⟨d', tail', heq, h⟩
      cases heq
      exact h

theorem mantissa_ne_nil {ahead : List Char} (h : beginsNumber ahead = true) :
    mantissa ahead ≠ [] := by
  cases ahead with
  | nil => exact absurd h (by decide)
  | cons c rest =>
    rcases (beginsNumber_cons c rest).mp h with hdigit | ⟨rfl, -⟩
    · simp [mantissa, digits, hdigit]
    · simp [mantissa, digits, fraction]

theorem number_ne_nil (exponents : Bool) {ahead : List Char} (h : beginsNumber ahead = true) :
    number exponents ahead ≠ [] := by
  have hbody := mantissa_ne_nil h
  rw [number]
  cases exponents with
  | false => exact hbody
  | true => simp [hbody]

theorem Reading.ne_nil {exponents : Bool} {ahead run : List Char} {shape : Shape}
    (h : Reading exponents ahead shape run) (hne : ahead ≠ []) : run ≠ [] := by
  obtain ⟨c, rest, rfl⟩ := List.exists_cons_of_ne_nil hne
  cases h with
  | number hnumber => exact number_ne_nil exponents hnumber
  | malformedNumber hnumber =>
    have hbody := number_ne_nil exponents hnumber
    simp [hbody]
  | word _ hword =>
    rw [List.head?_cons, Option.getD_some] at hword
    simp [continuesWord_of_startsWord hword]
  | symbol _ _ hsymbol => exact (symbols_solid _ (symbol?_some hsymbol).1).1
  | unexpected => simp

/-- A text is blank, or white space with a lexeme and a further text after it. -/
inductive Parts (exponents : Bool) : List Char → Prop
  | blank {white : List Char} (hwhite : Blank white) : Parts exponents white
  | lexeme {white run rest : List Char} {shape : Shape} (hwhite : Blank white)
    (hsolid : Solid run) (hrun : run ≠ []) (hlexeme : lexeme exponents (run ++ rest) = (shape, run))
    (hrest : Parts exponents rest) : Parts exponents (white ++ (run ++ rest))

/-- Every text falls into white space and lexemes. -/
theorem parts (exponents : Bool) (ahead : List Char) : Parts exponents ahead := by
  have hsplit : ahead.takeWhile isWhiteSpace ++ ahead.dropWhile isWhiteSpace = ahead :=
    List.takeWhile_append_dropWhile
  have hwhite : Blank (ahead.takeWhile isWhiteSpace) := takeWhile_all
  cases hfront : ahead.dropWhile isWhiteSpace with
  | nil =>
    rw [hfront, List.append_nil] at hsplit
    exact .blank (hsplit ▸ hwhite)
  | cons c others =>
    have hc : isWhiteSpace c = false := by
      have hhead := List.head?_dropWhile_not isWhiteSpace ahead
      simpa [hfront] using hhead
    have hreading := lexeme_reading exponents (c :: others)
    obtain ⟨rest, hrest⟩ := hreading.begins
    have hrun := hreading.ne_nil (List.cons_ne_nil c others)
    have hsolid := hreading.solid hc
    -- A lexeme takes a character at least, so what is left after it is shorter.
    have hshorter : rest.length < ahead.length := by
      have htaken := List.length_pos_iff.mpr hrun
      rw [← hsplit, hfront, ← hrest]
      simp only [List.length_append]
      omega
    have hlexeme : lexeme exponents ((lexeme exponents (c :: others)).2 ++ rest) =
        ((lexeme exponents (c :: others)).1, (lexeme exponents (c :: others)).2) := by
      rw [hrest]
    rw [← hsplit, hfront, ← hrest]
    exact .lexeme hwhite hsolid hrun hlexeme (parts exponents rest)
termination_by ahead.length

end Front

end PayoffLexer
