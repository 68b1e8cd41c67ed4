import Mathlib.Data.List.TakeDrop
import PayoffLexer.Decimal.Literal
import PayoffLexer.Proofs.Lexeme.Numbers

/-!
# What is read as a double

The reader of decimal literals shares no code with the scanner. It takes exactly the numbers of the
grammar, with a sign or without, and the words for infinity and for not a number; and a literal of
digits never gives the latter, nor a double of another sign.
-/

namespace PayoffLexer.Decimal

open Front (digits fraction sign exponent mantissa beginsNumber_iff beginsNumber_cons)

/-- The double is a number, perhaps infinite, with the given sign. -/
structure Binary64.HasSign (negative : Bool) (value : Binary64) : Prop where
  ne_nan : value ≠ .nan
  isNegative : value.isNegative = negative

/-- The words for infinity and for not a number, in letters of either case. -/
def Named (text : List Char) : Prop :=
  String.ofList (text.map Char.toLower) ∈ ["inf", "infinity", "nan"]

/-- Perhaps a sign, and a number of the grammar or a word. -/
inductive Readable : List Char → Prop
  | intro {lead unsigned : List Char} (hlead : lead = [] ∨ lead = ['+'] ∨ lead = ['-'])
    (hunsigned : Literal true unsigned ∨ Named unsigned) : Readable (lead ++ unsigned)

namespace Binary64

theorem infinity_hasSign (negative : Bool) : (infinity negative).HasSign negative :=
  ⟨by simp, rfl⟩

theorem finite_hasSign (negative : Bool) (significand : Nat) (exponent : Int) :
    (finite negative significand exponent).HasSign negative := ⟨by simp, rfl⟩

theorem nearest_hasSign (negative : Bool) (numerator denominator : Nat) :
    (nearest negative numerator denominator).HasSign negative := by
  unfold nearest
  extract_lets exponent significand
  split
  split
  · exact infinity_hasSign negative
  · exact finite_hasSign negative _ _

theorem ofScientific_hasSign (negative : Bool) (significand : Nat) (exponent : Int) :
    (ofScientific negative significand exponent).HasSign negative := by
  rw [ofScientific]
  split
  · exact finite_hasSign negative _ _
  split
  · exact infinity_hasSign negative
  split
  · exact finite_hasSign negative _ _
  split <;> exact nearest_hasSign negative _ _

end Binary64

theorem splitDigits_eq (text : List Char) :
    splitDigits text = (digits text, text.dropWhile Char.isDigit) :=
  List.span_eq_takeWhile_dropWhile _ _

theorem dropWhile_isDigit (text : List Char) :
    text.dropWhile Char.isDigit = text.drop (digits text).length := by
  have hdrop : (digits text ++ text.dropWhile Char.isDigit).drop (digits text).length =
      text.dropWhile Char.isDigit := List.drop_left
  rw [digits, List.takeWhile_append_dropWhile] at hdrop
  exact hdrop.symm

theorem splitFraction_rest (text : List Char) :
    (splitFraction text).2 = text.drop (fraction text).length := by
  cases text with
  | nil => rfl
  | cons c rest =>
    rw [Front.fraction_cons]
    by_cases hc : c = '.'
    · subst hc
      simp [splitFraction, splitDigits_eq, dropWhile_isDigit]
    · simp [splitFraction, hc]

theorem splitFraction_splitDigits (text : List Char) :
    (splitFraction (splitDigits text).2).2 = text.drop (mantissa text).length := by
  rw [splitDigits_eq, dropWhile_isDigit, splitFraction_rest, List.drop_drop, mantissa,
    List.length_append]

/-- The reader finds digits before or behind the point where the scanner sees a number. -/
theorem splitDigits_nonempty_iff (text : List Char) :
    ((splitDigits text).1.isEmpty && (splitFraction (splitDigits text).2).1.isEmpty) = false ↔
      NumberAhead text := by
  rw [← beginsNumber_iff, splitDigits_eq]
  cases text with
  | nil => decide
  | cons c rest =>
    rw [beginsNumber_cons]
    by_cases hdigit : c.isDigit = true
    · simp [digits, hdigit]
    · by_cases hc : c = '.'
      · subst hc
        cases rest with
        | nil => simp [digits, splitFraction, splitDigits_eq]
        | cons d tail =>
          by_cases hd : d.isDigit = true <;> simp [digits, splitFraction, splitDigits_eq, hd]
      · simp [digits, hdigit, splitFraction, hc]

theorem splitSign_eq (text : List Char) :
    splitSign text = (sign text == ['-'], text.drop (sign text).length) := by
  cases text with
  | nil => rfl
  | cons c rest =>
    rw [Front.sign_cons]
    by_cases hplus : c = '+'
    · subst hplus
      rfl
    · by_cases hminus : c = '-'
      · subst hminus
        rfl
      · simp [splitSign, hplus, hminus]

theorem sign_append_rest (text : List Char) : sign text ++ (splitSign text).2 = text := by
  rw [splitSign_eq]
  exact List.prefix_iff_eq_append.mp (Front.sign_begins text)

theorem readExponent?_isSome_iff (text : List Char) :
    (readExponent? text).isSome = true ↔ exponent text = text := by
  cases text with
  | nil => exact ⟨fun _ => rfl, fun _ => rfl⟩
  | cons mark rest =>
    rw [readExponent?, Front.exponent_cons]
    by_cases hmark : mark = 'e' ∨ mark = 'E'
    · have hrest := sign_append_rest rest
      rw [if_pos hmark]
      rw [splitSign_eq] at hrest ⊢
      dsimp only at hrest ⊢
      rw [splitDigits_eq]
      generalize sign rest = lead, rest.drop (sign rest).length = power at hrest ⊢
      have hrun : digits power ++ power.dropWhile Char.isDigit = power :=
        List.takeWhile_append_dropWhile
      -- The whole exponent is read if it has digits and nothing is left behind them.
      generalize digits power = run, power.dropWhile Char.isDigit = others at hrun ⊢
      subst hrest hrun
      cases run with
      | nil => simp
      | cons d tail =>
        rw [if_pos ⟨hmark, by simp⟩]
        cases others <;> simp
    · simp [hmark]

theorem exponent_eq_self_iff (text : List Char) :
    exponent text = text ↔ text = [] ∨ Exponent text := by
  constructor
  · intro h
    rw [← h]
    exact Front.exponent_spec text
  · rintro (rfl | hpower)
    · rfl
    · have hbegins := hpower.begins_exponent []
      rw [List.append_nil] at hbegins
      exact ((Front.exponent_begins text).eq_of_length_le hbegins.length_le)

theorem literal_iff_parts (text : List Char) :
    Literal true text ↔ NumberAhead text ∧
      (text.drop (mantissa text).length = [] ∨ Exponent (text.drop (mantissa text).length)) := by
  constructor
  · intro h
    refine ⟨h.numberAhead, ?_⟩
    cases h with
    | plain hbody =>
      have hsame : mantissa text = text := by
        rcases hbody.mantissa_append [] with hmore | hmore <;>
          simpa [mantissa, fraction, digits] using hmore
      left
      rw [hsame, List.drop_length]
    | @scaled body power hallowed hbody hpower =>
      right
      obtain ⟨mark, others, rfl, hdigit, hpoint⟩ := hpower.exists_mark
      rw [hbody.mantissa_mark hdigit hpoint, List.drop_left]
      exact hpower
  · rintro ⟨hahead, hrest⟩
    have hbody := Front.mantissa_spec hahead
    rw [← List.prefix_iff_eq_append.mp (Front.mantissa_begins text)]
    rcases hrest with hnone | hpower
    · rw [hnone, List.append_nil]
      exact .plain hbody
    · exact .scaled rfl hbody hpower

theorem readDigits?_isSome_iff (negative : Bool) (text : List Char) :
    (readDigits? negative text).isSome = true ↔ Literal true text := by
  have hdigits := splitDigits_nonempty_iff text
  have hrest := splitFraction_splitDigits text
  rw [literal_iff_parts, ← exponent_eq_self_iff, ← readExponent?_isSome_iff, ← hdigits, ← hrest,
    readDigits?]
  dsimp only
  split
  · next hnone => simp [hnone]
  · next hsome => simp [hsome]

theorem readDigits?_hasSign {negative : Bool} {text : List Char} {value : Binary64}
    (h : readDigits? negative text = some value) : value.HasSign negative := by
  rw [readDigits?] at h
  dsimp only at h
  split at h
  · cases h
  · obtain ⟨power, -, rfl⟩ := Option.map_eq_some_iff.mp h
    exact Binary64.ofScientific_hasSign negative _ _

theorem readWord?_isSome_iff (negative : Bool) (text : List Char) :
    (readWord? negative text).isSome = true ↔ Named text := by
  rw [readWord?, Named]
  split
  · next h => simpa using h.elim .inl fun h => .inr (.inl h)
  · next h =>
    split
    · next hnan => simp [hnan]
    · next hnan => simpa [hnan] using h

theorem toLower_of_isDigit {c : Char} (h : c.isDigit = true) : c.toLower = c := by
  have hrange := Unicode.isDigit_toNat h
  have hcapital : ¬ (c.val ≥ 'A'.val ∧ c.val ≤ 'Z'.val) := by
    rintro ⟨hfirst, -⟩
    have hle : 65 ≤ c.toNat := UInt32.le_iff_toNat_le.mp hfirst
    omega
  exact dif_neg hcapital

theorem Named.exists_cons {text : List Char} (h : Named text) :
    ∃ c rest, text = c :: rest ∧ (c.toLower = 'i' ∨ c.toLower = 'n') := by
  have hwords : ∀ word ∈ ["inf", "infinity", "nan"],
      word.toList.head? = some 'i' ∨ word.toList.head? = some 'n' := by decide
  have hhead := hwords _ h
  rw [String.toList_ofList, List.head?_map] at hhead
  cases text with
  | nil => simp at hhead
  | cons c rest => exact ⟨c, rest, rfl, by simpa using hhead⟩

theorem Named.not_numberAhead {text : List Char} (h : Named text) : ¬ NumberAhead text := by
  obtain ⟨c, rest, rfl, hc⟩ := h.exists_cons
  intro hahead
  cases hahead with
  | digit hdigit =>
    rw [toLower_of_isDigit hdigit] at hc
    rcases hc with rfl | rfl <;> exact absurd hdigit (by decide)
  | point => exact absurd hc (by decide)

theorem sign_eq_nil {text : List Char} (h : NumberAhead text ∨ Named text) : sign text = [] := by
  rcases h with hahead | hnamed
  · cases hahead with
    | @digit c rest hdigit =>
      have hnone : ¬ (c = '+' ∨ c = '-') := by
        rintro (rfl | rfl) <;> exact absurd hdigit (by decide)
      rw [Front.sign_cons, if_neg hnone]
    | point => rfl
  · obtain ⟨c, rest, rfl, hc⟩ := hnamed.exists_cons
    have hnone : ¬ (c = '+' ∨ c = '-') := by
      rintro (rfl | rfl) <;> exact absurd hc (by decide)
    rw [Front.sign_cons, if_neg hnone]

theorem splitSign_append {lead unsigned : List Char}
    (hlead : lead = [] ∨ lead = ['+'] ∨ lead = ['-'])
    (hunsigned : Literal true unsigned ∨ Named unsigned) :
    (splitSign (lead ++ unsigned)).2 = unsigned := by
  rcases hlead with rfl | rfl | rfl
  · have hnone := sign_eq_nil (hunsigned.imp_left Literal.numberAhead)
    rw [List.nil_append, splitSign_eq, hnone]
    rfl
  · rfl
  · rfl

/-- The reader takes exactly the numbers of the grammar with or without a sign, and the words. -/
theorem read?_isSome_iff (text : String) : (read? text).isSome = true ↔ Readable text.toList := by
  have hread : (read? text).isSome = true ↔
      Literal true (splitSign text.toList).2 ∨ Named (splitSign text.toList).2 := by
    rw [read?]
    cases splitSign text.toList with
    | mk negative unsigned =>
      dsimp only
      rw [← readDigits?_isSome_iff negative, ← readWord?_isSome_iff negative]
      cases readWord? negative unsigned <;> simp
  rw [hread]
  constructor
  · intro h
    rw [← sign_append_rest text.toList]
    exact .intro (Front.sign_cases text.toList) h
  · generalize text.toList = cs
    rintro ⟨hlead, hunsigned⟩
    rwa [splitSign_append hlead hunsigned]

/-- A number of the grammar is read as a number that is not negative. -/
theorem read?_of_literal {text : String} (h : Literal true text.toList) :
    ∃ value, read? text = some value ∧ value.HasSign false := by
  have hahead := h.numberAhead
  obtain ⟨value, hvalue⟩ := Option.isSome_iff_exists.mp ((readDigits?_isSome_iff false _).mpr h)
  have hword : readWord? false text.toList = none := by
    rw [← Option.not_isSome_iff_eq_none, readWord?_isSome_iff]
    exact fun hnamed => hnamed.not_numberAhead hahead
  have hsign : splitSign text.toList = (false, text.toList) := by
    rw [splitSign_eq, sign_eq_nil (.inl hahead)]
    rfl
  refine ⟨value, ?_, readDigits?_hasSign hvalue⟩
  rw [read?, hsign]
  dsimp only
  rw [hword, hvalue]

end PayoffLexer.Decimal
