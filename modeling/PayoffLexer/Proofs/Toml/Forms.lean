import PayoffLexer.Proofs.Toml.Grammar
import PayoffLexer.Toml.Printer
import PayoffLexer.Toml.Settings

/-!
# What is written is TOML

Each form in which a text may be written is a string of the grammar for that text: a basic string
escapes what it cannot hold, a literal one asks that the text hold no quote and no control, and one
over lines that no quote stand three times in a row. So the two lines with the settings are a
document whose entries are the settings.
-/

namespace PayoffLexer.Toml

section characters
variable {c : Char}

theorem hexValue?_hexDigit : ∀ digit < 16, hexValue? (hexDigit digit) = some digit := by decide

theorem charOfHex?_fourHexDigits (c : Char) (h : c.toNat < 65536) :
    charOfHex? 0 (fourHexDigits c.toNat) = some c := by
  have hdigit (n : Nat) : hexValue? (hexDigit (n % 16)) = some (n % 16) :=
    hexValue?_hexDigit _ (Nat.mod_lt n (by decide))
  have hcode : 16 * (16 * (16 * (16 * 0 + c.toNat / 4096 % 16) + c.toNat / 256 % 16) +
      c.toNat / 16 % 16) + c.toNat % 16 = c.toNat := by omega
  have hvalid : c.toNat.isValidChar := c.valid
  simp only [fourHexDigits, charOfHex?, hdigit, Option.bind_some]
  rw [hcode, if_pos hvalid, Char.ofNat_toNat]

theorem toNat_lt_of_isControl (h : isControl c = true) : c.toNat < 128 := by
  simp only [isControl, isPlain, Bool.and_eq_true, Bool.not_eq_true', Bool.or_eq_false_iff,
    Bool.and_eq_false_iff, decide_eq_false_iff_not, bne_eq_false_iff_eq] at h
  omega

theorem isPlain_of_not_isControl (h : isControl c = false) (hbreak : c ≠ '\n') :
    isPlain c = true := by
  simpa [isControl, hbreak] using h

theorem shown_escapeChar (c : Char) : Shown c (escapeChar c) := by
  have hshort {letter : Char} (hletter : unescape? letter = some c) : Shown c ['\\', letter] :=
    .escape (.letter hletter)
  rw [escapeChar]
  -- The seven characters that have a letter of their own.
  iterate 7
    split
    · next h => exact hshort (by rw [h]; rfl)
  next hbreak _ _ hquote hslash =>
  split
  · next hcontrol =>
    have hcode : c.toNat < 65536 := Nat.lt_trans (toNat_lt_of_isControl hcontrol) (by decide)
    exact .escape (.four rfl (charOfHex?_fourHexDigits c hcode))
  · next hcontrol =>
    exact .plain hquote hslash (isPlain_of_not_isControl (by simpa using hcontrol) hbreak)

end characters

section forms
variable {text body : List Char}

theorem basic_flatMap_escapeChar (text : List Char) : Basic text (text.flatMap escapeChar) := by
  induction text with
  | nil => exact .nil
  | cons c text ih =>
    rw [List.flatMap_cons]
    exact .cons (shown_escapeChar c) ih

theorem basicLines_escapeLines (quotes : Nat) (text : List Char) :
    BasicLines quotes text (escapeLines quotes text) := by
  induction text generalizing quotes with
  | nil => exact .nil
  | cons c text ih =>
    rw [escapeLines]
    split
    · next hquote =>
      subst hquote
      split
      · next hquotes => exact .quote hquotes (ih (quotes + 1))
      · exact .shown (shown_escapeChar '"') (ih 0)
    split
    · next hbreak =>
      subst hbreak
      exact .newline (ih 0)
    · exact .shown (shown_escapeChar c) (ih 0)

theorem Shown.head?_ne_newline {c : Char} {written : List Char} (h : Shown c written)
    (rest : List Char) : (written ++ rest).head? ≠ some '\n' := by
  cases h with
  | escape => simp
  | plain _ _ hplain =>
    rintro hhead
    obtain rfl : c = '\n' := Option.some.inj hhead
    exact absurd hplain (by decide)

theorem head?_escapeLines (h : '\n' ∉ text) : (escapeLines 0 text).head? ≠ some '\n' := by
  cases text with
  | nil => simp [escapeLines]
  | cons c text =>
    rw [List.mem_cons, not_or] at h
    rw [escapeLines]
    split
    · simp
    rw [if_neg (Ne.symm h.1)]
    exact (shown_escapeChar c).head?_ne_newline _

/-- A text of several lines starts on a line of its own, and no other one begins with a line
break. -/
theorem opened_firstBreak (hbody : '\n' ∉ text → body.head? ≠ some '\n') :
    Opened body (firstBreak text ++ body) := by
  rw [firstBreak]
  split
  · exact .newline body
  · next h => exact .plain (hbody (by simpa using h))

theorem hasTriple_of_three {quote : Char} (h : [quote, quote, quote] <:+: text) :
    hasTriple quote text = true := by
  obtain ⟨before, after, rfl⟩ := h
  induction before with
  | nil => simp [hasTriple]
  | cons c before ih =>
    obtain ⟨d, e, others, hothers⟩ :
        ∃ d e others, before ++ [quote, quote, quote] ++ after = d :: e :: others := by
      match before with
      | [] => exact ⟨_, _, _, rfl⟩
      | [d] => exact ⟨d, _, _, rfl⟩
      | d :: e :: _ => exact ⟨d, e, _, rfl⟩
    rw [hothers] at ih
    rw [List.cons_append, List.cons_append, hothers, hasTriple, ih, Bool.or_true]

def StringForm.escapes : StringForm → Bool
  | .basic | .basicLines => true
  | .literal | .literalLines => false

/-- How a text may be written: in a form that escapes, or in one that holds the text as it is. -/
inductive Written (text : List Char) : List Char → Prop
  | intro {form : StringForm} (h : form.escapes = true ∨ form.holds text = true) :
    Written text (form.write text)

theorem written_of (text : List Char) : Written text ((StringForm.of text).write text) := by
  apply Written.intro
  rw [StringForm.of]
  split
  · exact .inl rfl
  split
  · next h => exact .inr h
  split
  · exact .inl rfl
  split
  · next h => exact .inr h
  split <;> exact .inl rfl

theorem StringForm.holds_plain {form : StringForm} (h : form.holds text = true) :
    ∀ c ∈ text, isControl c = false := by
  unfold StringForm.holds at h
  rw [Bool.and_eq_true, Bool.not_eq_true', List.any_eq_false] at h
  exact fun c hc => Bool.eq_false_iff.mpr (h.1 c hc)

theorem quoted_literal (h : StringForm.literal.holds text = true) :
    Quoted text (StringForm.literal.write text) := by
  have hcontrol := StringForm.holds_plain h
  simp only [StringForm.holds, Bool.and_eq_true, Bool.not_eq_true', List.contains_eq_mem,
    decide_eq_false_iff_not] at h
  obtain ⟨-, hquote, hbreak⟩ := h
  exact .literal fun c hc =>
    ⟨ne_of_mem_of_not_mem hc hquote,
      isPlain_of_not_isControl (hcontrol c hc) (ne_of_mem_of_not_mem hc hbreak)⟩

theorem quoted_literalLines (h : StringForm.literalLines.holds text = true) :
    Quoted text (StringForm.literalLines.write text) := by
  have hcontrol := StringForm.holds_plain h
  simp only [StringForm.holds, Bool.and_eq_true, Bool.not_eq_true'] at h
  have hplain : ∀ c ∈ text, c = '\n' ∨ isPlain c = true := fun c hc =>
    or_iff_not_imp_left.mpr (isPlain_of_not_isControl (hcontrol c hc))
  have hquotes : ¬ ['\'', '\'', '\''] <:+: text := by
    intro hthree
    rw [hasTriple_of_three hthree] at h
    exact absurd h.2 (by decide)
  exact .literalLines hplain hquotes
    (opened_firstBreak fun hbreak hhead => hbreak (List.mem_of_head? hhead))

/-- Every way to write a text is a string that stands for it. -/
theorem Written.quoted {written : List Char} (h : Written text written) : Quoted text written := by
  obtain @⟨form, hform⟩ := h
  cases form with
  | basic => exact .basic (basic_flatMap_escapeChar text)
  | basicLines =>
    exact .basicLines (basicLines_escapeLines 0 text) (opened_firstBreak head?_escapeLines)
  | literal => exact quoted_literal (by simpa [StringForm.escapes] using hform)
  | literalLines => exact quoted_literalLines (by simpa [StringForm.escapes] using hform)

end forms

section documents

theorem Items.filler {items : List String} {filler written : List Char} (hfiller : IsFiller filler)
    (h : Items items written) : Items items (filler ++ written) := by
  have happend {before : List Char} (hbefore : IsFiller before) : IsFiller (filler ++ before) :=
    List.forall_mem_append.mpr ⟨hfiller, hbefore⟩
  cases h with
  | nil hbefore => exact .nil (happend hbefore)
  | last hbefore hitem hafter =>
    rw [← List.append_assoc]
    exact .last (happend hbefore) hitem hafter
  | cons hbefore hitem hafter hitems =>
    rw [← List.append_assoc]
    exact .cons (happend hbefore) hitem hafter hitems

theorem items_intercalate {items words : List String}
    (h : List.Forall₂ (fun item word => Quoted item.toList word.toList) items words) :
    Items items (", ".intercalate words).toList := by
  have hnone : IsFiller [] := by simp [IsFiller]
  have hspace : IsFiller [' '] := by simp [IsFiller, isBlank]
  induction h with
  | nil => exact .nil hnone
  | @cons item word items words hitem hitems ih =>
    cases words with
    | nil =>
      cases hitems
      rw [String.intercalate_singleton, ← List.append_nil word.toList]
      exact .last hnone hitem hnone
    | cons next words =>
      have hcomma : ", ".toList = [',', ' '] := rfl
      rw [String.intercalate_cons_cons, String.toList_append, String.toList_append, hcomma,
        List.append_assoc]
      exact .cons hnone hitem hnone (.filler hspace ih)

theorem entry_pair {key written : String} {value : Value} (hkey : IsBare key)
    (hvalue : Denotes value written.toList) : Entry key value (key ++ " = " ++ written).toList := by
  have hnone : AllBlank [] := by simp [AllBlank]
  have hspace : AllBlank [' '] := by simp [AllBlank, isBlank]
  have hentry := Entry.intro hnone hkey hspace hspace hvalue hnone
  rw [List.append_nil] at hentry
  simpa using hentry

/-- The two lines are a document with an entry for each setting. -/
theorem document_layout {items words : List String} (exponents : Bool)
    (h : List.Forall₂ (fun item word => Quoted item.toList word.toList) items words) :
    Document [(Settings.keywordsKey, .array (items.map .string)),
      (Settings.exponentsKey, .boolean exponents)] (layout words exponents) := by
  have harray :
      Denotes (.array (items.map .string)) ("[" ++ ", ".intercalate words ++ "]").toList := by
    simpa using Denotes.array (items_intercalate h)
  have hkey : IsBare Settings.keywordsKey ∧ IsBare Settings.exponentsKey := by decide
  refine ⟨?_, by simp [Settings.keywordsKey, Settings.exponentsKey]⟩
  have hlines := Lines.cons (entry_pair hkey.1 harray)
    (.cons (entry_pair hkey.2 (.boolean exponents)) .nil)
  simpa [layout] using hlines

end documents

end PayoffLexer.Toml
