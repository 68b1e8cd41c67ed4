import PayoffLexer.Proofs.Toml.Grammar
import PayoffLexer.Toml.Quoted

/-!
# Strings that are read

The reader takes every string of the grammar for the text that it stands for, as long as no quote
follows it directly: that quote could belong to the string. Three quotes are the delicate part, as
up to two more before them are part of the text.
-/

namespace PayoffLexer.Toml

section shown
variable {c : Char} {written : List Char}

theorem Escape.read (h : Escape c written) (rest : List Char) :
    readEscape (written ++ rest) = some (c, rest) := by
  cases h with
  | @letter letter h =>
    have hu : letter ≠ 'u' := by
      rintro rfl
      cases h
    have hU : letter ≠ 'U' := by
      rintro rfl
      cases h
    simp [readEscape, hu, hU, h]
  | @four digits hlength h =>
    have hroom : 4 ≤ digits.length + rest.length := by omega
    simp [readEscape, hroom, List.take_left' hlength, List.drop_left' hlength, h]
  | @eight digits hlength h =>
    have hroom : 8 ≤ digits.length + rest.length := by omega
    simp [readEscape, hroom, List.take_left' hlength, List.drop_left' hlength, h]

theorem endsLine_of_unescape? {letter : Char} (h : unescape? letter = some c) (rest : List Char) :
    endsLine (letter :: rest) = false := by
  have hbreak : letter ≠ '\n' ∧ letter ≠ '\r' := by
    constructor <;>
      · rintro rfl
        cases h
  have hblank : ¬ isBlank letter = true := by
    rw [isBlank, Bool.or_eq_true, beq_iff_eq, beq_iff_eq]
    rintro (rfl | rfl) <;> cases h
  rw [endsLine, skipBlank, List.dropWhile_cons_of_neg hblank]
  simp [newline?, hbreak]

theorem Escape.endsLine_eq_false (h : Escape c written) (rest : List Char) :
    endsLine (written ++ rest) = false := by
  cases h with
  | letter h => exact endsLine_of_unescape? h rest
  | four => rfl
  | eight => rfl

theorem Shown.head?_ne_quote (h : Shown c written) (rest : List Char) :
    (written ++ rest).head? ≠ some '"' := by
  cases h with
  | escape => simp
  | plain hquote => simpa using hquote

theorem Shown.readBasic (h : Shown c written) (rest : List Char) :
    readBasic (written ++ rest) = consChar c (Toml.readBasic rest) := by
  cases h with
  | escape h =>
    rw [List.cons_append, Toml.readBasic, if_neg (by decide), if_pos rfl]
    split
    · next hnone => cases (h.read rest).symm.trans hnone
    · next hsome =>
      cases (h.read rest).symm.trans hsome
      rfl
  | plain hquote hslash hplain =>
    rw [List.singleton_append, Toml.readBasic, if_neg hquote, if_neg hslash, if_pos hplain]

theorem ne_break_of_isPlain (h : isPlain c = true) : c ≠ '\n' ∧ c ≠ '\r' := by
  constructor <;>
    · rintro rfl
      exact absurd h (by decide)

theorem Shown.readBasicLines (h : Shown c written) (rest : List Char) :
    readBasicLines false (written ++ rest) = consChar c (Toml.readBasicLines false rest) := by
  cases h with
  | escape h =>
    rw [List.cons_append, Toml.readBasicLines, if_neg (by decide), if_neg (by decide),
      if_neg (by simp), if_neg (by decide), if_pos rfl, h.endsLine_eq_false]
    simp only [Bool.false_eq_true, if_false]
    split
    · next hnone => cases (h.read rest).symm.trans hnone
    · next hsome =>
      cases (h.read rest).symm.trans hsome
      rfl
  | plain hquote hslash hplain =>
    obtain ⟨hbreak, hreturn⟩ := ne_break_of_isPlain hplain
    rw [List.singleton_append, Toml.readBasicLines]
    simp [hquote, hslash, hplain, hbreak, hreturn]

end shown

section quotes
variable {quote : Char} {text rest : List Char}

/-- At a quote the reader looks for the end of its string and takes the quote as one of the text if
it does not find it. -/
def ClosesBy (quote : Char) (read : Reader (List Char)) : Prop :=
  ∀ text, read (quote :: text) = (closeQuotes? quote text).or (consChar quote (read text))

/-- How quotes behind the first one close a string: as many more as can be part of the text are. -/
theorem closeQuotes?_closing (hrest : rest.head? ≠ some quote) :
    closeQuotes? quote (quote :: quote :: rest) = some ([], rest) ∧
      closeQuotes? quote (quote :: quote :: quote :: rest) = some ([quote], rest) ∧
      closeQuotes? quote (quote :: quote :: quote :: quote :: rest) =
        some ([quote, quote], rest) := by
  cases rest with
  | nil => simp [closeQuotes?]
  | cons c rest =>
    have hc : c ≠ quote := fun h => hrest (by rw [h]; rfl)
    cases rest <;> simp [closeQuotes?, hc]

theorem no_pair_of_head? (h : text.head? ≠ some quote) : ¬ [quote, quote] <+: text := by
  rintro ⟨others, rfl⟩
  exact h rfl

theorem closeQuotes?_none {c d : Char} (h : ¬ (c = quote ∧ d = quote)) (text : List Char) :
    closeQuotes? quote (c :: d :: text) = none := by
  simp only [closeQuotes?, if_neg h]

variable {read : Reader (List Char)}

theorem ClosesBy.closing (h : ClosesBy quote read) (hrest : rest.head? ≠ some quote) :
    read (quote :: quote :: quote :: rest) = some ([], rest) := by
  rw [h, (closeQuotes?_closing hrest).1, Option.some_or]

/-- Before a text that does not begin with two quotes a quote is one of the text. -/
theorem ClosesBy.keeps (h : ClosesBy quote read) (hrest : rest.head? ≠ some quote)
    (htext : ¬ [quote, quote] <+: text) :
    read (quote :: (text ++ quote :: quote :: quote :: rest)) =
      consChar quote (read (text ++ quote :: quote :: quote :: rest)) := by
  obtain ⟨-, hone, htwo⟩ := closeQuotes?_closing hrest
  match text, htext with
  | [], _ =>
    rw [List.nil_append, h, hone, h.closing hrest]
    rfl
  | [c], _ =>
    rw [h, List.singleton_append]
    by_cases hc : c = quote
    · subst hc
      rw [htwo, h, hone]
      rfl
    · rw [closeQuotes?_none (fun hboth => hc hboth.1), Option.none_or]
  | c :: d :: text, htext =>
    have hnot : ¬ (c = quote ∧ d = quote) := by
      rintro ⟨rfl, rfl⟩
      exact htext ⟨text, rfl⟩
    rw [h, List.cons_append, List.cons_append, closeQuotes?_none hnot, Option.none_or]

theorem readBasicLines_closesBy : ClosesBy '"' (readBasicLines false) := by
  intro text
  rw [readBasicLines, if_neg (by decide), if_neg (by decide), if_neg (by simp), if_pos rfl]
  cases closeQuotes? '"' text <;> rfl

theorem readLiteralLines_closesBy : ClosesBy '\'' readLiteralLines := by
  intro text
  rw [readLiteralLines, if_pos rfl]
  cases closeQuotes? '\'' text <;> rfl

end quotes

section bodies
variable {text body rest : List Char}

theorem Basic.read (h : Basic text body) (rest : List Char) :
    readBasic (body ++ '"' :: rest) = some (text, rest) := by
  induction h with
  | nil => rw [List.nil_append, readBasic, if_pos rfl]
  | cons hc _ ih =>
    rw [List.append_assoc, hc.readBasic, ih]
    rfl

theorem Basic.head?_ne_quote (h : Basic text body) : body.head? ≠ some '"' := by
  cases h with
  | nil => simp
  | cons hc => exact hc.head?_ne_quote _

theorem readLiteral_append (htext : ∀ c ∈ text, c ≠ '\'' ∧ isPlain c = true) (rest : List Char) :
    readLiteral (text ++ '\'' :: rest) = some (text, rest) := by
  induction text with
  | nil => rw [List.nil_append, readLiteral, if_pos rfl]
  | cons c text ih =>
    rw [List.forall_mem_cons] at htext
    rw [List.cons_append, readLiteral, if_neg htext.1.1, if_pos htext.1.2, ih htext.2]
    rfl

theorem BasicLines.head?_ne_quote {quotes : Nat} (h : BasicLines quotes text body)
    (hquotes : 2 ≤ quotes) : body.head? ≠ some '"' := by
  cases h with
  | nil => simp
  | shown hc => exact hc.head?_ne_quote _
  | newline => simp
  | quote hfew => exact absurd hfew (Nat.not_lt.mpr hquotes)

theorem BasicLines.no_pair {quotes : Nat} (h : BasicLines quotes text body) (hquotes : 1 ≤ quotes) :
    ¬ ['"', '"'] <+: body := by
  cases h with
  | nil => simp
  | shown hc => exact no_pair_of_head? (hc.head?_ne_quote _)
  | newline => exact no_pair_of_head? (by simp)
  | quote _ hbody =>
    rw [List.cons_prefix_cons]
    rintro ⟨-, others, rfl⟩
    exact hbody.head?_ne_quote (Nat.succ_le_succ hquotes) rfl

theorem BasicLines.read {quotes : Nat} (h : BasicLines quotes text body)
    (hrest : rest.head? ≠ some '"') :
    readBasicLines false (body ++ '"' :: '"' :: '"' :: rest) = some (text, rest) := by
  -- The number of quotes before matters for what may stand here, but not for what is read.
  induction h with
  | nil => exact readBasicLines_closesBy.closing hrest
  | shown hc _ ih =>
    rw [List.append_assoc, hc.readBasicLines, ih]
    rfl
  | newline _ ih =>
    rw [List.cons_append, readBasicLines, if_pos rfl, ih]
    rfl
  | quote _ hbody ih =>
    rw [List.cons_append,
      readBasicLines_closesBy.keeps hrest (hbody.no_pair (Nat.le_add_left 1 _)), ih]
    rfl

theorem readLiteralLines_append (htext : ∀ c ∈ text, c = '\n' ∨ isPlain c = true)
    (hquotes : ¬ ['\'', '\'', '\''] <:+: text) (hrest : rest.head? ≠ some '\'') :
    readLiteralLines (text ++ '\'' :: '\'' :: '\'' :: rest) = some (text, rest) := by
  induction text with
  | nil => exact readLiteralLines_closesBy.closing hrest
  | cons c text ih =>
    rw [List.forall_mem_cons] at htext
    have hothers := ih htext.2 fun h => hquotes (List.infix_cons h)
    by_cases hquote : c = '\''
    · subst hquote
      have hpair : ¬ ['\'', '\''] <+: text := fun h =>
        hquotes (((List.prefix_cons_inj '\'').mpr h).isInfix)
      rw [List.cons_append, readLiteralLines_closesBy.keeps hrest hpair, hothers]
      rfl
    rcases htext.1 with hbreak | hplain
    · subst hbreak
      rw [List.cons_append, readLiteralLines, if_neg (by decide), if_pos rfl, hothers]
      rfl
    · obtain ⟨hbreak, hreturn⟩ := ne_break_of_isPlain hplain
      rw [List.cons_append, readLiteralLines, if_neg hquote, if_neg hbreak, if_neg hreturn,
        if_pos hplain, hothers]
      rfl

end bodies

section strings
variable {text body opened written rest : List Char}

theorem BasicLines.head?_ne_return {quotes : Nat} (h : BasicLines quotes text body) :
    body.head? ≠ some '\r' := by
  cases h with
  | shown hc =>
    cases hc with
    | plain _ _ hplain => simpa using (ne_break_of_isPlain hplain).2
    | escape => simp
  | _ => simp

theorem Opened.skipFirstBreak (h : Opened body opened) (hreturn : body.head? ≠ some '\r')
    (hrest : newline? rest = none) : Toml.skipFirstBreak (opened ++ rest) = body ++ rest := by
  cases h with
  | newline => rfl
  | plain hbreak =>
    have hnone : newline? (body ++ rest) = none := by
      cases body with
      | nil => exact hrest
      | cons c body =>
        rw [List.head?_cons, ne_eq, Option.some_inj] at hbreak hreturn
        simp [newline?, hbreak, hreturn]
    rw [Toml.skipFirstBreak, hnone, Option.getD_none]

theorem no_pair_closed {quote : Char} (hbody : body.head? ≠ some quote)
    (hrest : rest.head? ≠ some quote) : ¬ [quote, quote] <+: body ++ quote :: rest := by
  cases body with
  | nil =>
    rintro ⟨others, hothers⟩
    obtain rfl : quote :: others = rest := (List.cons.inj hothers).2
    exact hrest rfl
  | cons c body => exact no_pair_of_head? hbody

/-- A string on one line is read by the reader that its quote selects. -/
theorem readString_closed {quote : Char} {read : Reader (List Char)}
    (hread : quote = '"' ∧ read = readBasic ∨ quote = '\'' ∧ read = readLiteral)
    (hbody : body.head? ≠ some quote) (hrest : rest.head? ≠ some quote) :
    readString (quote :: (body ++ quote :: rest)) = read (body ++ quote :: rest) := by
  have hpair := no_pair_closed hbody hrest
  obtain ⟨rfl, rfl⟩ | ⟨rfl, rfl⟩ := hread <;>
    · rw [readString]
      intro others hothers
      exact hpair ⟨others, hothers.symm⟩

/-- No quote stands first, which a string before the text could take for one of its own. -/
def Unquoted (text : List Char) : Prop := text.head? ≠ some '"' ∧ text.head? ≠ some '\''

theorem Quoted.read (h : Quoted text written) (hrest : Unquoted rest) :
    readString (written ++ rest) = some (text, rest) := by
  obtain ⟨hdouble, hsingle⟩ := hrest
  cases h with
  | basic hbody =>
    rw [List.cons_append, List.append_assoc, List.singleton_append,
      readString_closed (.inl ⟨rfl, rfl⟩) hbody.head?_ne_quote hdouble, hbody.read]
  | literal htext =>
    have hhead : text.head? ≠ some '\'' := fun hhead =>
      (htext _ (List.mem_of_head? hhead)).1 rfl
    rw [List.cons_append, List.append_assoc, List.singleton_append,
      readString_closed (.inr ⟨rfl, rfl⟩) hhead hsingle, readLiteral_append htext]
  | basicLines hbody hopened =>
    simp only [List.cons_append, List.append_assoc, List.nil_append]
    rw [readString, hopened.skipFirstBreak hbody.head?_ne_return rfl, hbody.read hdouble]
  | literalLines htext hquotes hopened =>
    have hreturn : text.head? ≠ some '\r' := fun hhead =>
      absurd (htext _ (List.mem_of_head? hhead)) (by decide)
    simp only [List.cons_append, List.append_assoc, List.nil_append]
    rw [readString, hopened.skipFirstBreak hreturn rfl,
      readLiteralLines_append htext hquotes hsingle]

end strings

end PayoffLexer.Toml
