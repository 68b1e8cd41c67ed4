import PayoffLexer.Proofs.Lexeme.Solid

/-!
# The grammar of lexemes

Words, numbers and symbols are described here without a scanner. No text begins with lexemes of two
of these classes, so they may be tried in any order, and what is found of a class is the longest.
-/

namespace PayoffLexer

open Cursor (between)

def Digits (cs : List Char) : Prop := cs ≠ [] ∧ ∀ c ∈ cs, c.isDigit = true

/-- Digits with at most one point before, between or after them. -/
inductive Mantissa : List Char → Prop
  | whole {digits : List Char} (hdigits : Digits digits) : Mantissa digits
  | pointed {digits fraction : List Char} (hdigits : Digits digits)
    (hfraction : ∀ c ∈ fraction, c.isDigit = true) : Mantissa (digits ++ '.' :: fraction)
  | point {fraction : List Char} (hfraction : Digits fraction) : Mantissa ('.' :: fraction)

inductive Exponent : List Char → Prop
  | intro {mark : Char} {sign power : List Char} (hmark : mark = 'e' ∨ mark = 'E')
    (hsign : sign = [] ∨ sign = ['+'] ∨ sign = ['-']) (hpower : Digits power) :
    Exponent (mark :: (sign ++ power))

inductive Literal (exponents : Bool) : List Char → Prop
  | plain {body : List Char} (hbody : Mantissa body) : Literal exponents body
  | scaled {body power : List Char} (hallowed : exponents = true) (hbody : Mantissa body)
    (hpower : Exponent power) : Literal exponents (body ++ power)

theorem Mantissa.beginsNumber {body : List Char} (h : Mantissa body) (rest : List Char) :
    Front.beginsNumber (body ++ rest) = true := by
  have hdigit {digits : List Char} (hdigits : Digits digits) (others : List Char) :
      Front.beginsNumber (digits ++ others) = true := by
    obtain ⟨c, tail, rfl⟩ := List.exists_cons_of_ne_nil hdigits.1
    exact (Front.beginsNumber_cons c (tail ++ others)).mpr (.inl (hdigits.2 c List.mem_cons_self))
  cases h with
  | whole hdigits => exact hdigit hdigits rest
  | pointed hdigits hfraction =>
    rw [List.append_assoc]
    exact hdigit hdigits _
  | point hfraction =>
    obtain ⟨d, tail, rfl⟩ := List.exists_cons_of_ne_nil hfraction.1
    exact (Front.beginsNumber_cons '.' (d :: tail ++ rest)).mpr
      (.inr ⟨rfl, d, tail ++ rest, rfl, hfraction.2 d List.mem_cons_self⟩)

theorem Literal.beginsNumber {exponents : Bool} {cs : List Char} (h : Literal exponents cs)
    (rest : List Char) : Front.beginsNumber (cs ++ rest) = true := by
  cases h with
  | plain hbody => exact hbody.beginsNumber rest
  | scaled hallowed hbody hpower =>
    rw [List.append_assoc]
    exact hbody.beginsNumber _

theorem beginsNumber_iff_literal (exponents : Bool) (ahead : List Char) :
    Front.beginsNumber ahead = true ↔ ∃ cs, Literal exponents cs ∧ cs <+: ahead := by
  constructor
  · intro h
    cases ahead with
    | nil => exact absurd h (by decide)
    | cons c rest =>
      rcases (Front.beginsNumber_cons c rest).mp h with hdigit | ⟨rfl, d, tail, rfl, hdigit⟩
      · exact ⟨[c], .plain (.whole ⟨by simp, by simpa using hdigit⟩), by simp⟩
      · exact ⟨['.', d], .plain (.point ⟨by simp, by simpa using hdigit⟩), by simp⟩
  · rintro ⟨cs, hliteral, rest, rfl⟩
    exact hliteral.beginsNumber rest

inductive LexemeClass
  | word
  | number
  | symbol
deriving DecidableEq

namespace LexemeClass

def Has : LexemeClass → String → Prop
  | .word, text => isWord text = true
  | .number, text => Literal true text.toList
  | .symbol, text => ∃ kind, (text, kind) ∈ symbols

def Begins (shape : LexemeClass) (ahead : String) : Prop :=
  ∃ text, shape.Has text ∧ text.toList <+: ahead.toList

/-- The lexeme of the class with which the text begins, and the longest such. -/
structure Longest (shape : LexemeClass) (ahead text : String) : Prop where
  has : shape.Has text
  begins : text.toList <+: ahead.toList
  longest : ∀ other, shape.Has other → other.toList <+: ahead.toList → other.length ≤ text.length

variable {ahead : String}

theorem begins_number_iff : Begins .number ahead ↔ Front.beginsNumber ahead.toList = true := by
  rw [beginsNumber_iff_literal true]
  constructor
  · rintro ⟨text, hhas, hbegins⟩
    exact ⟨text.toList, hhas, hbegins⟩
  · rintro ⟨cs, hliteral, hbegins⟩
    refine ⟨String.ofList cs, ?_, ?_⟩
    · rw [Has, String.toList_ofList]
      exact hliteral
    · rw [String.toList_ofList]
      exact hbegins

theorem isWord_iff {text : String} :
    isWord text = true ↔ ∃ first rest, text.toList = first :: rest ∧ startsWord first = true ∧
      ∀ c ∈ rest, continuesWord c = true := by
  rw [isWord]
  cases text.toList with
  | nil => simp
  | cons first rest => simp [List.all_eq_true]

theorem continuesWord_of_isWord {text : String} (h : isWord text = true) :
    ∀ c ∈ text.toList, continuesWord c = true := by
  obtain ⟨first, rest, htext, hfirst, hrest⟩ := isWord_iff.mp h
  rw [htext, List.forall_mem_cons]
  exact ⟨continuesWord_of_startsWord hfirst, hrest⟩

theorem begins_word_iff :
    Begins .word ahead ↔ ∃ c rest, ahead.toList = c :: rest ∧ startsWord c = true := by
  constructor
  · rintro ⟨text, hhas, others, hothers⟩
    obtain ⟨first, rest, htext, hfirst, -⟩ := isWord_iff.mp hhas
    rw [htext, List.cons_append] at hothers
    exact ⟨first, rest ++ others, hothers.symm, hfirst⟩
  · rintro ⟨c, rest, hahead, hc⟩
    refine ⟨String.singleton c, isWord_iff.mpr ⟨c, [], by simp, hc, by simp⟩, ?_⟩
    rw [hahead]
    simp

theorem begins_symbol_iff : Begins .symbol ahead ↔ (Front.symbol? ahead.toList).isSome = true := by
  rw [Front.symbol?, List.find?_isSome]
  constructor
  · rintro ⟨text, ⟨kind, hmem⟩, hbegins⟩
    exact ⟨(text, kind), hmem, List.isPrefixOf_iff_prefix.mpr hbegins⟩
  · rintro ⟨⟨text, kind⟩, hmem, hbegins⟩
    exact ⟨text, ⟨kind, hmem⟩, List.isPrefixOf_iff_prefix.mp hbegins⟩

/-- A text that begins with a symbol begins with no word and no number. -/
theorem begins_symbol_first (h : Begins .symbol ahead) :
    ∃ c rest, ahead.toList = c :: rest ∧ startsWord c = false ∧ c.isDigit = false ∧ c ≠ '.' := by
  obtain ⟨text, ⟨kind, hmem⟩, others, hothers⟩ := h
  obtain ⟨hne, hsolid⟩ := symbols_solid _ hmem
  obtain ⟨c, tail, htext⟩ := List.exists_cons_of_ne_nil hne
  rw [htext] at hothers hsolid
  exact ⟨c, tail ++ others, hothers.symm, (hsolid c List.mem_cons_self).2⟩

end LexemeClass

end PayoffLexer
