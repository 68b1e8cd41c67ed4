import PayoffLexer.Proofs.Lexer.Scans
import PayoffLexer.Settings

/-!
# Kinds of reserved words

Only words are reserved, and only under kinds of words. So a token tells by its kind whether it is
the end of the source, and whether it has a fault.
-/

namespace PayoffLexer

namespace Vocabulary

def HasWordKinds (vocabulary : Vocabulary) : Prop :=
  ∀ entry ∈ vocabulary.entries, entry.2.isWordKind = true

theorem standard_hasWordKinds : standard.HasWordKinds := by
  intro entry h
  simp only [standard, List.mem_append, List.mem_map, List.mem_cons, List.not_mem_nil,
    or_false] at h
  rcases h with (⟨word, -, rfl⟩ | ⟨word, -, rfl⟩) | rfl | rfl | rfl <;> rfl

variable {vocabulary others : Vocabulary}

theorem HasWordKinds.add (h : vocabulary.HasWordKinds) (word : String) :
    (vocabulary.add word).HasWordKinds := by
  rw [Vocabulary.add]
  split
  · exact h
  · intro entry hentry
    rcases List.mem_append.mp hentry with hentry | hentry
    · exact h entry hentry
    · rw [List.mem_singleton.mp hentry]
      rfl

theorem HasWordKinds.reserve (h : vocabulary.HasWordKinds) {text : String}
    (hreserve : vocabulary.reserve text = .ok others) : others.HasWordKinds := by
  rw [Vocabulary.reserve] at hreserve
  split at hreserve
  · cases hreserve
    exact h.add text
  · cases hreserve

theorem HasWordKinds.reserveAll (h : vocabulary.HasWordKinds) {texts : List String}
    (hreserve : vocabulary.reserveAll texts = .ok others) : others.HasWordKinds := by
  induction texts generalizing vocabulary with
  | nil =>
    cases hreserve
    exact h
  | cons text texts ih =>
    rw [Vocabulary.reserveAll] at hreserve
    cases hfirst : vocabulary.reserve text with
    | error error =>
      rw [hfirst] at hreserve
      cases hreserve
    | ok next =>
      rw [hfirst] at hreserve
      exact ih (h.reserve hfirst) hreserve

theorem HasWordKinds.kindOf? (h : vocabulary.HasWordKinds) {word : String} {kind : Kind}
    (hkind : vocabulary.kindOf? word = some kind) : kind.isWordKind = true := by
  obtain ⟨before, after, hentries, -⟩ := List.lookup_eq_some_iff.mp hkind
  apply h (word, kind)
  simp [hentries]

/-- A word is scanned under a kind of words, whether it is reserved or free. -/
theorem HasWordKinds.kindOf_word (h : vocabulary.HasWordKinds) (text : String) :
    (Lexer.kindOf vocabulary text .word).isWordKind = true := by
  rw [Lexer.kindOf]
  cases hkind : vocabulary.kindOf? text with
  | none => rfl
  | some kind => exact h.kindOf? hkind

end Vocabulary

theorem symbols_kind : ∀ entry ∈ symbols, entry.2 ≠ .endOfInput ∧ entry.2 ≠ .invalid := by
  decide

namespace Scan

variable {vocabulary : Vocabulary} {exponents : Bool} {run rest : List Char} {shape : Shape}

theorem taken_kind_ne_endOfInput (hkinds : vocabulary.HasWordKinds)
    (before : List Char) (hlexeme : Front.lexeme exponents (run ++ rest) = (shape, run)) :
    (taken vocabulary before shape run).token.kind ≠ .endOfInput := by
  change Lexer.kindOf vocabulary (String.ofList run) shape ≠ .endOfInput
  cases shape with
  | word =>
    rw [Lexer.kindOf]
    cases hkind : vocabulary.kindOf? (String.ofList run) with
    | none => simp
    | some kind =>
      rintro rfl
      exact absurd (hkinds.kindOf? hkind) (by decide)
  | symbol kind =>
    cases Front.reading_of_lexeme hlexeme with
    | symbol _ _ hsymbol => exact (symbols_kind _ (Front.symbol?_some hsymbol).1).1
  | number => simp [Lexer.kindOf]
  | malformedNumber => simp [Lexer.kindOf]
  | unexpected c => simp [Lexer.kindOf]

theorem taken_kind_eq_invalid_iff (hkinds : vocabulary.HasWordKinds)
    (before : List Char) (hlexeme : Front.lexeme exponents (run ++ rest) = (shape, run)) :
    (taken vocabulary before shape run).token.kind = .invalid ↔
      (taken vocabulary before shape run).fault.isSome = true := by
  change Lexer.kindOf vocabulary (String.ofList run) shape = .invalid ↔
    (Lexer.faultOf (String.ofList run) shape).isSome = true
  cases shape with
  | word =>
    rw [Lexer.kindOf]
    cases hkind : vocabulary.kindOf? (String.ofList run) with
    | none => simp [Lexer.faultOf]
    | some kind =>
      have hword := hkinds.kindOf? hkind
      cases kind <;> simp_all [Lexer.faultOf, Kind.isWordKind]
  | symbol kind =>
    cases Front.reading_of_lexeme hlexeme with
    | symbol _ _ hsymbol =>
      have hkind := (symbols_kind _ (Front.symbol?_some hsymbol).1).2
      simpa [Lexer.kindOf, Lexer.faultOf] using hkind
  | number => simp [Lexer.kindOf, Lexer.faultOf]
  | malformedNumber => simp [Lexer.kindOf, Lexer.faultOf]
  | unexpected c => simp [Lexer.kindOf, Lexer.faultOf]

end Scan

end PayoffLexer
