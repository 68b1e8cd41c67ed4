import PayoffLexer.Settings

/-!
# Looking words up

What is looked up after words were added depends only on which words they are: an old entry goes
before a new one, and every new one is a keyword.
-/

namespace PayoffLexer.Vocabulary

def addAll (vocabulary : Vocabulary) (words : List String) : Vocabulary :=
  words.foldl add vocabulary

theorem addAll_append (vocabulary : Vocabulary) (words others : List String) :
    vocabulary.addAll (words ++ others) = (vocabulary.addAll words).addAll others :=
  List.foldl_append

variable {vocabulary others : Vocabulary}

theorem kindOf?_add (vocabulary : Vocabulary) (word other : String) :
    (vocabulary.add word).kindOf? other =
      (vocabulary.kindOf? other).or (if other = word then some .keyword else none) := by
  rw [add]
  split
  · next hcontains =>
    by_cases heq : other = word
    · subst heq
      rw [contains] at hcontains
      rw [Option.or_of_isSome hcontains]
    · simp [heq]
  · rw [kindOf?, kindOf?, List.lookup_append]
    by_cases heq : other = word
    · simp [heq]
    · simp [heq, List.lookup_cons, beq_eq_false_iff_ne.mpr heq]

/-- A word that was added is a keyword, unless it was reserved already. -/
theorem kindOf?_addAll (vocabulary : Vocabulary) (words : List String) (other : String) :
    (vocabulary.addAll words).kindOf? other =
      (vocabulary.kindOf? other).or (if other ∈ words then some .keyword else none) := by
  induction words generalizing vocabulary with
  | nil => simp [addAll]
  | cons word words ih =>
    have hothers := ih (vocabulary.add word)
    rw [addAll, List.foldl_cons, ← addAll, hothers, kindOf?_add, Option.or_assoc]
    by_cases heq : other = word <;> simp [heq]

theorem eq_add_of_reserve {text : String} (h : vocabulary.reserve text = .ok others) :
    others = vocabulary.add text := by
  rw [reserve] at h
  split at h
  · cases h
    rfl
  · cases h

/-- Texts are added if they are all words; otherwise the first that is not a word is to blame. -/
theorem reserveAll_eq (vocabulary : Vocabulary) (texts : List String) :
    vocabulary.reserveAll texts =
      match texts.find? fun text => !isWord text with
      | none => .ok (vocabulary.addAll texts)
      | some text => .error (.invalidKeyword text) := by
  induction texts generalizing vocabulary with
  | nil => rfl
  | cons text texts ih =>
    rw [reserveAll, reserve]
    cases hword : isWord text with
    | false =>
      rw [List.find?_cons_of_pos (by simp [hword])]
      rfl
    | true =>
      rw [List.find?_cons_of_neg (by simp [hword])]
      exact ih (vocabulary.add text)

/-- Vocabularies that have grown from nothing or from the words of the language. -/
inductive Made : Vocabulary → Prop
  | empty : Made .empty
  | standard : Made .standard
  | add {vocabulary : Vocabulary} (h : Made vocabulary) (word : String) : Made (vocabulary.add word)

theorem Made.addAll (h : vocabulary.Made) (words : List String) :
    (vocabulary.addAll words).Made := by
  induction words generalizing vocabulary with
  | nil => exact h
  | cons word words ih => exact ih (h.add word)

theorem kindOf?_standard_ne_identifier (word : String) :
    standard.kindOf? word ≠ some .identifier := by
  intro h
  obtain ⟨before, after, hentries, -⟩ := List.lookup_eq_some_iff.mp h
  have hmem : (word, Kind.identifier) ∈ standard.entries := by simp [hentries]
  simp [standard] at hmem

theorem Made.kindOf?_ne_identifier (h : vocabulary.Made) (word : String) :
    vocabulary.kindOf? word ≠ some .identifier := by
  induction h with
  | empty => simp [kindOf?, Vocabulary.empty]
  | standard => exact kindOf?_standard_ne_identifier word
  | @add vocabulary _ other ih =>
    rw [kindOf?_add]
    cases hkind : vocabulary.kindOf? word with
    | none => split <;> simp
    | some kind =>
      rw [hkind] at ih
      simpa using ih

theorem kindOf?_addAll_ne_identifier (words : List String) (word : String) :
    (standard.addAll words).kindOf? word ≠ some .identifier :=
  (Made.standard.addAll words).kindOf?_ne_identifier word

end PayoffLexer.Vocabulary

namespace PayoffLexer.Settings

/-- Settings give a vocabulary if all their keywords are words; otherwise the first that is not one
is to blame. -/
theorem vocabulary_eq (settings : Settings) :
    settings.vocabulary =
      match settings.keywords.find? fun word => !isWord word with
      | none => .ok (Vocabulary.standard.addAll settings.keywords)
      | some word => .error (.invalidKeyword word) :=
  Vocabulary.standard.reserveAll_eq settings.keywords

theorem validate_eq (settings : Settings) :
    settings.validate =
      match settings.keywords.find? fun word => !isWord word with
      | none => .ok ()
      | some word => .error (.invalidKeyword word) := by
  rw [validate, vocabulary_eq]
  cases settings.keywords.find? fun word => !isWord word <;> rfl

end PayoffLexer.Settings
