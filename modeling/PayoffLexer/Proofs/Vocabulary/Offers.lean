import Mathlib.Data.Finset.Card
import PayoffLexer.Proofs.Vocabulary.Lookup

/-!
# Texts that are offered

A text that is offered to a vocabulary is reserved if it is a word and refused otherwise. Of many
offers only the set of the words among them matters, not their order or how often each was made.
-/

namespace PayoffLexer.Vocabulary

/-- The vocabulary after a text was offered, and whether it was accepted. -/
def offer (vocabulary : Vocabulary) (text : String) : Vocabulary × Except SetupError Unit :=
  match vocabulary.reserve text with
  | .ok extended => (extended, .ok ())
  | .error error => (vocabulary, .error error)

def offerAll (vocabulary : Vocabulary) : List String → Vocabulary × List (Except SetupError Unit)
  | [] => (vocabulary, [])
  | text :: others =>
    let (vocabulary, verdict) := vocabulary.offer text
    let (vocabulary, verdicts) := vocabulary.offerAll others
    (vocabulary, verdict :: verdicts)

def verdict (text : String) : Except SetupError Unit :=
  if isWord text then .ok () else .error (.invalidKeyword text)

theorem verdict_eq_ok_iff {text : String} : verdict text = .ok () ↔ isWord text = true := by
  by_cases h : isWord text <;> simp [verdict, h]

theorem offer_of_word (vocabulary : Vocabulary) {text : String} (h : isWord text = true) :
    vocabulary.offer text = (vocabulary.add text, .ok ()) := by
  simp [offer, reserve, h]

theorem offer_of_not_word (vocabulary : Vocabulary) {text : String} (h : isWord text = false) :
    vocabulary.offer text = (vocabulary, .error (.invalidKeyword text)) := by
  simp [offer, reserve, h]

theorem offer_verdict (vocabulary : Vocabulary) (text : String) :
    (vocabulary.offer text).2 = verdict text := by
  by_cases h : isWord text <;> simp [offer, reserve, verdict, h]

theorem offer_accepts_iff (vocabulary : Vocabulary) (text : String) :
    (vocabulary.offer text).2 = .ok () ↔ isWord text = true := by
  rw [offer_verdict, verdict_eq_ok_iff]

theorem offerAll_eq (vocabulary : Vocabulary) (texts : List String) :
    vocabulary.offerAll texts =
      (vocabulary.addAll (texts.filter fun text => isWord text), texts.map verdict) := by
  induction texts generalizing vocabulary with
  | nil => rfl
  | cons text texts ih =>
    rw [offerAll]
    by_cases h : isWord text = true
    · simp [offer_of_word _ h, ih, verdict, h, addAll]
    · rw [Bool.not_eq_true] at h
      simp [offer_of_not_word _ h, ih, verdict, h]

theorem kindOf?_add_eq_none_iff (vocabulary : Vocabulary) (word other : String) :
    (vocabulary.add word).kindOf? other = none ↔
      other ≠ word ∧ vocabulary.kindOf? other = none := by
  rw [kindOf?_add]
  by_cases h : other = word <;> simp [h]

theorem size_add_of_free {vocabulary : Vocabulary} {word : String}
    (h : vocabulary.kindOf? word = none) :
    (vocabulary.add word).size = vocabulary.size + 1 := by
  simp [add, contains, h, size]

theorem add_of_reserved {vocabulary : Vocabulary} {word : String}
    (h : vocabulary.kindOf? word ≠ none) : vocabulary.add word = vocabulary := by
  rw [add, if_pos]
  simpa [contains, Option.isSome_iff_ne_none] using h

/-- The words of a list that a vocabulary does not have, each once. -/
def missing (vocabulary : Vocabulary) (words : List String) : Finset String :=
  words.toFinset.filter fun word => vocabulary.kindOf? word = none

theorem missing_cons (vocabulary : Vocabulary) (word : String) (words : List String) :
    vocabulary.missing (word :: words) =
      if vocabulary.kindOf? word = none then insert word (vocabulary.missing words)
      else vocabulary.missing words := by
  rw [missing, List.toFinset_cons, Finset.filter_insert, missing]

theorem missing_add (vocabulary : Vocabulary) (word : String) (words : List String) :
    (vocabulary.add word).missing words = (vocabulary.missing words).erase word := by
  ext other
  simp [missing, kindOf?_add_eq_none_iff, and_left_comm]

theorem size_addAll (vocabulary : Vocabulary) (words : List String) :
    (vocabulary.addAll words).size = vocabulary.size + (vocabulary.missing words).card := by
  induction words generalizing vocabulary with
  | nil => rfl
  | cons word words ih =>
    have hothers := ih (vocabulary.add word)
    rw [missing_add] at hothers
    rw [addAll, List.foldl_cons, ← addAll, hothers, missing_cons]
    by_cases hfree : vocabulary.kindOf? word = none
    · -- The word counts once, also if it comes again among the others.
      have hcard := Finset.card_erase_add_one
        (Finset.mem_insert_self word (vocabulary.missing words))
      rw [Finset.erase_insert_eq_erase] at hcard
      rw [if_pos hfree, size_add_of_free hfree, ← hcard]
      omega
    · have hnot : word ∉ vocabulary.missing words := by simp [missing, hfree]
      rw [if_neg hfree, add_of_reserved hfree, Finset.erase_eq_of_notMem hnot]

/-- Both vocabularies have the same words, each under the same kind. -/
structure Agrees (vocabulary other : Vocabulary) : Prop where
  kinds : ∀ word, vocabulary.kindOf? word = other.kindOf? word
  size : vocabulary.size = other.size

theorem addAll_agrees (vocabulary : Vocabulary) {words others : List String}
    (h : ∀ word, word ∈ words ↔ word ∈ others) :
    Agrees (vocabulary.addAll words) (vocabulary.addAll others) := by
  constructor
  · intro word
    simp [kindOf?_addAll, h]
  · have hmissing : vocabulary.missing words = vocabulary.missing others := by
      ext word
      simp [missing, h]
    rw [size_addAll, size_addAll, hmissing]

end PayoffLexer.Vocabulary
