import PayoffLexer.Proofs.Session.Words
import PayoffLexer.Proofs.Vocabulary.Offers

/-!
# Reservations over whole runs

Whatever texts are offered and in whatever order, a vocabulary ends up with its initial words and
those among the texts, and settings lead to the same vocabulary as offers to a new session do.
-/

namespace PayoffLexer

open Vocabulary (verdict Agrees)

/-- What becomes of an initial vocabulary to which texts are offered one after another. -/
structure Reserves (initial : Vocabulary) (texts : List String) : Prop where
  verdicts : (initial.offerAll texts).2 = texts.map verdict
  refused : ∀ before text after, texts = before ++ text :: after → isWord text = false →
    (initial.offerAll (before ++ [text])).1 = (initial.offerAll before).1
  kinds : ∀ word, (initial.offerAll texts).1.kindOf? word =
    (initial.kindOf? word).or (if word ∈ texts ∧ isWord word = true then some .keyword else none)
  contains_iff : ∀ word, (initial.offerAll texts).1.contains word = true ↔
    ∃ kind, (initial.offerAll texts).1.kindOf? word = some kind
  size : (initial.offerAll texts).1.size = initial.size +
    (texts.toFinset.filter fun word => isWord word = true ∧ initial.kindOf? word = none).card
  isEmpty_iff : (initial.offerAll texts).1.isEmpty = true ↔ (initial.offerAll texts).1.size = 0
  unordered : ∀ others, (∀ word, isWord word = true → (word ∈ others ↔ word ∈ texts)) →
    Agrees (initial.offerAll others).1 (initial.offerAll texts).1
  session : ∀ session : Session, session.lexer.vocabulary = initial →
    session.run (texts.map .reserve) =
      ({ session with lexer.vocabulary := (initial.offerAll texts).1 },
        (texts.map verdict).map .ofReserve)

/-- What settings lead to: all three ways to use them fail at the first keyword that is not a word,
or none of them does. -/
structure Configures (settings : Settings) : Prop where
  refused : ∀ before word after, settings.keywords = before ++ word :: after →
    (∀ other ∈ before, isWord other = true) → isWord word = false →
    settings.validate = .error (.invalidKeyword word) ∧
      settings.vocabulary = .error (.invalidKeyword word) ∧
      ∀ source policy, Session.configure source policy settings = .error (.invalidKeyword word)
  accepted : (∀ word ∈ settings.keywords, isWord word = true) →
    settings.validate = .ok () ∧ ∃ vocabulary, settings.vocabulary = .ok vocabulary ∧
      ∀ source policy,
        (∃ session, Session.configure source policy settings = .ok session ∧
          session.lexer.vocabulary = vocabulary) ∧
        ∀ order : List String, order.Perm settings.keywords →
          Agrees vocabulary
            ((Session.start source policy).run (order.map .reserve)).1.lexer.vocabulary

namespace Session

theorem reserve_eq_offer (session : Session) (text : String) :
    session.reserve text =
      ({ session with lexer.vocabulary := (session.lexer.vocabulary.offer text).1 },
        (session.lexer.vocabulary.offer text).2) := by
  rw [reserve, Vocabulary.offer]
  cases session.lexer.vocabulary.reserve text <;> rfl

theorem run_reserves (session : Session) (texts : List String) :
    session.run (texts.map .reserve) =
      ({ session with lexer.vocabulary := (session.lexer.vocabulary.offerAll texts).1 },
        (session.lexer.vocabulary.offerAll texts).2.map .ofReserve) := by
  induction texts generalizing session with
  | nil => rfl
  | cons text texts ih =>
    rw [List.map_cons, run, perform, reserve_eq_offer, Prod.map_apply]
    dsimp only
    rw [ih]
    rfl

end Session

theorem Vocabulary.reserves (initial : Vocabulary) (texts : List String) :
    Reserves initial texts := by
  have hall := initial.offerAll_eq texts
  constructor
  · rw [hall]
  · intro before text after _ hword
    simp [offerAll_eq, hword]
  · intro word
    simp [hall, kindOf?_addAll]
  · intro word
    rw [contains, Option.isSome_iff_exists]
  · rw [hall, size_addAll, missing, List.toFinset_filter, Finset.filter_filter]
  · rw [isEmpty, size, List.isEmpty_iff_length_eq_zero]
  · intro others hothers
    rw [offerAll_eq, hall]
    apply addAll_agrees
    intro word
    simp only [List.mem_filter, and_congr_left_iff]
    exact hothers word
  · rintro session rfl
    rw [session.run_reserves, hall]

theorem Settings.configures (settings : Settings) : Configures settings := by
  constructor
  · intro before word after hkeywords hbefore hword
    have hfirst : (settings.keywords.find? fun word => !isWord word) = some word := by
      rw [List.find?_eq_some_iff_append]
      exact ⟨by simp [hword], before, after, hkeywords, by simpa using hbefore⟩
    refine ⟨?_, ?_, fun source policy => ?_⟩
    · rw [validate_eq, hfirst]
    · rw [vocabulary_eq, hfirst]
    · rw [Session.configure_eq_find, hfirst]
  · intro hwords
    have hnone : (settings.keywords.find? fun word => !isWord word) = none := by simpa using hwords
    refine ⟨?_, Vocabulary.standard.addAll settings.keywords, ?_, fun source policy =>
      ⟨?_, fun order hperm => ?_⟩⟩
    · rw [validate_eq, hnone]
    · rw [vocabulary_eq, hnone]
    · exact ⟨_, Session.configure_of_words source policy hwords, rfl⟩
    · have hfilter : order.filter (fun word => isWord word) = order := by
        rw [List.filter_eq_self]
        exact fun word hmem => hwords word (hperm.mem_iff.mp hmem)
      rw [Session.run_reserves, Vocabulary.offerAll_eq, hfilter]
      exact Vocabulary.addAll_agrees _ fun word => hperm.mem_iff.symm

/-- What is reserved in the end depends on the initial vocabulary and the set of words offered, and
settings are accepted and refused as the offers of their keywords are. -/
theorem reservations (initial : Vocabulary) (texts : List String) (settings : Settings) :
    Reserves initial texts ∧ Configures settings :=
  ⟨initial.reserves texts, settings.configures⟩

end PayoffLexer
