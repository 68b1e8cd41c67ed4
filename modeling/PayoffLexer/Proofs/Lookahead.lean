import PayoffLexer.Proofs.Concatenation
import PayoffLexer.Proofs.Lexeme.Lookahead
import PayoffLexer.Proofs.Session.Reported

/-!
# Bounded lookahead

What stands three characters or more behind a token has no part in it. So of two texts with the same
front all tokens that end early enough in it are the same, and so are the diagnostics about them.
-/

namespace PayoffLexer

open String (utf8Len utf8Len_append)

/-- So many characters of the text, or more, stand behind the span. -/
def Span.EndsBefore (margin : Nat) (text : String) (span : Span) : Prop :=
  ∃ front back, text.toList = front ++ back ∧ utf8Len front = span.stop ∧ margin ≤ back.length

/-- Two lists begin with the same elements that have the property, and no other element of either
has it. -/
def SharesFront {α : Type} (Has : α → Prop) (xs ys : List α) : Prop :=
  ∃ shared more others, xs = shared ++ more ∧ ys = shared ++ others ∧
    (∀ a ∈ shared, Has a) ∧ ∀ a ∈ more ++ others, ¬ Has a

/-- What the tokens of two texts that begin with the same front have in common. -/
structure Lookahead (front : String) (one other : Session × Except Halt (List Token)) : Prop where
  tokens : ∀ tokens others, one.2 = .ok tokens → other.2 = .ok others →
    ∀ (i : Nat) (token : Token), tokens[i]? = some token → token.span.EndsBefore 3 front →
      others[i]? = some token
  diagnostics : SharesFront (fun diagnostic => diagnostic.span.EndsBefore 3 front)
    one.1.sink.diagnostics.toList other.1.sink.diagnostics.toList
  halts : ∀ diagnostic, one.2 = .error (.reported diagnostic) →
    diagnostic.span.EndsBefore 3 front → other.2 = .error (.reported diagnostic)

namespace SharesFront

variable {α β : Type} {Has : α → Prop} {xs ys : List α}

theorem getElem?_eq (h : SharesFront Has xs ys) {i : Nat} {a : α} (ha : xs[i]? = some a)
    (hhas : Has a) : ys[i]? = some a := by
  obtain ⟨shared, more, others, rfl, rfl, -, hnot⟩ := h
  rcases Nat.lt_or_ge i shared.length with hi | hi
  · rwa [List.getElem?_append_left hi] at ha ⊢
  · rw [List.getElem?_append_right hi] at ha
    exact absurd hhas (hnot a (List.mem_append_left _ (List.mem_of_getElem? ha)))

/-- What stands before an element with the property stands before it in the other list too. -/
theorem exists_append {before rest : List α} {a : α}
    (h : SharesFront Has (before ++ a :: rest) ys) (hhas : Has a) :
    ∃ others, ys = before ++ a :: others := by
  obtain ⟨shared, more, others, hxs, rfl, -, hnot⟩ := h
  rcases List.append_eq_append_iff.mp hxs with ⟨front, rfl, hmore⟩ | ⟨front, rfl, hmore⟩
  · cases front with
    | nil =>
      rw [List.nil_append] at hmore
      exact absurd hhas (hnot a (by simp [← hmore]))
    | cons b front =>
      cases hmore
      exact ⟨front ++ others, by simp⟩
  · exact absurd hhas (hnot a (by simp [hmore]))

theorem flatMap {HasToo : β → Prop} {f : α → List β} (h : SharesFront Has xs ys)
    (hf : ∀ a, ∀ b ∈ f a, HasToo b ↔ Has a) :
    SharesFront HasToo (xs.flatMap f) (ys.flatMap f) := by
  obtain ⟨shared, more, others, rfl, rfl, hshared, hnot⟩ := h
  refine ⟨shared.flatMap f, more.flatMap f, others.flatMap f, List.flatMap_append,
    List.flatMap_append, ?_, ?_⟩
  · intro b hb
    obtain ⟨a, ha, hba⟩ := List.mem_flatMap.mp hb
    exact (hf a b hba).mpr (hshared a ha)
  · intro b hb
    rw [← List.flatMap_append] at hb
    obtain ⟨a, ha, hba⟩ := List.mem_flatMap.mp hb
    exact fun hhas => hnot a ha ((hf a b hba).mp hhas)

end SharesFront

section scans
variable {vocabulary : Vocabulary} {exponents : Bool} {passed seen : List Char} {text : String}

theorem scans_stop_le (passed ahead : List Char) :
    ∀ scan ∈ scans vocabulary exponents passed ahead, utf8Len passed ≤ scan.token.span.stop := by
  induction Front.parts exponents ahead generalizing passed with
  | blank hwhite => simp [scans_blank hwhite]
  | lexeme hwhite hsolid hrun hlexeme _ ih =>
    rw [scans_lexeme hwhite hsolid hrun hlexeme, List.forall_mem_cons]
    refine ⟨by simp, fun scan hscan => ?_⟩
    have hlater := ih _ scan hscan
    simp only [utf8Len_append] at hlater
    omega

/-- With more text behind the first lexeme no scan ends before it does. -/
theorem scans_first_stop_le {white run rest : List Char} {shape : Shape} (hwhite : Blank white)
    (hsolid : Solid run) (hrun : run ≠ [])
    (hlexeme : Front.lexeme exponents (run ++ rest) = (shape, run)) (far : List Char) :
    ∀ scan ∈ scans vocabulary exponents passed (white ++ (run ++ (rest ++ far))),
      utf8Len (passed ++ white ++ run) ≤ scan.token.span.stop := by
  obtain ⟨c, tail, hahead, hc⟩ := hsolid.head_append hrun (rest ++ far)
  cases hlonger : Front.lexeme exponents (run ++ (rest ++ far)) with
  | mk other longer =>
    -- The lexeme may go on in the text behind, but that makes it no shorter.
    have hreading := Front.reading_of_lexeme hlonger
    have hbegins : run <+: longer := by
      apply List.prefix_of_prefix_length_le (List.prefix_append run (rest ++ far)) hreading.begins
      rw [← List.append_assoc] at hlonger
      exact Front.lexeme_length_le hlexeme (by simp [hrun]) hlonger
    have hlongerSolid : Solid longer := by
      rw [hahead] at hreading
      exact hreading.solid hc
    have hne : longer ≠ [] := hbegins.ne_nil hrun
    obtain ⟨others, hothers⟩ := hreading.begins
    rw [← hothers] at hlonger ⊢
    rw [scans_lexeme hwhite hlongerSolid hne hlonger, List.forall_mem_cons]
    obtain ⟨more, rfl⟩ := hbegins
    refine ⟨by simp, fun scan hscan => ?_⟩
    have hlater := scans_stop_le _ _ scan hscan
    simp only [utf8Len_append] at hlater ⊢
    omega

/-- A span that ends behind some characters has no more of the text behind it than they have. -/
theorem Span.not_endsBefore {margin : Nat} {span : Span} {before rest : List Char}
    (htext : text.toList = before ++ rest) (hstop : utf8Len before ≤ span.stop)
    (hrest : rest.length < margin) : ¬ span.EndsBefore margin text := by
  rintro ⟨front, back, hsplit, hfront, hback⟩
  have hbegins : before <+: text.toList := htext ▸ List.prefix_append before rest
  have hfrontBegins : front <+: text.toList := hsplit ▸ List.prefix_append front back
  have hle := (Text.prefix_of_utf8Len_le hbegins hfrontBegins (hfront ▸ hstop)).length_le
  have hlength := congrArg List.length (htext.symm.trans hsplit)
  simp only [List.length_append] at hlength
  omega

theorem scans_settled (vocabulary : Vocabulary) (exponents : Bool) (passed seen : List Char)
    (htext : text.toList = passed ++ seen) :
    ∃ settled : List Scan, (∀ scan ∈ settled, scan.token.span.EndsBefore 3 text) ∧
      ∀ far, ∃ others, scans vocabulary exponents passed (seen ++ far) = settled ++ others ∧
        ∀ scan ∈ others, ¬ scan.token.span.EndsBefore 3 text := by
  induction Front.parts exponents seen generalizing passed with
  | @blank white hwhite =>
    refine ⟨[], fun _ h => absurd h List.not_mem_nil, fun far => ⟨_, (List.nil_append _).symm, ?_⟩⟩
    rw [scans_white hwhite]
    intro scan hscan
    exact Span.not_endsBefore (htext.trans (List.append_nil _).symm)
      (scans_stop_le _ far scan hscan) (by decide)
  | @lexeme white run rest shape hwhite hsolid hrun hlexeme _ ih =>
    have hsplit : text.toList = passed ++ white ++ run ++ rest := by rw [htext]; simp
    have happend (far : List Char) :
        white ++ (run ++ rest) ++ far = white ++ (run ++ (rest ++ far)) := by simp
    by_cases hroom : 3 ≤ rest.length
    · obtain ⟨settled, hsettled, hothers⟩ := ih (passed ++ white ++ run) hsplit
      refine ⟨.taken vocabulary (passed ++ white) shape run :: settled, ?_, fun far => ?_⟩
      · rw [List.forall_mem_cons]
        exact ⟨⟨_, rest, hsplit, rfl, hroom⟩, hsettled⟩
      · obtain ⟨others, hscans, hnot⟩ := hothers far
        have hsame := Front.lexeme_settled hlexeme hrun
          (by rw [List.length_append]; omega) far
        rw [List.append_assoc] at hsame
        refine ⟨others, ?_, hnot⟩
        rw [happend, scans_lexeme hwhite hsolid hrun hsame, hscans, List.cons_append]
    · refine ⟨[], fun _ h => absurd h List.not_mem_nil,
        fun far => ⟨_, (List.nil_append _).symm, ?_⟩⟩
      intro scan hscan
      rw [happend] at hscan
      exact Span.not_endsBefore hsplit
        (scans_first_stop_le hwhite hsolid hrun hlexeme far scan hscan) (Nat.lt_of_not_le hroom)

theorem scans_sharesFront (vocabulary : Vocabulary) (exponents : Bool) (text one other : String) :
    SharesFront (fun scan => scan.token.span.EndsBefore 3 text)
      (scans vocabulary exponents [] (text ++ one).toList)
      (scans vocabulary exponents [] (text ++ other).toList) := by
  obtain ⟨settled, hsettled, hothers⟩ := scans_settled vocabulary exponents [] text.toList rfl
  obtain ⟨more, hone, hmore⟩ := hothers one.toList
  obtain ⟨rest, hother, hrest⟩ := hothers other.toList
  rw [String.toList_append, String.toList_append]
  refine ⟨settled, more, rest, hone, hother, hsettled, ?_⟩
  rw [List.forall_mem_append]
  exact ⟨hmore, hrest⟩

end scans

theorem Policy.span_of_kept {policy : Policy} {scan : Scan} {diagnostic : Diagnostic}
    (h : diagnostic ∈ policy.kept scan) : diagnostic.span = scan.token.span := by
  obtain ⟨token, fault⟩ := scan
  cases policy with
  | halt => cases fault <;> cases h
  | collect =>
    cases fault with
    | none => cases h
    | some fault =>
      rw [List.mem_singleton.mp h]
      rfl

namespace Session

variable {source : String} {policy : Policy} {session : Session}

/-- With the words and settings of any fresh session, a token is settled by three characters behind
it. -/
theorem tokenize_lookahead (h : Fresh source policy session) (front one other : String) :
    (policy = .collect → ∀ text, ∃ tokens, (session.withText text).tokenize.2 = .ok tokens) ∧
      Lookahead front (session.withText (front ++ one)).tokenize
        (session.withText (front ++ other)).tokenize := by
  have hshared := scans_sharesFront session.lexer.vocabulary session.lexer.exponents front one other
  constructor
  · rintro rfl text
    exact (h.withText text).tokenize_collect
  constructor
  · intro tokens others htokens hothers i token htoken hends
    obtain ⟨-, rfl⟩ := (h.withText_eq_ok_iff _).mp htokens
    obtain ⟨-, rfl⟩ := (h.withText_eq_ok_iff _).mp hothers
    rw [List.getElem?_map] at htoken ⊢
    obtain ⟨scan, hscan, rfl⟩ := Option.map_eq_some_iff.mp htoken
    rw [hshared.getElem?_eq hscan hends, Option.map_some]
  · rw [h.withText_diagnostics, h.withText_diagnostics]
    apply hshared.flatMap
    intro scan diagnostic hkept
    rw [Policy.span_of_kept hkept]
  · intro diagnostic hone hends
    rw [h.withText_answers, Policy.answers_eq_error_iff] at hone ⊢
    obtain ⟨passing, scan, rest, hscans, hpass, hanswer⟩ := hone
    obtain ⟨-, fault, -, hreported⟩ := Policy.answer_error hanswer
    cases hreported
    rw [hscans] at hshared
    obtain ⟨others, hothers⟩ := hshared.exists_append hends
    exact ⟨passing, scan, others, hothers, hpass, hanswer⟩

/-- The sign of a refused exponent is the second of the three characters behind the number. -/
theorem tokenize_lookahead_refused_exponent :
    Lookahead "été 1.e+x"
      (((start "" .collect).reserve "été").1.withText ("été 1.e+x" ++ "é 2")).tokenize
      (((start "" .collect).reserve "été").1.withText ("été 1.e+x" ++ "..5 $")).tokenize :=
  (tokenize_lookahead ((@Fresh.start "" .collect).reserve "été") "été 1.e+x" "é 2" "..5 $").2

end Session

end PayoffLexer
