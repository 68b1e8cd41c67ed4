import PayoffLexer.Proofs.Lexeme.Boundary
import PayoffLexer.Proofs.Session.Alike

/-!
# White space parts texts

A text with white space somewhere inside falls into the tokens of what stands before the white space
and then those of what stands behind it. Neither part shows in the tokens of the other, save that
those behind stand further on.
-/

namespace PayoffLexer

open String (utf8Len utf8Len_append)

section scans
variable {vocabulary : Vocabulary} {exponents : Bool} {passed : List Char}

theorem scans_white {white : List Char} (hwhite : Blank white) (ahead : List Char) :
    scans vocabulary exponents passed (white ++ ahead) =
      scans vocabulary exponents (passed ++ white) ahead := by
  cases Front.parts exponents ahead with
  | blank hblank => rw [scans_blank (hwhite.append hblank), scans_blank hblank, List.append_assoc]
  | lexeme hblank hsolid hrun hlexeme _ =>
    rw [← List.append_assoc, scans_lexeme (hwhite.append hblank) hsolid hrun hlexeme,
      scans_lexeme hblank hsolid hrun hlexeme]
    simp

/-- The scans before white space are those of the text in front of it. -/
theorem scans_append (exponents : Bool) (hkinds : vocabulary.HasWordKinds)
    (passed front : List Char) :
    ∃ lexemes,
      scans vocabulary exponents passed front = lexemes ++ [.finish (passed ++ front)] ∧
      (∀ scan ∈ lexemes, scan.token.isEof = false) ∧
      ∀ white back, Blank white → white ≠ [] →
        scans vocabulary exponents passed (front ++ (white ++ back)) =
          lexemes ++ scans vocabulary exponents (passed ++ front ++ white) back := by
  induction Front.parts exponents front generalizing passed with
  | blank hfront =>
    refine ⟨[], scans_blank hfront, fun _ h => absurd h List.not_mem_nil, ?_⟩
    intro white back hwhite _
    rw [scans_white hfront, scans_white hwhite, List.nil_append]
  | @lexeme skipped run rest shape hskipped hsolid hrun hlexeme _ ih =>
    obtain ⟨lexemes, hscans, hnot, hothers⟩ := ih (passed ++ skipped ++ run)
    refine ⟨.taken vocabulary (passed ++ skipped) shape run :: lexemes, ?_, ?_, ?_⟩
    · rw [scans_lexeme hskipped hsolid hrun hlexeme, hscans]
      simp
    · rw [List.forall_mem_cons]
      refine ⟨?_, hnot⟩
      have hkind := Scan.taken_kind_ne_endOfInput hkinds (passed ++ skipped) hlexeme
      simpa [Token.isEof] using hkind
    · intro white back hwhite hne
      have hparted := hwhite.parted_append hne back
      have hsame := Front.lexeme_append_parted exponents hsolid hrun rest hparted
      have hassoc : skipped ++ (run ++ rest) ++ (white ++ back) =
          skipped ++ (run ++ (rest ++ (white ++ back))) := by simp
      rw [hassoc, scans_lexeme hskipped hsolid hrun (hsame.trans hlexeme),
        hothers white back hwhite hne]
      simp

theorem Scan.finish_shifted (before passed : List Char) :
    Scan.Alike (Span.Shifted (utf8Len before)) (.finish passed) (.finish (before ++ passed)) := by
  apply finish_alike
  simp [Span.Shifted, Nat.add_comm]

theorem Scan.taken_shifted (vocabulary : Vocabulary) (before passed run : List Char)
    (shape : Shape) :
    Scan.Alike (Span.Shifted (utf8Len before)) (.taken vocabulary passed shape run)
      (.taken vocabulary (before ++ passed) shape run) := by
  apply taken_alike
  simp [Span.Shifted, Nat.add_comm]

/-- Of what was passed before it only the length shows in the scans of a text. -/
theorem scans_shifted (vocabulary : Vocabulary) (exponents : Bool)
    (before passed ahead : List Char) :
    List.Forall₂ (Scan.Alike (Span.Shifted (utf8Len before)))
      (scans vocabulary exponents passed ahead)
      (scans vocabulary exponents (before ++ passed) ahead) := by
  induction Front.parts exponents ahead generalizing passed with
  | blank hwhite =>
    rw [scans_blank hwhite, scans_blank hwhite, List.append_assoc]
    exact .cons (Scan.finish_shifted before _) .nil
  | lexeme hwhite hsolid hrun hlexeme _ ih =>
    rw [scans_lexeme hwhite hsolid hrun hlexeme, scans_lexeme hwhite hsolid hrun hlexeme,
      List.append_assoc before, List.append_assoc before]
    exact .cons (Scan.taken_shifted vocabulary before _ _ _) (ih _)

end scans

theorem filter_tokens {lexemes : List Scan} (hnot : ∀ scan ∈ lexemes, scan.token.isEof = false)
    (before : List Char) :
    ((lexemes ++ [Scan.finish before]).map (·.token)).filter (fun token => !token.isEof) =
      lexemes.map (·.token) := by
  rw [List.map_append, List.filter_append, List.filter_eq_self.mpr]
  · simp [Scan.finish, Token.isEof]
  · intro token htoken
    obtain ⟨scan, hscan, rfl⟩ := List.mem_map.mp htoken
    simp [hnot scan hscan]

/-- The tokens and diagnostics of a whole are those of its front, but for the end, and then those of
its back, further on by the offset. -/
structure Concatenation (offset : Nat) (front back whole : Session × Except Halt (List Token)) :
    Prop where
  tokens : ∀ tokens others, front.2 = .ok tokens → back.2 = .ok others →
    ∃ shifted, whole.2 = .ok ((tokens.filter fun token => !token.isEof) ++ shifted) ∧
      List.Forall₂ (Token.Alike (Span.Shifted offset)) others shifted
  diagnostics : ∃ shifted,
    whole.1.sink.diagnostics.toList = front.1.sink.diagnostics.toList ++ shifted ∧
      List.Forall₂ (Diagnostic.Alike (Span.Shifted offset)) back.1.sink.diagnostics.toList shifted

namespace Session

/-- With the words and settings of any fresh session, white space parts the tokens of the texts
before and behind it. -/
theorem tokenize_parted {source : String} {policy : Policy} {session : Session}
    (h : Fresh source policy session) (front back : String) {white : String}
    (hwhite : Blank white.toList) (hne : white ≠ "") :
    (policy = .collect → ∀ text, ∃ tokens, (session.withText text).tokenize.2 = .ok tokens) ∧
      Concatenation (front ++ white).utf8ByteSize (session.withText front).tokenize
        (session.withText back).tokenize (session.withText (front ++ white ++ back)).tokenize := by
  obtain ⟨-, hkinds, -⟩ := h.opening
  obtain ⟨lexemes, hfront, hnot, hwhole⟩ := scans_append session.lexer.exponents hkinds []
    front.toList
  have hshift := scans_shifted session.lexer.vocabulary session.lexer.exponents
    (front.toList ++ white.toList) [] back.toList
  have htext : (front ++ white ++ back).toList =
      front.toList ++ (white.toList ++ back.toList) := by simp
  have hoffset : utf8Len (front.toList ++ white.toList) = (front ++ white).utf8ByteSize := by
    rw [← Text.utf8Len_toList, String.toList_append]
  replace hwhole := hwhole white.toList back.toList hwhite (by simpa using hne)
  rw [hoffset, List.append_nil] at hshift
  rw [← htext, List.nil_append] at hwhole
  constructor
  · rintro rfl text
    exact (h.withText text).tokenize_collect
  constructor
  · intro tokens others htokens hothers
    obtain ⟨hpass, rfl⟩ := (h.withText_eq_ok_iff front).mp htokens
    obtain ⟨hpassBack, rfl⟩ := (h.withText_eq_ok_iff back).mp hothers
    rw [hfront] at hpass
    refine ⟨_, (h.withText_eq_ok_iff _).mpr ⟨?_, ?_⟩, tokens_alike hshift⟩
    · rw [hwhole]
      intro scan hscan
      rcases List.mem_append.mp hscan with hscan | hscan
      · exact hpass scan (List.mem_append_left _ hscan)
      · exact Policy.passes_alike hshift hpassBack scan hscan
    · rw [hwhole, hfront, filter_tokens hnot, List.map_append]
  · refine ⟨_, ?_, by rw [h.withText_diagnostics]; exact diagnostics_alike hshift⟩
    rw [h.withText_diagnostics, h.withText_diagnostics, hwhole, hfront, List.flatMap_append,
      List.flatMap_append, List.flatMap_singleton, Policy.kept_faultless _ rfl, List.append_nil]

theorem tokenize_parted_exponent :
    Concatenation ("é 1e" ++ "\u00a0\n").utf8ByteSize
      (((start "" .collect).reserve "é").1.withText "é 1e").tokenize
      (((start "" .collect).reserve "é").1.withText "+5 : é..2").tokenize
      (((start "" .collect).reserve "é").1.withText
        ("é 1e" ++ "\u00a0\n" ++ "+5 : é..2")).tokenize :=
  (tokenize_parted ((@Fresh.start "" .collect).reserve "é") "é 1e" "+5 : é..2" (by decide)
    (by decide)).2

end Session

end PayoffLexer
