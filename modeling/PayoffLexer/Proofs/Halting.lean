import PayoffLexer.Proofs.Reports

/-!
# A sink that halts

A session whose sink halts moves exactly as one whose sink collects. A call that is cut short has
already passed the text at fault, so that nothing is scanned twice and nothing is lost, and it is
cut short by the diagnostic that the other sink receives.
-/

namespace PayoffLexer

def Operation.calls (n : Nat) : List Operation := .replicate n .next

/-- How a call is answered under a sink that halts, where one that collects lets the token pass and
receives these diagnostics. -/
inductive Echo : Token → List Diagnostic → Except Halt Token → Prop
  | passed {token : Token} (hvalid : token.kind ≠ .invalid) : Echo token [] (.ok token)
  | halted {token : Token} {diagnostic : Diagnostic} (hinvalid : token.kind = .invalid)
    (hmessage : (Halt.reported diagnostic).message = "Diagnostic error: " ++ diagnostic.header) :
    Echo token [diagnostic] (.error (.reported diagnostic))

/-- A session that halts stands where one that collects does, keeps no diagnostics, and answers the
next call as the other does unless it is cut short. -/
structure Echoes (halting collecting : Session) : Prop where
  lexer : halting.lexer = collecting.lexer
  silent : halting.sink.diagnostics = #[]
  call : ∃ token received, collecting.next.2 = .ok token ∧
    collecting.next.1.sink.diagnostics.toList =
      collecting.sink.diagnostics.toList ++ received ∧
    Echo token received halting.next.2

theorem Policy.kept_halt (scan : Scan) : Policy.halt.kept scan = [] := by
  obtain ⟨token, fault⟩ := scan
  cases fault <;> rfl

/-- The answers of both policies to a scan, if exactly its faults make tokens invalid. -/
theorem Policy.answer_echo {scan : Scan}
    (hinvalid : scan.token.kind = .invalid ↔ scan.fault.isSome = true) :
    Echo scan.token (Policy.collect.kept scan) (Policy.halt.answer scan) := by
  obtain ⟨token, fault⟩ := scan
  cases fault with
  | none =>
    apply Echo.passed
    rw [ne_eq, hinvalid]
    simp
  | some fault => exact .halted (hinvalid.mpr rfl) rfl

namespace Session

def opening (source : String) (policy : Policy) : Option Settings → Except SetupError Session
  | none => .ok (.start source policy)
  | some settings => configure source policy settings

structure Shadows (source : String) (halting collecting : Session) : Prop where
  lexer : halting.lexer = collecting.lexer
  sink : halting.sink = .empty .halt
  standing : Standing source .collect collecting

variable {source : String} {halting collecting : Session} {settings : Option Settings}

theorem fresh_of_opening {policy : Policy} {session : Session}
    (h : opening source policy settings = .ok session) : Fresh source policy session := by
  cases settings with
  | none =>
    cases h
    exact .start
  | some settings => exact .configure h

/-- Settings that can be put into effect under one policy can be under the other. -/
theorem opening_shadows (h : opening source .collect settings = .ok collecting) :
    ∃ halting, opening source .halt settings = .ok halting ∧
      Shadows source halting collecting := by
  have hstanding := (fresh_of_opening h).standing
  cases settings with
  | none =>
    cases h
    exact ⟨_, rfl, rfl, rfl, hstanding⟩
  | some settings =>
    obtain ⟨vocabulary, hvocabulary, rfl⟩ := configure_eq_ok_iff.mp h
    exact ⟨_, configure_eq_ok_iff.mpr ⟨vocabulary, hvocabulary, rfl⟩, rfl, rfl, hstanding⟩

theorem Shadows.next (h : Shadows source halting collecting) :
    Shadows source halting.next.1 collecting.next.1 := by
  obtain ⟨moved, scan, hturn, hscan⟩ := h.standing.scan
  have hother : halting.lexer.scan = (moved.lexer, some scan) := by rw [h.lexer, hscan]
  have hkinds : halting.lexer.vocabulary.HasWordKinds := by
    rw [h.lexer]
    exact h.standing.kinds
  constructor
  · rw [next_lexer, next_lexer, h.lexer]
  · rw [next_sink_of_scan hkinds hother, h.sink]
    simp [Sink.empty, Policy.kept_halt]
  · exact h.standing.next

theorem Shadows.echoes (h : Shadows source halting collecting) : Echoes halting collecting := by
  obtain ⟨moved, scan, hturn, hscan⟩ := h.standing.scan
  have hother : halting.lexer.scan = (moved.lexer, some scan) := by rw [h.lexer, hscan]
  have hkinds : halting.lexer.vocabulary.HasWordKinds := by
    rw [h.lexer]
    exact h.standing.kinds
  refine ⟨h.lexer, by rw [h.sink]; rfl, scan.token, Policy.collect.kept scan, ?_, ?_, ?_⟩
  · rw [next_answer_of_scan h.standing.kinds hscan, h.standing.policy]
    rfl
  · rw [next_sink_of_scan h.standing.kinds hscan, Array.toList_appendList, h.standing.policy]
  · rw [next_answer_of_scan hkinds hother, h.sink]
    exact Policy.answer_echo (hturn.kind_eq_invalid_iff h.standing.kinds)

theorem Shadows.calls (h : Shadows source halting collecting) (n : Nat) :
    Shadows source (halting.run (Operation.calls n)).1 (collecting.run (Operation.calls n)).1 := by
  induction n generalizing halting collecting with
  | zero => exact h
  | succ n ih => exact ih h.next

/-- However many calls were made, some of them cut short, a session that halts echoes one that
collects. -/
theorem calls_echo (h : opening source .collect settings = .ok collecting) :
    ∃ halting, opening source .halt settings = .ok halting ∧
      ∀ n, Echoes (halting.run (Operation.calls n)).1 (collecting.run (Operation.calls n)).1 := by
  obtain ⟨halting, hhalting, hshadows⟩ := opening_shadows h
  exact ⟨halting, hhalting, fun n => (hshadows.calls n).echoes⟩

theorem calls_echo_configured :
    ∃ collecting,
      opening "1..2 été\n:$ 5" .collect (some ⟨["été"], false⟩) = .ok collecting ∧
      ∃ halting, opening "1..2 été\n:$ 5" .halt (some ⟨["été"], false⟩) = .ok halting ∧
        ∀ n, Echoes (halting.run (Operation.calls n)).1
          (collecting.run (Operation.calls n)).1 := by
  have hopening : opening "1..2 été\n:$ 5" .collect (some ⟨["été"], false⟩) =
      .ok ⟨.start "1..2 été\n:$ 5" (Vocabulary.standard.add "été") false, .empty .collect,
        #[.configured 1 false]⟩ := by
    decide +kernel
  exact ⟨_, hopening, calls_echo hopening⟩

end Session

end PayoffLexer
