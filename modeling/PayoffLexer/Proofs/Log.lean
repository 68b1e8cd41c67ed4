import PayoffLexer.Proofs.Reports
import PayoffLexer.Proofs.Stream

/-!
# The log tells what was done

Every event of a log comes from something that was done, in the order in which it was done. Settings
that are put into effect, rewinds and tokens leave one event each, a token at fault a warning before
its own, and the end of the source none. Of a call that is cut short only the warning is left.
-/

namespace PayoffLexer

def Event.Says (event : Event) (level : Level) (message : String)
    (details : List (String × Detail)) : Prop :=
  event.level = level ∧ event.message = message ∧ event.details = details

def Event.Traces (token : Token) (event : Event) : Prop :=
  event.Says .trace "token"
    [("kind", .text token.kind.name), ("text", .text token.text),
      ("start", .number token.span.start), ("end", .number token.span.stop)]

structure Event.Warns (source : String) (token : Token) (event : Event) : Prop where
  malformed : ReadAsNumber source token →
    event.Says .warn "malformed number literal" [("text", .text token.text)]
  unexpected : ¬ ReadAsNumber source token → ∃ c, token.text = String.singleton c ∧
    event.Says .warn "unexpected character"
      [("character", .text (Text.escape c)), ("line", .number token.span.line.toNat),
        ("column", .number token.span.column.toNat)]

/-- Something that is done in a session: settings are put into effect, the source is rewound, or the
next token is called for. -/
inductive Deed
  | configured (settings : Settings)
  | rewound (position : Nat)
  | called (answer : Except Halt Token)

inductive Deed.Page (source : String) : Deed → List Event → Prop
  | configured {settings : Settings} {event : Event}
    (hevent : event.Says .debug "lexer configured"
      [("extra_keywords", .number settings.keywords.length),
        ("scientific_notation", .flag settings.exponents)]) :
    Page source (.configured settings) [event]
  | rewound {position : Nat} {event : Event}
    (hevent : event.Says .debug "lexer reset" [("from", .number position)]) :
    Page source (.rewound position) [event]
  | finish {token : Token} (hkind : token.kind = .endOfInput) :
    Page source (.called (.ok token)) []
  | valid {token : Token} {event : Event} (hkind : token.kind ≠ .endOfInput)
    (hvalid : token.kind ≠ .invalid) (hevent : event.Traces token) :
    Page source (.called (.ok token)) [event]
  | invalid {token : Token} {warning event : Event} (hinvalid : token.kind = .invalid)
    (hwarning : warning.Warns source token) (hevent : event.Traces token) :
    Page source (.called (.ok token)) [warning, event]
  | halted {token : Token} {diagnostic : Diagnostic} {warning : Event}
    (hinvalid : token.kind = .invalid) (htext : token.span.text? source = some token.text)
    (hspan : diagnostic.span = token.span) (hwarning : warning.Warns source token) :
    Page source (.called (.error (.reported diagnostic))) [warning]

def Deed.Fill (source : String) (deeds : List Deed) (events : List Event) : Prop :=
  ∃ pages, events = pages.flatten ∧ List.Forall₂ (Page source) deeds pages

/-- An answer to a consumer is made of the answers to its calls for the next token: of their tokens,
or of the halt that cut the last one short. -/
inductive Consumer.Sums (consumer : Consumer) (calls : List (Except Halt Token)) : Answer → Prop
  | tokens {tokens : List Token} {answer : Answer} {ended : Bool}
    (hcalls : calls.mapM id = .ok tokens)
    (htells : consumer.Tells answer (tokens.filter fun token => !token.isEof) ended) :
    Sums consumer calls answer
  | halted {halt : Halt} (hcalls : calls.mapM id = .error halt) : Sums consumer calls (.halted halt)

namespace Session

/-- The answers to at most `n` calls for the next token. After the end of the source and after a
halt there are no more. -/
def replies : Nat → Session → List (Except Halt Token)
  | 0, _ => []
  | n + 1, session =>
    session.next.2 ::
      match session.next.2 with
      | .ok token => if token.isEof then [] else replies n session.next.1
      | .error _ => []

def calls (session : Session) : Operation → List (Except Halt Token)
  | .next | .iterate => session.replies 1
  | .take n => session.replies n
  | .count | .tokenize => session.replies session.bound
  | _ => []

def deeds (session : Session) : Operation → List Deed
  | .rewind => [.rewound session.lexer.cursor.position]
  | operation => (session.calls operation).map .called

def allDeeds (session : Session) : List Operation → List Deed
  | [] => []
  | operation :: others =>
    session.deeds operation ++ (session.perform operation).1.allDeeds others

/-- What is done from the launch of a session on. Where the session cannot be opened nothing is. -/
def history (source : String) (policy : Policy) (settings : Option Settings)
    (operations : List Operation) : List Deed :=
  match launch source policy settings with
  | (session, .ok ()) => (settings.map .configured).toList ++ session.allDeeds operations
  | (_, .error _) => []

/-- The log of a session that is launched, and used if it could be opened. -/
def logOf (source : String) (policy : Policy) (settings : Option Settings)
    (operations : List Operation) : List Event :=
  match launch source policy settings with
  | (session, .ok ()) => (session.run operations).1.log.toList
  | (session, .error _) => session.log.toList

/-- The log is that of what was done, and the calls in it are those that the answers are made of. -/
structure Logged (source : String) (policy : Policy) (settings : Option Settings)
    (operations : List Operation) : Prop where
  fill : Deed.Fill source (history source policy settings operations)
    (logOf source policy settings operations)
  sums : ∀ (session : Session) (consumer : Consumer),
    consumer.Sums (session.calls consumer.operation) (session.perform consumer.operation).2

end Session

namespace Deed

variable {source : String} {deeds others : List Deed} {events further : List Event}

theorem Fill.nothing (source : String) : Fill source [] [] := ⟨[], rfl, .nil⟩

theorem Fill.single {deed : Deed} (h : Page source deed events) : Fill source [deed] events :=
  ⟨[events], (List.append_nil events).symm, .cons h .nil⟩

theorem Fill.append (h : Fill source deeds events) (hothers : Fill source others further) :
    Fill source (deeds ++ others) (events ++ further) := by
  obtain ⟨pages, rfl, hpages⟩ := h
  obtain ⟨more, rfl, hmore⟩ := hothers
  exact ⟨pages ++ more, List.flatten_append.symm, List.rel_append hpages hmore⟩

end Deed

namespace Session

variable {source : String} {policy : Policy} {session moved : Session} {scan : Scan}

theorem Turn.warns (h : Turn source session moved scan) {fault : Fault}
    (hfault : scan.fault = some fault) :
    (fault.warning scan.token.span).Warns source scan.token := by
  rcases h.fault_cases hfault with ⟨hread, rfl⟩ | ⟨hread, c, htext, rfl⟩
  · exact ⟨fun _ => ⟨rfl, rfl, rfl⟩, fun hnot => absurd hread hnot⟩
  · exact ⟨fun h => absurd h hread, fun _ => ⟨c, htext, rfl, rfl, rfl⟩⟩

theorem Turn.faultText (h : Turn source session moved scan) {fault : Fault}
    (hfault : scan.fault = some fault) :
    scan.token.span.text? source = some scan.token.text := by
  cases h with
  | finish => cases hfault
  | lexeme _ hsource _ hsolid hrun hlexeme =>
    have hscan : Scan.IsLexeme session.lexer.vocabulary _ source.toList _ :=
      .intro hsource hsolid hrun hlexeme
    have hslice := hscan.span_text
    rwa [String.ofList_toList] at hslice

/-- The events of a turn are those of a call with the answer that the policy gives to its scan. -/
theorem Turn.page (h : Turn source session moved scan)
    (hkinds : session.lexer.vocabulary.HasWordKinds) (policy : Policy) :
    Deed.Page source (.called (policy.answer scan)) (policy.logged scan) := by
  have hinvalid := h.kind_eq_invalid_iff hkinds
  cases hfault : scan.fault with
  | none =>
    have hvalid : scan.token.kind ≠ .invalid := by
      rw [ne_eq, hinvalid, hfault]
      simp
    have hend : scan.token.isEof = true ↔ scan.token.kind = .endOfInput := beq_iff_eq
    rw [policy.answer_faultless hfault, policy.logged_faultless hfault]
    split
    · next hfinish => exact .finish (hend.mp hfinish)
    · next hmore => exact .valid (mt hend.mpr hmore) hvalid ⟨rfl, rfl, rfl⟩
  | some fault =>
    have hkind : scan.token.kind = .invalid := by
      rw [hinvalid, hfault]
      rfl
    have hwarns := h.warns hfault
    have htext := h.faultText hfault
    obtain ⟨token, _⟩ := scan
    cases hfault
    cases policy with
    | collect =>
      have hend : token.isEof = false := by rw [Token.isEof, hkind]; rfl
      have hpage : Policy.collect.logged ⟨token, some fault⟩ =
          [fault.warning token.span, token.traced] := by simp [Policy.logged, hend]
      rw [hpage]
      exact .invalid hkind hwarns ⟨rfl, rfl, rfl⟩
    | halt => exact .halted hkind htext rfl hwarns

theorem next_fill (h : Standing source policy session) : ∃ events,
    session.next.1.log.toList = session.log.toList ++ events ∧
      Deed.Fill source [.called session.next.2] events := by
  obtain ⟨moved, scan, hturn, hnext⟩ := h.turn
  have hmoved : moved.log = session.log ∧ moved.sink = session.sink := by
    cases hturn <;> exact ⟨rfl, rfl⟩
  refine ⟨policy.logged scan, ?_, .single ?_⟩
  · rw [hnext, settle_log, hmoved.1, hmoved.2, h.policy]
  · rw [hnext, settle_answer, hmoved.2, h.policy]
    exact hturn.page h.kinds policy

theorem pull_fill (n : Nat) (h : Standing source policy session) : ∃ events,
    (session.pull n).1.log.toList = session.log.toList ++ events ∧
      Deed.Fill source ((session.replies n).map .called) events := by
  induction n generalizing session with
  | zero => exact ⟨[], (List.append_nil _).symm, .nothing source⟩
  | succ n ih =>
    obtain ⟨events, hlog, hfill⟩ := next_fill h
    rw [pull_succ_session, replies]
    cases hanswer : session.next.2 with
    | error halt =>
      rw [hanswer] at hfill
      exact ⟨events, hlog, hfill⟩
    | ok token =>
      rw [hanswer] at hfill
      dsimp only
      split
      · exact ⟨events, hlog, hfill⟩
      · obtain ⟨further, hlater, hothers⟩ := ih h.next
        refine ⟨events ++ further, ?_, hfill.append hothers⟩
        rw [hlater, hlog, List.append_assoc]

/-- What is pulled are the answers to the calls. -/
theorem pull_replies (n : Nat) (session : Session) :
    (session.pull n).2 = (session.replies n).mapM id := by
  induction n generalizing session with
  | zero => rfl
  | succ n ih =>
    rw [pull_succ, replies, List.mapM_cons]
    cases hanswer : session.next.2 with
    | error halt => rfl
    | ok token =>
      dsimp only [Except.bind, id_eq]
      split
      · rfl
      · rw [ih]
        rfl

theorem replies_one (session : Session) : session.replies 1 = [session.next.2] := by
  rw [replies]
  cases session.next.2 with
  | error halt => rfl
  | ok token => simp [replies]

theorem perform_sums (session : Session) (consumer : Consumer) :
    consumer.Sums (session.calls consumer.operation)
      (session.perform consumer.operation).2 := by
  cases consumer <;>
    simp only [Consumer.operation, Session.perform, Session.calls, Prod.map_snd]
  case next =>
    rw [replies_one]
    cases session.next.2 with
    | error halt => exact .halted rfl
    | ok token =>
      cases hend : token.isEof with
      | true =>
        exact .tokens rfl (by simpa [Answer.ofResult, hend] using Consumer.Tells.nextEnd hend)
      | false => exact .tokens rfl (by simpa [Answer.ofResult, hend] using Consumer.Tells.next hend)
  case iterate =>
    rw [replies_one, iterate_eq]
    cases session.next.2 with
    | error halt => exact .halted rfl
    | ok token =>
      have hcalls : [Except.ok token].mapM id = (.ok [token] : Except Halt (List Token)) := rfl
      cases hend : token.isEof with
      | true =>
        simp only [Except.map, hend, if_true]
        exact .tokens hcalls (by simpa [Answer.ofResult, hend] using Consumer.Tells.iterate none)
      | false =>
        simp only [Except.map, hend]
        exact .tokens hcalls
          (by simpa [Answer.ofResult, hend] using Consumer.Tells.iterate (some token))
  case take n =>
    rw [take_eq, pull_replies]
    cases hcalls : (session.replies n).mapM id with
    | error halt => exact .halted hcalls
    | ok tokens => exact .tokens hcalls (.take n _)
  case count =>
    rw [count_eq, take_eq, pull_replies]
    cases hcalls : (session.replies session.bound).mapM id with
    | error halt => exact .halted hcalls
    | ok tokens => exact .tokens hcalls (.count _)
  case tokenize =>
    rw [Session.tokenize, pull_replies]
    cases hcalls : (session.replies session.bound).mapM id with
    | error halt => exact .halted hcalls
    | ok tokens => exact .tokens hcalls (.tokenize tokens)

theorem perform_fill (h : Standing source policy session) (operation : Operation) : ∃ events,
    (session.perform operation).1.log.toList = session.log.toList ++ events ∧
      Deed.Fill source (session.deeds operation) events := by
  cases operation with
  | next | iterate =>
    change ∃ events, _ ∧ Deed.Fill source ((session.replies 1).map .called) events
    rw [replies_one]
    exact next_fill h
  | take n => exact pull_fill n h
  | count => exact pull_fill session.bound h
  | tokenize => exact pull_fill session.bound h
  | rewind =>
    have hpage : Deed.Page source (.rewound session.lexer.cursor.position)
        [.rewound session.lexer.cursor.position] := .rewound ⟨rfl, rfl, rfl⟩
    exact ⟨_, Array.toList_push, .single hpage⟩
  | reserve text =>
    refine ⟨[], ?_, .nothing source⟩
    rw [perform, Prod.map_fst, id, reserve_eq, List.append_nil]
  | clear | source | diagnostics | reports | kindOf word | isReserved word | vocabularySize
  | isVocabularyEmpty => exact ⟨[], (List.append_nil _).symm, .nothing source⟩

theorem run_fill (h : Standing source policy session) (operations : List Operation) : ∃ events,
    (session.run operations).1.log.toList = session.log.toList ++ events ∧
      Deed.Fill source (session.allDeeds operations) events := by
  induction operations generalizing session with
  | nil => exact ⟨[], (List.append_nil _).symm, .nothing source⟩
  | cons operation operations ih =>
    obtain ⟨events, hlog, hfill⟩ := perform_fill h operation
    obtain ⟨further, hlater, hothers⟩ := ih (h.perform operation)
    refine ⟨events ++ further, ?_, hfill.append hothers⟩
    rw [← List.append_assoc, ← hlog]
    exact hlater

/-- A launch that fails has logged nothing, as the words of settings come before their event. -/
theorem launch_log {settings : Option Settings} {error : SetupError}
    (h : launch source policy settings = (session, .error error)) : session.log = #[] := by
  cases settings with
  | none => cases h
  | some settings =>
    rw [launch, adopt] at h
    cases hvocabulary : settings.vocabulary with
    | error other =>
      rw [hvocabulary] at h
      cases h
      rfl
    | ok vocabulary =>
      rw [hvocabulary] at h
      cases h

theorem launch_fill {settings : Option Settings}
    (h : launch source policy settings = (session, .ok ())) :
    Deed.Fill source (settings.map Deed.configured).toList session.log.toList := by
  cases settings with
  | none =>
    cases h
    exact .nothing source
  | some settings =>
    obtain ⟨vocabulary, -, rfl⟩ := configure_eq_ok_iff.mp (configure_of_launch h)
    exact .single (.configured ⟨rfl, rfl, rfl⟩)

/-- Whatever is done with a session, its log tells it, and nothing else. -/
theorem run_logged (source : String) (policy : Policy) (settings : Option Settings)
    (operations : List Operation) : Logged source policy settings operations := by
  refine ⟨?_, perform_sums⟩
  rw [history, logOf]
  cases hlaunch : launch source policy settings with
  | mk session result =>
    cases result with
    | error error =>
      dsimp only
      rw [launch_log hlaunch]
      exact .nothing source
    | ok =>
      have hstanding := (fresh_of_launch hlaunch).standing
      obtain ⟨events, hlog, hfill⟩ := run_fill hstanding operations
      dsimp only
      rw [hlog]
      exact (launch_fill hlaunch).append hfill

end Session

end PayoffLexer
