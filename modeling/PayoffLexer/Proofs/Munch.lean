import PayoffLexer.Proofs.Lexeme.Grammar
import PayoffLexer.Proofs.Lexer.Lexemes
import PayoffLexer.Proofs.Session.Reachable

/-!
# The longest lexeme of the only class

Of the three classes of lexemes at most one has a lexeme at the front of a text. The scanner takes
the longest of that class, in whatever order it tries the classes, and a single character where no
class has any.
-/

namespace PayoffLexer

open Cursor (between endMark)

namespace LexemeClass

variable {ahead : String}

theorem not_begins_word_of_number (h : Begins .number ahead) : ¬ Begins .word ahead := by
  intro hword
  obtain ⟨c, rest, hahead, hc⟩ := begins_word_iff.mp hword
  have hnumber := begins_number_iff.mp h
  rw [hahead, Front.beginsNumber, List.head?_cons, Option.getD_some] at hnumber
  rw [startsWord_of_startsNumber hnumber] at hc
  exact Bool.false_ne_true hc

theorem not_begins_word_of_symbol (h : Begins .symbol ahead) : ¬ Begins .word ahead := by
  intro hword
  obtain ⟨c, rest, hahead, hstart, -, -⟩ := begins_symbol_first h
  obtain ⟨d, others, hothers, hd⟩ := begins_word_iff.mp hword
  rw [hahead] at hothers
  cases hothers
  rw [hstart] at hd
  exact Bool.false_ne_true hd

theorem not_begins_number_of_symbol (h : Begins .symbol ahead) : ¬ Begins .number ahead := by
  intro hnumber
  obtain ⟨c, rest, hahead, -, hdigit, hpoint⟩ := begins_symbol_first h
  rw [begins_number_iff, hahead, Front.beginsNumber_cons] at hnumber
  rcases hnumber with hc | ⟨hc, -⟩
  · rw [hdigit] at hc
    exact Bool.false_ne_true hc
  · exact hpoint hc

theorem begins_unique {shape other : LexemeClass} (h : shape.Begins ahead)
    (hother : other.Begins ahead) : shape = other := by
  cases shape with
  | word =>
    cases other with
    | word => rfl
    | number => exact absurd h (not_begins_word_of_number hother)
    | symbol => exact absurd h (not_begins_word_of_symbol hother)
  | number =>
    cases other with
    | word => exact absurd hother (not_begins_word_of_number h)
    | number => rfl
    | symbol => exact absurd h (not_begins_number_of_symbol hother)
  | symbol =>
    cases other with
    | word => exact absurd hother (not_begins_word_of_symbol h)
    | number => exact absurd hother (not_begins_number_of_symbol h)
    | symbol => rfl

/-- The characters at the front that may stand in a word are the longest word. -/
theorem word_longest (h : Begins .word ahead) :
    Longest .word ahead (String.ofList (ahead.toList.takeWhile continuesWord)) := by
  obtain ⟨c, rest, hahead, hc⟩ := begins_word_iff.mp h
  have htake : ahead.toList.takeWhile continuesWord = c :: rest.takeWhile continuesWord := by
    rw [hahead, List.takeWhile_cons_of_pos (continuesWord_of_startsWord hc)]
  constructor
  · refine isWord_iff.mpr ⟨c, rest.takeWhile continuesWord, ?_, hc, Front.takeWhile_all⟩
    rw [String.toList_ofList, htake]
  · rw [String.toList_ofList]
    exact List.takeWhile_prefix _
  · intro other hother hbegins
    have hall := continuesWord_of_isWord hother
    obtain ⟨others, hothers⟩ := hbegins
    have hlonger : other.toList <+: ahead.toList.takeWhile continuesWord := by
      rw [← hothers, List.takeWhile_append_of_pos hall]
      exact List.prefix_append _ _
    rw [← String.length_toList, ← String.length_toList, String.toList_ofList]
    exact hlonger.length_le

/-- A symbol of the table is no proper beginning of a later one. -/
theorem symbols_ordered :
    symbols.Pairwise fun earlier later => ¬ earlier.1.toList <+: later.1.toList := by
  decide +kernel

theorem symbols_lookup : ∀ entry ∈ symbols, symbols.lookup entry.1 = some entry.2 := by
  decide +kernel

/-- The first symbol of the table that fits is the longest. -/
theorem symbol_longest {text : String} {kind : Kind}
    (h : Front.symbol? ahead.toList = some (text, kind)) : Longest .symbol ahead text := by
  obtain ⟨hmem, hbegins⟩ := Front.symbol?_some h
  refine ⟨⟨kind, hmem⟩, hbegins, ?_⟩
  rintro other ⟨otherKind, hother⟩ hotherBegins
  rw [Front.symbol?, List.find?_eq_some_iff_append] at h
  obtain ⟨-, before, after, hsymbols, hbefore⟩ := h
  have hordered := symbols_ordered
  rw [hsymbols] at hother hordered
  rw [List.pairwise_append, List.pairwise_cons] at hordered
  rw [← String.length_toList, ← String.length_toList]
  rcases List.mem_append.mp hother with hother | hother
  · have hnot := hbefore _ hother
    simp [List.isPrefixOf_iff_prefix.mpr hotherBegins] at hnot
  · rcases List.mem_cons.mp hother with hother | hother
    · cases hother
      exact le_rfl
    · -- Of two beginnings of one text the shorter begins the longer.
      by_contra hlonger
      have hshorter : text.toList <+: other.toList :=
        List.prefix_of_prefix_length_le hbegins hotherBegins (by omega)
      exact hordered.2.1.1 _ hother hshorter

end LexemeClass

def Cursor.lexemeOf? (exponents : Bool) (c : Cursor) : LexemeClass → Option (Shape × Cursor)
  | .word => if startsWord c.current then some (.word, c.advanceWhile continuesWord) else none
  | .number => if startsNumber c.current (c.peek 1) then some (c.numberLexeme exponents) else none
  | .symbol => c.symbol?.map fun (kind, after) => (.symbol kind, after)

/-- The lexeme that begins at the cursor, if the classes are tried in the given order. -/
def Cursor.lexemeIn (order : List LexemeClass) (exponents : Bool) (c : Cursor) : Shape × Cursor :=
  (order.findSome? (c.lexemeOf? exponents)).getD (.unexpected c.current, c.advance)

namespace Cursor

theorem lexeme_eq_lexemeIn (exponents : Bool) (c : Cursor) :
    c.lexeme exponents = c.lexemeIn [.number, .word, .symbol] exponents := by
  rw [lexeme, lexemeIn]
  by_cases hnumber : startsNumber c.current (c.peek 1)
  · simp [lexemeOf?, hnumber]
  · by_cases hword : startsWord c.current
    · simp [lexemeOf?, hnumber, hword]
    · cases hsymbol : c.symbol? <;> simp [lexemeOf?, hnumber, hword, hsymbol]

theorem lexemeOf?_between (exponents : Bool) (passed ahead : List Char) (shape : LexemeClass) :
    ((between passed ahead).lexemeOf? exponents shape).isSome = true ↔
      shape.Begins (String.ofList ahead) := by
  cases shape with
  | word =>
    rw [LexemeClass.begins_word_iff, lexemeOf?, current_between, String.toList_ofList]
    cases ahead with
    | nil =>
      have hend : startsWord endMark = false := by decide
      simp [hend]
    | cons c rest =>
      by_cases hc : startsWord c <;> simp [hc]
  | number =>
    rw [LexemeClass.begins_number_iff, lexemeOf?, current_between, peek_between,
      String.toList_ofList]
    simp [Front.beginsNumber]
  | symbol =>
    rw [LexemeClass.begins_symbol_iff, lexemeOf?, symbol?_between, String.toList_ofList]
    simp

theorem findSome?_unique {α β : Type} {f : α → Option β}
    (hunique : ∀ a b, (f a).isSome = true → (f b).isSome = true → a = b) {order others : List α}
    (horder : ∀ a, a ∈ order) (hothers : ∀ a, a ∈ others) :
    order.findSome? f = others.findSome? f := by
  cases hfound : others.findSome? f with
  | none =>
    rw [List.findSome?_eq_none_iff] at hfound ⊢
    exact fun a _ => hfound a (hothers a)
  | some found =>
    obtain ⟨a, -, ha⟩ := List.exists_of_findSome?_eq_some hfound
    cases hother : order.findSome? f with
    | none =>
      rw [List.findSome?_eq_none_iff.mp hother a (horder a)] at ha
      cases ha
    | some other =>
      obtain ⟨b, -, hb⟩ := List.exists_of_findSome?_eq_some hother
      have hab : a = b := hunique a b (by rw [ha]; rfl) (by rw [hb]; rfl)
      rw [← hb, ← hab, ha]

/-- The order in which the classes are tried is immaterial. -/
theorem lexemeIn_between {order : List LexemeClass} (horder : ∀ shape, shape ∈ order)
    (exponents : Bool) (passed ahead : List Char) :
    (between passed ahead).lexemeIn order exponents = (between passed ahead).lexeme exponents := by
  have hunique (shape other : LexemeClass)
      (h : ((between passed ahead).lexemeOf? exponents shape).isSome = true)
      (hother : ((between passed ahead).lexemeOf? exponents other).isSome = true) :
      shape = other := by
    rw [lexemeOf?_between] at h hother
    exact LexemeClass.begins_unique h hother
  -- At most one class gives a lexeme, so each order that has all classes finds the same.
  have hall : ∀ shape, shape ∈ [LexemeClass.number, .word, .symbol] := by
    intro shape
    cases shape <;> decide
  rw [lexeme_eq_lexemeIn, lexemeIn, lexemeIn, findSome?_unique hunique horder hall]

end Cursor

namespace Session

def nextIn (order : List LexemeClass) (session : Session) : Session × Except Halt Token :=
  let session := { session with lexer := session.lexer.approach }
  if session.lexer.cursor.atEnd then (session, .ok ⟨.endOfInput, "", session.lexer.span⟩)
  else
    let (shape, cursor) := session.lexer.cursor.lexemeIn order session.lexer.exponents
    { session with lexer.cursor := cursor }.yieldToken shape

theorem nextIn_between {order : List LexemeClass} (horder : ∀ shape, shape ∈ order)
    {session : Session} {passed ahead : List Char}
    (hcursor : session.lexer.cursor = between passed ahead) :
    session.nextIn order = session.next := by
  rw [nextIn, next, Lexer.approach_between hcursor]
  dsimp only
  rw [Cursor.lexemeIn_between horder]

end Session

namespace Front

variable {ahead : List Char} (exponents : Bool)

theorem lexeme_number (h : LexemeClass.Begins .number (String.ofList ahead)) :
    lexeme exponents ahead = numberLexeme exponents ahead := by
  rw [LexemeClass.begins_number_iff, String.toList_ofList] at h
  rw [lexeme, if_pos h]

theorem lexeme_word (h : LexemeClass.Begins .word (String.ofList ahead)) :
    lexeme exponents ahead = (.word, ahead.takeWhile continuesWord) := by
  have hnumber : ¬ beginsNumber ahead = true := by
    intro hnumber
    rw [← String.toList_ofList (l := ahead), ← LexemeClass.begins_number_iff] at hnumber
    exact LexemeClass.not_begins_word_of_number hnumber h
  obtain ⟨c, rest, hahead, hc⟩ := LexemeClass.begins_word_iff.mp h
  rw [String.toList_ofList] at hahead
  subst hahead
  rw [lexeme, if_neg hnumber, List.head?_cons, Option.getD_some, if_pos hc]

theorem lexeme_other (hnumber : ¬ LexemeClass.Begins .number (String.ofList ahead))
    (hword : ¬ LexemeClass.Begins .word (String.ofList ahead)) (hne : ahead ≠ []) :
    lexeme exponents ahead =
      match symbol? ahead with
      | some (text, kind) => (.symbol kind, text.toList)
      | none => (.unexpected (ahead.head?.getD endMark), ahead.take 1) := by
  rw [LexemeClass.begins_number_iff, String.toList_ofList] at hnumber
  obtain ⟨c, rest, rfl⟩ := List.exists_cons_of_ne_nil hne
  have hc : ¬ startsWord c = true := by
    intro hc
    exact hword (LexemeClass.begins_word_iff.mpr ⟨c, rest, String.toList_ofList, hc⟩)
  rw [lexeme, if_neg hnumber, List.head?_cons, Option.getD_some]
  exact if_neg hc

end Front

namespace Session

/-- What the next token is, if the text after the white space ahead of the session is `rest`. -/
structure Munch (policy : Policy) (session : Session) (rest : String) : Prop where
  unique : ∀ shape other : LexemeClass, shape.Begins rest → other.Begins rest → shape = other
  order : ∀ order : List LexemeClass, (∀ shape, shape ∈ order) →
    session.nextIn order = session.next
  word : LexemeClass.Begins .word rest → ∃ token, session.next.2 = .ok token ∧
    LexemeClass.Longest .word rest token.text ∧
    token.kind = (session.lexer.vocabulary.kindOf? token.text).getD .identifier
  symbol : LexemeClass.Begins .symbol rest → ∃ token, session.next.2 = .ok token ∧
    LexemeClass.Longest .symbol rest token.text ∧ symbols.lookup token.text = some token.kind
  number : LexemeClass.Begins .number rest → ∃ scan,
    session.lexer.approach.takeAs
        (session.lexer.approach.cursor.numberLexeme session.lexer.exponents) =
      (session.next.1.lexer, some scan) ∧
    session.next.2 = policy.answer scan
  unexpected : (∀ shape : LexemeClass, ¬ shape.Begins rest) → ∃ c others token,
    rest.toList = c :: others ∧ token.kind = .invalid ∧ token.text = String.singleton c ∧
    session.next.2 = policy.answer ⟨token, some (.unexpectedCharacter c)⟩ ∧
    session.next.1.lexer.cursor = session.lexer.approach.cursor.advance ∧
    session.next.1.lexer.cursor.remaining? = some (String.ofList others)

variable {source : String} {policy : Policy} {session : Session}

/-- The session stands before white space, a lexeme and further text. -/
structure Facing (policy : Policy) (session : Session) (before run rest : List Char)
    (shape : Shape) : Prop where
  approach : session.lexer.approach =
    { session.lexer with
      cursor := between before (run ++ rest)
      mark := Place.origin.pastAll before }
  lexeme : Front.lexeme session.lexer.exponents (run ++ rest) = (shape, run)
  nonempty : run ≠ []
  lexer : session.next.1.lexer =
    { session.lexer with
      cursor := between (before ++ run) rest
      mark := Place.origin.pastAll before }
  answer : session.next.2 = policy.answer (.taken session.lexer.vocabulary before shape run)

/-- With more than white space ahead a session stands before a lexeme. -/
theorem Standing.facing (h : Standing source policy session) {text : String}
    (htext : session.lexer.approach.cursor.remaining? = some text) (hne : text ≠ "") :
    ∃ before run rest shape, Facing policy session before run rest shape ∧
      text = String.ofList (run ++ rest) := by
  obtain ⟨passed, ahead, hcursor, -⟩ := h.cursor
  have happroach := Lexer.approach_between hcursor
  rw [happroach, Cursor.remaining?_between] at htext
  cases Front.parts session.lexer.exponents ahead with
  | blank hwhite =>
    have hdrop := hwhite.dropWhile_append []
    rw [List.append_nil] at hdrop
    rw [hdrop] at htext
    cases htext
    exact absurd rfl hne
  | @lexeme white run rest shape hwhite hsolid hrun hlexeme _ =>
    obtain ⟨htake, hdrop⟩ := hwhite.dropWhile_solid hsolid hrun rest
    rw [htake, hdrop] at happroach
    rw [hdrop] at htext
    cases htext
    have hnext := next_of_scan h.kinds (Lexer.scan_lexeme hcursor hwhite hsolid hrun hlexeme)
    refine ⟨passed ++ white, run, rest, shape, ⟨happroach, hlexeme, hrun, ?_, ?_⟩, rfl⟩
    · rw [hnext, settle_lexer]
    · rw [hnext, settle_answer]
      exact congrArg (fun policy => Policy.answer policy _) h.policy

namespace Facing

variable {before run rest : List Char} {shape : Shape}

theorem word (h : Facing policy session before run rest shape)
    (hword : LexemeClass.Begins .word (String.ofList (run ++ rest))) :
    ∃ token, session.next.2 = .ok token ∧
      LexemeClass.Longest .word (String.ofList (run ++ rest)) token.text ∧
      token.kind = (session.lexer.vocabulary.kindOf? token.text).getD .identifier := by
  have hlongest := LexemeClass.word_longest hword
  have hlexeme := h.lexeme
  rw [Front.lexeme_word _ hword, Prod.mk.injEq] at hlexeme
  obtain ⟨rfl, hrun⟩ := hlexeme
  rw [String.toList_ofList, hrun] at hlongest
  exact ⟨_, h.answer.trans (policy.answer_faultless rfl), hlongest, rfl⟩

theorem number (h : Facing policy session before run rest shape)
    (hnumber : LexemeClass.Begins .number (String.ofList (run ++ rest))) :
    ∃ scan, session.lexer.approach.takeAs
        (session.lexer.approach.cursor.numberLexeme session.lexer.exponents) =
      (session.next.1.lexer, some scan) ∧ session.next.2 = policy.answer scan := by
  have hlexeme := h.lexeme
  rw [Front.lexeme_number _ hnumber] at hlexeme
  refine ⟨_, ?_, h.answer⟩
  rw [h.approach, h.lexer, Lexer.takeAs]
  simp only [Cursor.numberLexeme_between, hlexeme, Cursor.past, List.drop_left, Lexer.text?,
    Lexer.scanOf, Lexer.span, Place.origin_pastAll_position, Cursor.textFrom?_between,
    Cursor.between_position, Option.map_some]
  rfl

theorem symbol (h : Facing policy session before run rest shape)
    (hsymbol : LexemeClass.Begins .symbol (String.ofList (run ++ rest))) :
    ∃ token, session.next.2 = .ok token ∧
      LexemeClass.Longest .symbol (String.ofList (run ++ rest)) token.text ∧
      symbols.lookup token.text = some token.kind := by
  have hlexeme := h.lexeme
  rw [Front.lexeme_other _ (LexemeClass.not_begins_number_of_symbol hsymbol)
    (LexemeClass.not_begins_word_of_symbol hsymbol) (by simp [h.nonempty])] at hlexeme
  have hfound := LexemeClass.begins_symbol_iff.mp hsymbol
  rw [String.toList_ofList] at hfound
  obtain ⟨⟨text, kind⟩, hentry⟩ := Option.isSome_iff_exists.mp hfound
  rw [hentry, Prod.mk.injEq] at hlexeme
  obtain ⟨rfl, rfl⟩ := hlexeme
  have hlongest : LexemeClass.Longest .symbol (String.ofList (text.toList ++ rest)) text := by
    apply LexemeClass.symbol_longest
    rw [String.toList_ofList]
    exact hentry
  have htext : String.ofList text.toList = text := String.ofList_toList
  refine ⟨_, h.answer.trans (policy.answer_faultless rfl), ?_, ?_⟩
  · rw [Scan.taken_text, htext]
    exact hlongest
  · rw [Scan.taken_text, htext]
    exact LexemeClass.symbols_lookup _ (Front.symbol?_some hentry).1

theorem unexpected (h : Facing policy session before run rest shape)
    (hnone : ∀ shape : LexemeClass, ¬ shape.Begins (String.ofList (run ++ rest))) :
    ∃ c token, run = [c] ∧ token.kind = .invalid ∧ token.text = String.singleton c ∧
      session.next.2 = policy.answer ⟨token, some (.unexpectedCharacter c)⟩ ∧
      session.next.1.lexer.cursor = session.lexer.approach.cursor.advance := by
  have hlexeme := h.lexeme
  rw [Front.lexeme_other _ (hnone .number) (hnone .word) (by simp [h.nonempty])] at hlexeme
  cases hentry : Front.symbol? (run ++ rest) with
  | some entry =>
    have hsymbol := hnone .symbol
    rw [LexemeClass.begins_symbol_iff, String.toList_ofList, hentry] at hsymbol
    exact absurd rfl hsymbol
  | none =>
    obtain ⟨c, others, hrun⟩ := List.exists_cons_of_ne_nil h.nonempty
    rw [hentry, hrun, List.cons_append, List.head?_cons, Option.getD_some, List.take_succ_cons,
      List.take_zero, Prod.mk.injEq] at hlexeme
    obtain ⟨hshape, hrest⟩ := hlexeme
    rw [← hrest] at hrun
    subst hrun hshape
    refine ⟨c, _, rfl, rfl, ?_, h.answer, ?_⟩
    · rw [String.singleton_eq_ofList]
    · rw [h.lexer, h.approach]
      exact (Cursor.advance_between_cons _ _ _).symm

end Facing

/-- The next token of a session before a text that is not blank is of the only class of lexemes that
begins the text, and as long as the text allows. -/
theorem next_munch (h : Reachable source policy session) {text : String}
    (htext : session.lexer.approach.cursor.remaining? = some text) (hne : text ≠ "") :
    Munch policy session text := by
  have hstanding := h.standing
  obtain ⟨before, run, rest, shape, hfacing, rfl⟩ := hstanding.facing htext hne
  obtain ⟨passed, ahead, hcursor, -⟩ := hstanding.cursor
  constructor
  · exact fun _ _ => LexemeClass.begins_unique
  · intro order horder
    exact nextIn_between horder hcursor
  · exact hfacing.word
  · exact hfacing.symbol
  · exact hfacing.number
  · intro hnone
    obtain ⟨c, token, rfl, hkind, htoken, hanswer, hadvance⟩ := hfacing.unexpected hnone
    refine ⟨c, rest, token, String.toList_ofList, hkind, htoken, hanswer, hadvance, ?_⟩
    rw [hfacing.lexer]
    exact Cursor.remaining?_between _ _

theorem next_munch_second :
    Munch .collect ((start "x **=.5" .collect).perform .next).1 "**=.5" := by
  have htext : ((start "x **=.5" .collect).perform .next).1.lexer.approach.cursor.remaining? =
      some "**=.5" := by
    decide +kernel
  exact next_munch ((Reachable.fresh Fresh.start).perform .next) htext (by decide)

end Session

end PayoffLexer
