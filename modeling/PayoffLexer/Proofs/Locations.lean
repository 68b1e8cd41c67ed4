import PayoffLexer.Proofs.Cursor.Moves
import PayoffLexer.Proofs.Session.Reported
import PayoffLexer.Proofs.Session.Yielded

/-!
# Lines and columns of tokens

A token carries the line and the column of its own first byte, whatever white space was skipped
before it and wherever the cursor went after it. So does every diagnostic, as it has the span of its
token.
-/

namespace PayoffLexer

def Span.place (span : Span) : Place := ⟨span.start, span.line, span.column⟩

structure Locations (source : String) : Prop where
  cursor : ∀ moves, ((Cursor.atStart source).moveAll moves).Located source
  session : ∀ {policy session}, Session.Reachable source policy session →
    session.lexer.cursor.Located source
  token : ∀ {policy session}, Session.Reachable source policy session →
    ∀ operation, ∀ token ∈ (session.perform operation).2.yielded,
      token.span.place.Accurate source
  diagnostic : ∀ {diagnostic}, Session.Reported source diagnostic →
    diagnostic.span.place.Accurate source

section scans
variable {source : String} {vocabulary : Vocabulary} {exponents : Bool} {scan : Scan}
  (hshort : source.length < 2 ^ 32 - 1)
include hshort

theorem Scan.IsLexeme.accurate (h : scan.IsLexeme vocabulary exponents source.toList) :
    scan.token.span.place.Accurate source := by
  generalize hcs : source.toList = cs at h
  cases h with
  | @intro before run rest shape hsource hsolid hrun hlexeme =>
    rw [hsource, List.append_assoc] at hcs
    apply Place.accurate_pastAll hcs
    rw [← String.length_toList, hcs, List.length_append] at hshort
    omega

theorem Scan.finish_accurate : (finish source.toList).token.span.place.Accurate source := by
  apply Place.accurate_pastAll (List.append_nil _).symm
  rw [String.length_toList]
  omega

end scans

namespace Session

variable {source : String} {policy : Policy} {session : Session} {token : Token}

theorem Standing.pull_accurate (h : Standing source policy session)
    (hshort : source.length < 2 ^ 32 - 1) {n : Nat} {tokens : List Token}
    (hpull : (session.pull n).2 = .ok tokens) :
    ∀ token ∈ tokens, token.span.place.Accurate source := by
  intro token htoken
  cases h.scanned_of_pulled hpull token htoken with
  | lexeme hlexeme => exact hlexeme.accurate hshort
  | eof => exact Scan.finish_accurate hshort

/-- No line and no column over a short source is wrong. -/
theorem locations (hshort : source.length < 2 ^ 32 - 1) : Locations source := by
  constructor
  · intro moves
    exact ((Cursor.over_atStart source).moveAll moves).located hshort
  · intro policy session h
    exact Cursor.Over.located h.standing.cursor hshort
  · intro policy session h operation token htoken
    obtain ⟨n, tokens, hpull, hmem⟩ := pulled_of_yielded htoken
    exact h.standing.pull_accurate hshort hpull token hmem
  · intro diagnostic h
    cases h.faulty with
    | intro hlexeme => exact hlexeme.accurate hshort

theorem locations_second_line : Locations "x\r\n\té $ 1" := locations (by decide)

end Session

end PayoffLexer
