import Mathlib.Tactic.SplitIfs
import PayoffLexer.Fault

/-!
# Texts on one line

Numbers, escapes and the messages of faults hold no line feed, so that a report has the lines that
it is meant to have.
-/

namespace PayoffLexer

def OneLine (text : String) : Prop := '\n' ∉ text.toList

instance (text : String) : Decidable (OneLine text) :=
  inferInstanceAs (Decidable ('\n' ∉ text.toList))

theorem oneLine_ofList {cs : List Char} : OneLine (String.ofList cs) ↔ '\n' ∉ cs := by
  rw [OneLine, String.toList_ofList]

theorem OneLine.append {text other : String} (h : OneLine text) (hother : OneLine other) :
    OneLine (text ++ other) := by
  rw [OneLine, String.toList_append, List.mem_append, not_or]
  exact ⟨h, hother⟩

theorem exists_digitChar_of_mem_toDigits {base n : Nat} (hbase : 1 < base) {c : Char}
    (hc : c ∈ Nat.toDigits base n) : ∃ digit, c = Nat.digitChar digit := by
  induction n using Nat.strongRecOn with
  | _ n ih =>
    rw [Nat.toDigits_eq_if hbase] at hc
    split at hc
    · exact ⟨n, List.mem_singleton.mp hc⟩
    · next hlarge =>
      rcases List.mem_append.mp hc with hc | hc
      · exact ih (n / base) (Nat.div_lt_self (by omega) hbase) hc
      · exact ⟨n % base, List.mem_singleton.mp hc⟩

theorem oneLine_toDigits {base : Nat} (hbase : 1 < base) (n : Nat) :
    OneLine (String.ofList (Nat.toDigits base n)) := by
  rw [oneLine_ofList]
  intro hmem
  obtain ⟨digit, hdigit⟩ := exists_digitChar_of_mem_toDigits hbase hmem
  exact Nat.digitChar_ne '\n' (by decide) hdigit.symm

theorem oneLine_toString (n : Nat) : OneLine (toString n) := by
  rw [Nat.toString_eq_ofList_toDigits]
  exact oneLine_toDigits (by decide) n

theorem oneLine_replicate {c : Char} (hc : c ≠ '\n') (n : Nat) :
    OneLine (String.ofList (List.replicate n c)) := by
  rw [oneLine_ofList]
  intro hmem
  exact hc (List.eq_of_mem_replicate hmem).symm

namespace Text

theorem oneLine_shortEscape {c : Char} {short : String} (h : shortEscape? c = some short) :
    OneLine short := by
  rw [shortEscape?] at h
  split_ifs at h <;> cases h <;> decide

/-- A character in a message takes no further line. -/
theorem oneLine_escape (c : Char) : OneLine (escape c) := by
  rw [escape]
  cases hshort : shortEscape? c with
  | some short => exact oneLine_shortEscape hshort
  | none =>
    dsimp only
    split
    · exact ((by decide : OneLine "\\u\x7b").append (oneLine_toDigits (by decide) c.toNat)).append
        (by decide)
    · have hfeed : c ≠ '\n' := by
        rintro rfl
        cases hshort
      rw [String.singleton_eq_ofList, oneLine_ofList]
      simpa using Ne.symm hfeed

end Text

namespace Fault

def QuotesOneLine : Fault → Prop
  | unexpectedCharacter _ => True
  | malformedNumber text => OneLine text

variable {fault : Fault} (span : Span)

theorem header_oneLine (h : fault.QuotesOneLine) : OneLine (fault.diagnostic span).header := by
  cases fault with
  | unexpectedCharacter c =>
    have hmessage : OneLine ("unexpected character '" ++ Text.escape c ++ "'") :=
      ((by decide : OneLine "unexpected character '").append (Text.oneLine_escape c)).append
        (by decide)
    have hcode : OneLine ("error[" ++ ErrorCode.unexpectedCharacter.label ++ "]: ") := by
      decide +kernel
    exact hcode.append hmessage
  | malformedNumber text =>
    have hmessage : OneLine ("invalid number literal '" ++ text ++ "'") :=
      ((by decide : OneLine "invalid number literal '").append h).append (by decide)
    have hcode : OneLine ("error[" ++ ErrorCode.invalidNumber.label ++ "]: ") := by
      decide +kernel
    exact hcode.append hmessage

theorem helps_oneLine : ∀ help ∈ (fault.diagnostic span).helps, OneLine help := by
  cases fault with
  | unexpectedCharacter c =>
    change ∀ help ∈ (if c = ':' then ["assignment is written ':='"] else []), OneLine help
    split
    · decide
    · simp
  | malformedNumber text =>
    change ∀ help ∈ ["a number has at most one decimal point"], OneLine help
    decide

end Fault

end PayoffLexer
