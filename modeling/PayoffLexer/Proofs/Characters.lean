import PayoffLexer.Cursor.Lookahead
import PayoffLexer.Token.Symbol
import PayoffLexer.Unicode.WhiteSpace
import PayoffLexer.Word

/-!
# The classes of characters are disjoint

White space, letters, digits, the point and the characters of symbols exclude each other. Below
U+0080 the classes are those of ASCII; above, no code point of white space lies in the tree of
letters.
-/

namespace PayoffLexer

namespace Unicode

def whiteSpaceCodes : List Nat :=
  List.range' 0x09 5 ++ [0x20, 0x85, 0xA0, 0x1680] ++ List.range' 0x2000 11
    ++ [0x2028, 0x2029, 0x202F, 0x205F, 0x3000]

theorem mem_whiteSpaceCodes_iff (code : Nat) :
    code ∈ whiteSpaceCodes ↔ isWhiteSpaceCode code = true := by
  simp only [whiteSpaceCodes, isWhiteSpaceCode, List.mem_append, List.mem_range'_1, List.mem_cons,
    List.not_mem_nil, or_false, Bool.or_eq_true, Bool.and_eq_true, decide_eq_true_eq, beq_iff_eq]
  omega

theorem alphabeticTree_whiteSpace :
    ∀ code ∈ whiteSpaceCodes, alphabeticTree.contains code = false := by
  decide +kernel

theorem isAlpha_toNat {c : Char} (h : c.isAlpha = true) :
    (65 ≤ c.toNat ∧ c.toNat ≤ 90) ∨ (97 ≤ c.toNat ∧ c.toNat ≤ 122) := by
  change (decide (c.val ≥ 'A'.val ∧ c.val ≤ 'Z'.val) ||
    (decide (c.val ≥ 'a'.val) && decide (c.val ≤ 'z'.val))) = true at h
  simp only [Bool.or_eq_true, Bool.and_eq_true, decide_eq_true_eq, ge_iff_le,
    UInt32.le_iff_toNat_le] at h
  exact h

theorem isDigit_toNat {c : Char} (h : c.isDigit = true) : 48 ≤ c.toNat ∧ c.toNat ≤ 57 :=
  Char.isDigit_iff_toNat.mp h

theorem isAlphabetic_of_isWhiteSpace {c : Char} (h : isWhiteSpace c = true) :
    isAlphabetic c = false := by
  have hcode := (mem_whiteSpaceCodes_iff c.toNat).mpr h
  rw [isAlphabetic]
  split
  · next hascii =>
    rw [Bool.eq_false_iff]
    intro halpha
    have hrange := isAlpha_toNat halpha
    simp only [isWhiteSpace, isWhiteSpaceCode, Bool.or_eq_true, Bool.and_eq_true, decide_eq_true_eq,
      beq_iff_eq] at h
    omega
  · exact alphabeticTree_whiteSpace c.toNat hcode

theorem isAlphabetic_of_isDigit {c : Char} (h : c.isDigit = true) : isAlphabetic c = false := by
  have hrange := isDigit_toNat h
  rw [isAlphabetic, if_pos (by omega), Bool.eq_false_iff]
  intro halpha
  have := isAlpha_toNat halpha
  omega

theorem isWhiteSpace_of_isDigit {c : Char} (h : c.isDigit = true) : isWhiteSpace c = false := by
  have hrange := isDigit_toNat h
  rw [Bool.eq_false_iff]
  intro hwhite
  simp only [isWhiteSpace, isWhiteSpaceCode, Bool.or_eq_true, Bool.and_eq_true, decide_eq_true_eq,
    beq_iff_eq] at hwhite
  omega

end Unicode

open Unicode

theorem continuesWord_of_startsWord {c : Char} (h : startsWord c = true) :
    continuesWord c = true := by
  rw [startsWord] at h
  simp [continuesWord, h]

theorem isWhiteSpace_of_continuesWord {c : Char} (h : continuesWord c = true) :
    isWhiteSpace c = false := by
  rw [Bool.eq_false_iff]
  intro hwhite
  simp only [continuesWord, isAlphabetic_of_isWhiteSpace hwhite, Bool.or_false, Bool.or_eq_true,
    beq_iff_eq] at h
  rcases h with rfl | hdigit
  · exact absurd hwhite (by decide)
  · simp [isWhiteSpace_of_isDigit hdigit] at hwhite

theorem startsWord_of_isDigit {c : Char} (h : c.isDigit = true) : startsWord c = false := by
  have hne : c ≠ '_' := by
    rintro rfl
    exact absurd h (by decide)
  simp [startsWord, hne, isAlphabetic_of_isDigit h]

theorem startsWord_of_startsNumber {c next : Char} (h : startsNumber c next = true) :
    startsWord c = false := by
  simp only [startsNumber, Bool.or_eq_true, Bool.and_eq_true, beq_iff_eq] at h
  rcases h with hdigit | ⟨rfl, -⟩
  · exact startsWord_of_isDigit hdigit
  · decide

/-- Symbols hold no character of the other classes. -/
theorem symbols_solid : ∀ entry ∈ symbols,
    entry.1.toList ≠ [] ∧ ∀ c ∈ entry.1.toList,
      isWhiteSpace c = false ∧ startsWord c = false ∧ c.isDigit = false ∧ c ≠ '.' := by
  -- As a check of the table, since characters are too many to be tried one by one.
  have htable : ∀ entry ∈ symbols, entry.1.toList ≠ [] ∧ entry.1.toList.all (fun c =>
      isWhiteSpace c = false ∧ startsWord c = false ∧ c.isDigit = false ∧ c ≠ '.') = true := by
    decide +kernel
  intro entry hentry
  obtain ⟨hne, hall⟩ := htable entry hentry
  refine ⟨hne, ?_⟩
  intro c hc
  exact of_decide_eq_true (List.all_eq_true.mp hall c hc)

end PayoffLexer
