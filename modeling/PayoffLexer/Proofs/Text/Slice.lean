import Mathlib.Data.String.Basic
import PayoffLexer.Text.Slice

/-!
# Ranges between characters

A byte offset is a boundary of a text exactly if it is the length of one of its beginnings. A range
between two boundaries names the characters between them.
-/

namespace PayoffLexer.Text

open String (utf8Len utf8Len_append)

theorem length_le_utf8Len (cs : List Char) : cs.length ≤ utf8Len cs := by
  induction cs with
  | nil => exact Nat.le_refl 0
  | cons c cs ih =>
    have hc := Char.utf8Size_pos c
    rw [List.length_cons, String.utf8Len_cons]
    omega

theorem utf8Len_pos {cs : List Char} (h : cs ≠ []) : 0 < utf8Len cs :=
  Nat.lt_of_lt_of_le (List.length_pos_iff.mpr h) (length_le_utf8Len cs)

theorem utf8Len_of_ascii {cs : List Char} (h : ∀ c ∈ cs, c.toNat < 128) :
    utf8Len cs = cs.length := by
  induction cs with
  | nil => rfl
  | cons c cs ih =>
    rw [List.forall_mem_cons] at h
    have hc : c.val ≤ 127 := UInt32.le_iff_toNat_le.mpr (Nat.le_of_lt_succ h.1)
    rw [String.utf8Len_cons, ih h.2, Char.utf8Size_eq_one_iff.mpr hc, List.length_cons]

theorem utf8Len_toList (source : String) : utf8Len source.toList = source.utf8ByteSize := by
  rw [← String.utf8ByteSize_ofList, String.ofList_toList]

/-- Of two beginnings of a text the one with more bytes is the longer. -/
theorem prefix_of_utf8Len_le {shorter longer cs : List Char} (hshorter : shorter <+: cs)
    (hlonger : longer <+: cs) (h : utf8Len shorter ≤ utf8Len longer) : shorter <+: longer := by
  rcases List.prefix_or_prefix_of_prefix hshorter hlonger with hp | ⟨t, rfl⟩
  · exact hp
  · have ht : t = [] := by
      rw [← String.utf8Len_eq_zero]
      rw [utf8Len_append] at h
      omega
    simp [ht]

theorem isBoundary_iff (cs : List Char) (place : Nat) :
    isBoundary (String.ofList cs) place = true ↔
      ∃ before, before <+: cs ∧ utf8Len before = place := by
  rw [isBoundary, String.Pos.Raw.isValid_eq_true_iff, String.Pos.Raw.isValid_ofList]
  constructor
  · rintro ⟨i, hi⟩
    exact ⟨cs.take i, List.take_prefix i cs, by rw [← String.utf8ByteSize_ofList, ← hi]⟩
  · rintro ⟨before, hbefore, rfl⟩
    refine ⟨before.length, ?_⟩
    rw [String.utf8ByteSize_ofList, ← List.prefix_iff_eq_take.mp hbefore]

theorem isBoundary_after (before after : List Char) :
    isBoundary (String.ofList (before ++ after)) (utf8Len before) = true :=
  (isBoundary_iff _ _).mpr ⟨before, List.prefix_append before after, rfl⟩

/-- The range from the end of one beginning of a text to the end of a longer one. -/
theorem slice?_between (before text after : List Char) :
    slice? (String.ofList (before ++ text ++ after)) (utf8Len before) (utf8Len (before ++ text)) =
      some (String.ofList text) := by
  have hstart := isBoundary_after before (text ++ after)
  have hstop := isBoundary_after (before ++ text) after
  rw [← List.append_assoc] at hstart
  have hle : utf8Len before ≤ utf8Len (before ++ text) := by simp
  rw [slice?]
  simp only [hle, hstart, hstop, decide_true, Bool.and_self, if_true]
  rw [utf8Len_append, String.extract_of_valid]

theorem slice?_of_toList {source : String} {before text after : List Char}
    (h : source.toList = before ++ text ++ after) :
    slice? source (utf8Len before) (utf8Len (before ++ text)) = some (String.ofList text) := by
  rw [← slice?_between before text after, ← h, String.ofList_toList]

/-- A range that names a text splits the source around it. -/
theorem exists_of_slice? {source : String} {start stop : Nat} {text : String}
    (h : slice? source start stop = some text) :
    ∃ before after, source.toList = before ++ text.toList ++ after ∧
      utf8Len before = start ∧ utf8Len (before ++ text.toList) = stop := by
  obtain ⟨cs, rfl⟩ := source.exists_eq_ofList
  have hrange : start ≤ stop ∧ isBoundary (String.ofList cs) start = true ∧
      isBoundary (String.ofList cs) stop = true := by
    rw [slice?] at h
    split at h
    · next hb => simpa [and_assoc] using hb
    · cases h
  obtain ⟨hle, hstart, hstop⟩ := hrange
  obtain ⟨before, hbefore, rfl⟩ := (isBoundary_iff _ _).mp hstart
  obtain ⟨upto, hupto, rfl⟩ := (isBoundary_iff _ _).mp hstop
  obtain ⟨middle, rfl⟩ := prefix_of_utf8Len_le hbefore hupto hle
  obtain ⟨after, rfl⟩ := hupto
  rw [slice?_between] at h
  cases h
  exact ⟨before, after, by simp, rfl, by simp⟩

end PayoffLexer.Text
