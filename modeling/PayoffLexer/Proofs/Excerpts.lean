import PayoffLexer.Proofs.Text.OneLine
import PayoffLexer.Report.Excerpt

/-!
# Excerpts that can be read back

Whatever columns an excerpt is to point at, its two lines have their bars in the same column, and
behind these the line and the carets keep to the columns of the line. So what is shown tells the
number of the line and the line.
-/

namespace PayoffLexer

open Unicode (isWhiteSpace)

namespace Excerpt

/-- The row has a gutter of this width with the content at its right end, a bar that is the first of
the row, and then what is shown. -/
def PartsAt (width : Nat) (content row shown : List Char) : Prop :=
  ∃ gutter, gutter = content.leftpad width ' ' ∧ gutter.length = width ∧ '|' ∉ gutter ∧
    row = gutter ++ [' ', '|', ' '] ++ shown

/-- The excerpt is shown on two lines that are parted in the same column. The padding is no longer
than the line, and the carets behind it are all that follows. -/
structure Aligned (excerpt : Excerpt) (above below padding : List Char) : Prop where
  lines : excerpt.format.toList.splitOn '\n' = [above, below]
  above : PartsAt (max 3 (toString excerpt.lineNumber).length)
    (toString excerpt.lineNumber).toList above excerpt.line.toList
  below : PartsAt (max 3 (toString excerpt.lineNumber).length) [] below
    (padding ++ List.replicate (max 1 (excerpt.endColumn - excerpt.startColumn)) '^')
  width : padding.length = min (excerpt.startColumn - 1) excerpt.line.length
  padding : ∀ i < padding.length, padding[i]? =
    excerpt.line.toList[i]?.map fun c => if isWhiteSpace c then c else ' '

def readBack (shown : String) : Nat × String :=
  let row := ((shown.toList.splitOn '\n').headD []).dropWhile (· == ' ')
  let behind := row.dropWhile Char.isDigit
  (Nat.ofDigitChars 10 (row.takeWhile Char.isDigit) 0, String.ofList (behind.drop 3))

variable (excerpt : Excerpt)

theorem toList_format : excerpt.format.toList =
    (excerpt.gutter excerpt.numberDigits ++ excerpt.line.toList) ++
      '\n' :: (excerpt.gutter [] ++ (excerpt.padding ++ excerpt.carets)) := by
  simp [format]

theorem toList_toString : (toString excerpt.lineNumber).toList = excerpt.numberDigits := by
  rw [Nat.toString_eq_ofList_toDigits, String.toList_ofList, numberDigits]

theorem gutterWidth_eq :
    excerpt.gutterWidth = max 3 (toString excerpt.lineNumber).length := by
  rw [gutterWidth, ← toList_toString, String.length_toList]

theorem numberDigits_isDigit : ∀ c ∈ excerpt.numberDigits, c.isDigit = true :=
  fun _ hc => Nat.isDigit_of_mem_toDigits (by decide) (by decide) hc

theorem notMem_numberDigits {c : Char} (h : c.isDigit = false) : c ∉ excerpt.numberDigits := by
  intro hc
  rw [excerpt.numberDigits_isDigit c hc] at h
  cases h

/-- Content that fits into the gutter does not move the bar. -/
theorem gutter_partsAt {content : List Char} (hfits : content.length ≤ excerpt.gutterWidth)
    (hbar : '|' ∉ content) (shown : List Char) :
    PartsAt excerpt.gutterWidth content (excerpt.gutter content ++ shown) shown := by
  refine ⟨content.leftpad excerpt.gutterWidth ' ', rfl, ?_, ?_, rfl⟩
  · rw [List.length_leftpad]
    exact Nat.max_eq_left hfits
  · simp [List.leftpad, hbar]

theorem newline_notMem_gutter {content : List Char} (h : '\n' ∉ content) :
    '\n' ∉ excerpt.gutter content := by
  simp [gutter, h]

/-- White space that is repeated from a line has no line feed, as the line has none. -/
theorem newline_notMem_repeated {line : String} (h : OneLine line) (n : Nat) :
    '\n' ∉ (line.toList.take n).map fun c => if isWhiteSpace c then c else ' ' := by
  rw [List.mem_map]
  rintro ⟨c, hc, hfeed⟩
  split at hfeed
  · subst hfeed
    exact h (List.mem_of_mem_take hc)
  · cases hfeed

theorem newline_notMem_carets : '\n' ∉ excerpt.carets := by
  simp [carets]

theorem splitOn_format (h : OneLine excerpt.line) : excerpt.format.toList.splitOn '\n' =
    [excerpt.gutter excerpt.numberDigits ++ excerpt.line.toList,
      excerpt.gutter [] ++ (excerpt.padding ++ excerpt.carets)] := by
  have hnumber := excerpt.newline_notMem_gutter (excerpt.notMem_numberDigits (by decide))
  have hblank := excerpt.newline_notMem_gutter List.not_mem_nil
  have hpadding : '\n' ∉ excerpt.padding := newline_notMem_repeated h _
  have habove : '\n' ∉ excerpt.gutter excerpt.numberDigits ++ excerpt.line.toList := by
    rw [List.mem_append, not_or]
    exact ⟨hnumber, h⟩
  have hbelow : '\n' ∉ excerpt.gutter [] ++ (excerpt.padding ++ excerpt.carets) := by
    simp [hblank, hpadding, excerpt.newline_notMem_carets]
  rw [toList_format, List.splitOn_append_cons_self_of_not_mem habove,
    List.splitOn_eq_singleton hbelow]

theorem aligned (h : OneLine excerpt.line) :
    excerpt.Aligned (excerpt.gutter excerpt.numberDigits ++ excerpt.line.toList)
      (excerpt.gutter [] ++ (excerpt.padding ++ excerpt.carets)) excerpt.padding := by
  have hwidth := excerpt.gutterWidth_eq
  constructor
  · exact excerpt.splitOn_format h
  · rw [← hwidth, toList_toString]
    exact excerpt.gutter_partsAt (Nat.le_max_right 3 _)
      (excerpt.notMem_numberDigits (by decide)) _
  · rw [← hwidth]
    exact excerpt.gutter_partsAt (Nat.zero_le _) List.not_mem_nil _
  · rw [padding, List.length_map, List.length_take, String.length_toList]
  · intro i hi
    rw [padding, List.length_map, List.length_take] at hi
    rw [padding, List.getElem?_map, List.getElem?_take_of_lt (by omega)]

theorem dropWhile_gutter (shown : List Char) :
    (excerpt.gutter excerpt.numberDigits ++ shown).dropWhile (· == ' ') =
      excerpt.numberDigits ++ ' ' :: '|' :: ' ' :: shown := by
  have hspaces : ∀ c ∈ List.replicate (excerpt.gutterWidth - excerpt.numberDigits.length) ' ',
      (c == ' ') = true := by
    intro c hc
    rw [List.eq_of_mem_replicate hc, beq_self_eq_true]
  rw [gutter, List.append_assoc, List.append_assoc, List.dropWhile_append_of_pos hspaces]
  have hdigits := excerpt.notMem_numberDigits (c := ' ') (by decide)
  cases hnumber : excerpt.numberDigits with
  | nil => exact absurd hnumber Nat.toDigits_ne_nil
  | cons d others =>
    rw [hnumber, List.mem_cons, not_or] at hdigits
    rw [List.cons_append, List.dropWhile_cons_of_neg (by simpa using Ne.symm hdigits.1)]
    rfl

theorem readBack_format (h : OneLine excerpt.line) :
    readBack excerpt.format = (excerpt.lineNumber, excerpt.line) := by
  have hdigits := excerpt.numberDigits_isDigit
  rw [readBack, excerpt.splitOn_format h, List.headD_cons, dropWhile_gutter,
    List.takeWhile_append_of_pos hdigits, List.dropWhile_append_of_pos hdigits,
    List.takeWhile_cons_of_neg (by decide), List.dropWhile_cons_of_neg (by decide),
    List.append_nil, numberDigits, Nat.ofDigitChars_ten_toDigits]
  simp

/-- An excerpt of a single line keeps to its columns whatever they are, and shows its number and its
line as no excerpt of another line does. -/
theorem format_aligned (h : OneLine excerpt.line) :
    (∃ above below padding, excerpt.Aligned above below padding) ∧
      readBack excerpt.format = (excerpt.lineNumber, excerpt.line) ∧
      ∀ other : Excerpt, OneLine other.line → other.format = excerpt.format →
        other.lineNumber = excerpt.lineNumber ∧ other.line = excerpt.line := by
  have hread := excerpt.readBack_format h
  refine ⟨⟨_, _, _, excerpt.aligned h⟩, hread, ?_⟩
  intro other hother hformat
  have hsame := other.readBack_format hother
  rw [hformat, hread] at hsame
  exact ⟨(congrArg Prod.fst hsame).symm, (congrArg Prod.snd hsame).symm⟩

/-- The carets of this excerpt are to end before they begin, and both behind the end of the line. -/
theorem format_aligned_reversed :
    (∃ above below padding, Aligned ⟨"\té\u2028x", 1234, 9, 6⟩ above below padding) ∧
      readBack (format ⟨"\té\u2028x", 1234, 9, 6⟩) = (1234, "\té\u2028x") := by
  have haligned := format_aligned ⟨"\té\u2028x", 1234, 9, 6⟩ (by decide)
  exact ⟨haligned.1, haligned.2.1⟩

example : format ⟨"\té\u2028x", 1234, 9, 6⟩ = "1234 | \té\u2028x\n     | \t \u2028 ^" := by
  decide +kernel

end Excerpt

end PayoffLexer
