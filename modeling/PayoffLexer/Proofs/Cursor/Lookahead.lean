import PayoffLexer.Cursor.Lookahead
import PayoffLexer.Proofs.Cursor.Between

/-!
# Looking ahead over the list of characters

Both ways to read the character some characters ahead give the one at that index of the list ahead.
The look at the bytes answers only where every character on the way is a single byte below `0x80`,
and no byte of a longer character is.
-/

namespace PayoffLexer.Cursor

open String (utf8Len)

/-- The first byte of a character is below `0x80` only for ASCII, and is the character then. -/
theorem firstByte_ascii (c : Char) (h : 0 < (String.utf8EncodeChar c).length)
    (hbyte : (String.utf8EncodeChar c)[0] < 0x80) :
    c.utf8Size = 1 ∧ Char.ofUInt8 (String.utf8EncodeChar c)[0] = c := by
  have large (x y : UInt8) (hy : 128 ≤ y.toNat) : ¬ x ||| y < 0x80 := by
    rw [UInt8.lt_iff_toNat_lt, UInt8.toNat_or]
    have hor : y.toNat ≤ x.toNat ||| y.toNat := Nat.right_le_or
    change ¬ _ < 128
    omega
  rcases Char.utf8Size_eq c with hsize | hsize | hsize | hsize
  · refine ⟨hsize, ?_⟩
    simp only [String.utf8EncodeChar_eq_singleton hsize, List.getElem_cons_zero]
    have hval := UInt32.le_iff_toNat_le.mp (Char.utf8Size_eq_one_iff.mp hsize)
    have hsmall : c.val.toNat ≤ 127 := hval
    apply Char.ext
    apply UInt32.toNat_inj.mp
    change c.val.toUInt8.toUInt32.toNat = c.val.toNat
    rw [UInt8.toNat_toUInt32, UInt32.toNat_toUInt8]
    omega
  · simp only [String.utf8EncodeChar_eq_cons_cons hsize, List.getElem_cons_zero] at hbyte
    exact absurd hbyte (large _ _ (by decide))
  · simp only [String.utf8EncodeChar_eq_cons_cons_cons hsize, List.getElem_cons_zero] at hbyte
    exact absurd hbyte (large _ _ (by decide))
  · simp only [String.utf8EncodeChar_eq_cons_cons_cons_cons hsize, List.getElem_cons_zero] at hbyte
    exact absurd hbyte (large _ _ (by decide))

theorem getUTF8Byte_after (passed ahead : List Char) (c : Char)
    (h : utf8Len passed < (String.ofList (passed ++ c :: ahead)).utf8ByteSize)
    (hfirst : 0 < (String.utf8EncodeChar c).length) :
    (String.ofList (passed ++ c :: ahead)).getUTF8Byte ⟨utf8Len passed⟩ h =
      (String.utf8EncodeChar c)[0] := by
  have hsize : passed.utf8Encode.size = utf8Len passed := by
    rw [← String.toByteArray_ofList, String.size_toByteArray, String.utf8ByteSize_ofList]
  have hbytes : (String.ofList (passed ++ c :: ahead)).toByteArray =
      passed.utf8Encode ++ ((String.utf8EncodeChar c).toByteArray ++ ahead.utf8Encode) := by
    rw [String.toByteArray_ofList, List.utf8Encode_append, List.utf8Encode_cons,
      List.utf8Encode_singleton]
  rw [String.getUTF8Byte]
  simp only [hbytes]
  rw [ByteArray.getElem_append_right (by rw [hsize])]
  simp only [hsize, Nat.sub_self]
  rw [ByteArray.getElem_append_left (by simpa using hfirst), List.getElem_toByteArray]

/-- A character is one byte and this is ASCII, or its first byte is not ASCII. -/
theorem utf8EncodeChar_cases (c : Char) :
    (∃ byte, String.utf8EncodeChar c = [byte] ∧ byte < 0x80 ∧ Char.ofUInt8 byte = c ∧
      c.utf8Size = 1) ∨
      ∃ byte others, String.utf8EncodeChar c = byte :: others ∧ ¬ byte < 0x80 := by
  have hlength := String.length_utf8EncodeChar c
  have hascii := firstByte_ascii c
  cases hbytes : String.utf8EncodeChar c with
  | nil => exact absurd hbytes String.utf8EncodeChar_ne_nil
  | cons byte others =>
    simp only [hbytes, List.length_cons, List.getElem_cons_zero] at hlength hascii
    by_cases hbyte : byte < 0x80
    · obtain ⟨hsize, hchar⟩ := hascii (Nat.succ_pos _) hbyte
      have hothers : others = [] := List.eq_nil_of_length_eq_zero (by omega)
      exact .inl ⟨byte, by rw [hothers], hbyte, hchar, hsize⟩
    · exact .inr ⟨byte, others, rfl, hbyte⟩

theorem asciiAt?_nil (passed : List Char) :
    asciiAt? (String.ofList (passed ++ [])) (utf8Len passed) = none := by
  rw [asciiAt?, dif_neg (by simp [String.utf8ByteSize_ofList])]

theorem asciiAt?_cons {c : Char} {byte : UInt8} {others : List UInt8}
    (h : String.utf8EncodeChar c = byte :: others) (passed ahead : List Char) :
    asciiAt? (String.ofList (passed ++ c :: ahead)) (utf8Len passed) =
      if byte < 0x80 then some (Char.ofUInt8 byte) else none := by
  have hroom : utf8Len passed < (String.ofList (passed ++ c :: ahead)).utf8ByteSize := by
    have hc := Char.utf8Size_pos c
    rw [String.utf8ByteSize_ofList, String.utf8Len_append, String.utf8Len_cons]
    omega
  rw [asciiAt?, dif_pos hroom, getUTF8Byte_after passed ahead c hroom (by simp [h])]
  simp only [h, List.getElem_cons_zero]

theorem asciiAt?_some {passed ahead : List Char} {ch : Char}
    (h : asciiAt? (String.ofList (passed ++ ahead)) (utf8Len passed) = some ch) :
    ahead.head? = some ch ∧ ch.utf8Size = 1 := by
  cases ahead with
  | nil =>
    rw [asciiAt?_nil] at h
    cases h
  | cons c ahead =>
    rcases utf8EncodeChar_cases c with hsingle | hlonger
    · obtain ⟨byte, hbytes, hbyte, hchar, hsize⟩ := hsingle
      rw [asciiAt?_cons hbytes, if_pos hbyte, hchar, Option.some.injEq] at h
      subst h
      exact ⟨rfl, hsize⟩
    · obtain ⟨byte, others, hbytes, hbyte⟩ := hlonger
      rw [asciiAt?_cons hbytes, if_neg hbyte] at h
      cases h

theorem asciiAhead?_some {passed ahead : List Char} {n : Nat} {ch : Char}
    (h : asciiAhead? (String.ofList (passed ++ ahead)) (utf8Len passed) n = some ch) :
    ahead[n]? = some ch := by
  induction n generalizing passed ahead with
  | zero => exact List.head?_eq_getElem? ▸ (asciiAt?_some h).1
  | succ n ih =>
    rw [asciiAhead?] at h
    split at h
    · next hfirst =>
      obtain ⟨d, hd⟩ := Option.isSome_iff_exists.mp hfirst
      obtain ⟨hhead, hsize⟩ := asciiAt?_some hd
      obtain ⟨ahead, rfl⟩ := List.head?_eq_some_iff.mp hhead
      have hlen : utf8Len passed + 1 = utf8Len (passed ++ [d]) := by simp [hsize]
      rw [List.append_cons, hlen] at h
      simpa using ih h
    · cases h

theorem walkAhead?_between (passed ahead : List Char) (n : Nat) :
    (between passed ahead).walkAhead? n = ahead[n]? := by
  induction n generalizing passed ahead with
  | zero => rw [walkAhead?, current?_between, List.head?_eq_getElem?]
  | succ n ih =>
    cases ahead with
    | nil => simp [walkAhead?]
    | cons c ahead => simp [walkAhead?, ih]

/-- Looking ahead reads the list of characters ahead, and the end mark past its end. -/
@[simp] theorem peek_between (passed ahead : List Char) (n : Nat) :
    (between passed ahead).peek n = ahead[n]?.getD endMark := by
  rw [peek, between_source, between_position, walkAhead?_between]
  split
  · next ch h => rw [asciiAhead?_some h, Option.getD_some]
  · rfl

@[simp] theorem current_between (passed ahead : List Char) :
    (between passed ahead).current = ahead.head?.getD endMark := by
  rw [current, peek_between, List.head?_eq_getElem?]

end PayoffLexer.Cursor
