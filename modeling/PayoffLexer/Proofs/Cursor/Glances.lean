import PayoffLexer.Proofs.Cursor.Lookahead
import PayoffLexer.Proofs.Cursor.Moves

/-!
# A look at the bytes ahead

Over ASCII a look ahead is one test of the bytes up to some offset and one index. A byte and its
character have the same number as long as each character before them is a single byte, and no byte
of a longer character passes the test. So a look that passes it sees the character that a walk over
the characters finds, and a look that does not leaves the answer to the walk.
-/

namespace PayoffLexer

open String (utf8Len utf8EncodeChar)

namespace Text

def utf8 (text : String) : List UInt8 := text.toByteArray.data.toList

/-- There is a byte of this number, and it and all before it are ASCII. -/
def AsciiUpTo (bytes : List UInt8) (n : Nat) : Prop :=
  n < bytes.length ∧ ∀ byte ∈ bytes.take (n + 1), byte < 0x80

instance (bytes : List UInt8) (n : Nat) : Decidable (AsciiUpTo bytes n) :=
  inferInstanceAs (Decidable (_ ∧ _))

/-- How a look at some bytes ends. It goes astray if it needs a place that they do not have. -/
inductive Glance
  | character (ch : Char)
  | unanswered
  | astray
deriving DecidableEq

/-- The first bytes up to the one of this number and with it. There have to be so many of them, and
their count has to be a number, of which `largest` is the greatest. -/
def firstBytes? (largest : Nat) (bytes : List UInt8) (n : Nat) : Option (List UInt8) :=
  if n + 1 ≤ largest ∧ n + 1 ≤ bytes.length then some (bytes.take (n + 1)) else none

def glance (largest : Nat) (bytes : List UInt8) (n : Nat) : Glance :=
  if n < bytes.length then
    match firstBytes? largest bytes n with
    | none => .astray
    | some front =>
      if front.all fun byte => byte < 0x80 then
        match bytes[n]? with
        | none => .astray
        | some byte => .character (Char.ofUInt8 byte)
      else .unanswered
  else .unanswered

theorem utf8_nil : utf8 (String.ofList []) = [] := rfl

theorem utf8_cons (c : Char) (cs : List Char) :
    utf8 (String.ofList (c :: cs)) = utf8EncodeChar c ++ utf8 (String.ofList cs) := by
  rw [utf8, String.toByteArray_ofList, List.utf8Encode_cons, ByteArray.toList_data_append,
    List.utf8Encode_singleton, List.toList_data_toByteArray, utf8, String.toByteArray_ofList]

theorem length_utf8 (text : String) : (utf8 text).length = text.utf8ByteSize := by
  rw [utf8, Array.length_toList, ByteArray.size_data, String.size_toByteArray]

theorem not_asciiUpTo_nil (n : Nat) : ¬ AsciiUpTo [] n := fun h => absurd h.1 (Nat.not_lt_zero n)

theorem asciiUpTo_cons_zero (byte : UInt8) (bytes : List UInt8) :
    AsciiUpTo (byte :: bytes) 0 ↔ byte < 0x80 := by
  simp [AsciiUpTo]

theorem asciiUpTo_cons_succ (byte : UInt8) (bytes : List UInt8) (n : Nat) :
    AsciiUpTo (byte :: bytes) (n + 1) ↔ byte < 0x80 ∧ AsciiUpTo bytes n := by
  simp [AsciiUpTo, and_left_comm]

theorem AsciiUpTo.head {byte : UInt8} {bytes : List UInt8} {n : Nat}
    (h : AsciiUpTo (byte :: bytes) n) : byte < 0x80 := h.2 byte (by simp)

/-- Where the count of the bytes is a number a look does not go astray. It sees exactly a byte that
is ASCII with all before it. -/
theorem glance_spec {largest : Nat} {bytes : List UInt8} (h : bytes.length ≤ largest) (n : Nat) :
    glance largest bytes n ≠ .astray ∧ ∀ ch, glance largest bytes n = .character ch ↔
      AsciiUpTo bytes n ∧ bytes[n]?.map Char.ofUInt8 = some ch := by
  rw [glance]
  by_cases hn : n < bytes.length
  · have hfront : firstBytes? largest bytes n = some (bytes.take (n + 1)) := by
      rw [firstBytes?, if_pos (by omega)]
    have hascii : AsciiUpTo bytes n ↔
        ((bytes.take (n + 1)).all fun byte => byte < 0x80) = true := by
      rw [List.all_eq_true, AsciiUpTo, and_iff_right hn]
      simp only [decide_eq_true_eq]
    rw [if_pos hn, hfront, List.getElem?_eq_getElem hn, hascii]
    dsimp only
    split
    · next hfirst =>
      refine ⟨by simp, fun ch => ?_⟩
      rw [and_iff_right hfirst, Option.map_some]
      simp
    · next hfirst =>
      refine ⟨by simp, fun ch => ?_⟩
      simp only [hfirst, false_and, reduceCtorEq]
  · have hascii : ¬ AsciiUpTo bytes n := fun h => hn h.1
    simp [hn, hascii]

end Text

namespace Cursor

open Text (utf8 AsciiUpTo glance)

theorem asciiAhead?_eq_none {source : String} {place : Nat} (h : asciiAt? source place = none)
    (n : Nat) : asciiAhead? source place n = none := by
  cases n with
  | zero => rw [asciiAhead?, h]
  | succ n => simp [asciiAhead?, h]

/-- A cursor sees exactly the bytes that are ASCII with all before them, counted from the cursor. -/
theorem asciiAhead?_eq_some_iff (passed ahead : List Char) (n : Nat) (ch : Char) :
    asciiAhead? (String.ofList (passed ++ ahead)) (utf8Len passed) n = some ch ↔
      AsciiUpTo (utf8 (String.ofList ahead)) n ∧
        (utf8 (String.ofList ahead))[n]?.map Char.ofUInt8 = some ch := by
  induction ahead generalizing passed n with
  | nil =>
    rw [asciiAhead?_eq_none (asciiAt?_nil passed), Text.utf8_nil]
    simp [Text.not_asciiUpTo_nil]
  | cons c ahead ih =>
    rw [Text.utf8_cons]
    rcases utf8EncodeChar_cases c with hsingle | hlonger
    · obtain ⟨byte, hbytes, hbyte, -, hsize⟩ := hsingle
      have hat := asciiAt?_cons hbytes passed ahead
      rw [if_pos hbyte] at hat
      rw [hbytes, List.singleton_append]
      cases n with
      | zero =>
        rw [asciiAhead?, hat, Text.asciiUpTo_cons_zero, and_iff_right hbyte,
          List.getElem?_cons_zero, Option.map_some]
      | succ n =>
        have hplace : utf8Len passed + 1 = utf8Len (passed ++ [c]) := by simp [hsize]
        rw [asciiAhead?, hat, Option.isSome_some, if_pos rfl, hplace, List.append_cons, ih,
          Text.asciiUpTo_cons_succ, List.getElem?_cons_succ, and_iff_right hbyte]
    · obtain ⟨byte, others, hbytes, hbyte⟩ := hlonger
      have hat := asciiAt?_cons hbytes passed ahead
      rw [if_neg hbyte] at hat
      rw [asciiAhead?_eq_none hat, hbytes, List.cons_append]
      constructor
      · intro h
        cases h
      · rintro ⟨hascii, -⟩
        exact absurd hascii.head hbyte

/-- What the cursor says of the character `n` characters ahead, where `rest` is the text after it.
The look at the bytes answers where it can, the walk gives the same answer and gives it elsewhere
too. -/
structure Peeks (c : Cursor) (rest : String) (n : Nat) : Prop where
  remaining : c.remaining? = some rest
  inside : ∀ h : n < rest.toList.length, c.peek n = rest.toList[n]
  outside : rest.toList.length ≤ n → c.peek n = '\x00'
  walk : c.walkAhead? n = rest.toList[n]?
  ascii : AsciiUpTo (utf8 rest) n → ∃ byte, (utf8 rest)[n]? = some byte ∧
    rest.toList[n]? = some (Char.ofUInt8 byte) ∧
    asciiAhead? c.source c.position n = some (Char.ofUInt8 byte)
  other : ¬ AsciiUpTo (utf8 rest) n → asciiAhead? c.source c.position n = none ∧
    c.peek n = (c.walkAhead? n).getD endMark
  glance : ∀ largest, rest.utf8ByteSize ≤ largest →
    glance largest (utf8 rest) n ≠ .astray ∧ ∀ ch,
      glance largest (utf8 rest) n = .character ch ↔ asciiAhead? c.source c.position n = some ch

theorem between_peeks (passed ahead : List Char) (n : Nat) :
    (between passed ahead).Peeks (String.ofList ahead) n := by
  have hsees := asciiAhead?_eq_some_iff passed ahead n
  have hpeek := peek_between passed ahead n
  have hwalk := walkAhead?_between passed ahead n
  have hlist := String.toList_ofList (l := ahead)
  constructor
  · exact remaining?_between passed ahead
  · intro h
    simp only [hlist] at h ⊢
    rw [hpeek, List.getElem?_eq_getElem h, Option.getD_some]
  · intro h
    rw [hlist] at h
    rw [hpeek, List.getElem?_eq_none h, Option.getD_none, endMark]
  · rw [hlist, hwalk]
  · intro hascii
    have hbyte := List.getElem?_eq_getElem hascii.1
    have hfound := (hsees _).mpr ⟨hascii, by rw [hbyte, Option.map_some]⟩
    rw [between_source, between_position, hlist]
    exact ⟨_, hbyte, asciiAhead?_some hfound, hfound⟩
  · intro hascii
    rw [between_source, between_position, hpeek, hwalk]
    refine ⟨?_, rfl⟩
    rw [Option.eq_none_iff_forall_ne_some]
    exact fun ch hfound => hascii ((hsees ch).mp hfound).1
  · intro largest hroom
    rw [← Text.length_utf8] at hroom
    obtain ⟨hstays, hcharacter⟩ := Text.glance_spec hroom n
    rw [between_source, between_position]
    exact ⟨hstays, fun ch => (hcharacter ch).trans (hsees ch).symm⟩

/-- Whatever moves a cursor has made and however far it looks, it says which character stands there
in the text after it. -/
theorem moveAll_peeks (source : String) (moves : List Move) (n : Nat) :
    ∃ rest, ((atStart source).moveAll moves).Peeks rest n := by
  obtain ⟨passed, ahead, hcursor, -⟩ := (over_atStart source).moveAll moves
  exact ⟨_, hcursor ▸ between_peeks passed ahead n⟩

/-- The byte of this number belongs to the second character. -/
example : ¬ AsciiUpTo (utf8 "aβc") 2 ∧ (atStart "aβc").peek 2 = 'c' := by decide +kernel

end Cursor

end PayoffLexer
