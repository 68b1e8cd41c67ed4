import PayoffLexer.Proofs.Toml.Strings
import PayoffLexer.Toml.Document

/-!
# Documents that are read

The reader finds the entries of every document of the grammar. It may spend one step on each item
and on each line, which is less than a document has characters.
-/

namespace PayoffLexer.Toml

section items
variable {filler written text rest : List Char} {item : String}

theorem skipFiller_append (h : IsFiller filler) (text : List Char) :
    skipFiller false (filler ++ text) = skipFiller false text := by
  induction filler with
  | nil => rfl
  | cons c filler ih =>
    rw [IsFiller, List.forall_mem_cons] at h
    have hothers := ih h.2
    have hc : c = ' ' ∨ c = '\t' ∨ c = '\n' := by simpa [isBlank, or_assoc] using h.1
    rcases hc with rfl | rfl | rfl <;> exact hothers

theorem AllBlank.isFiller (h : AllBlank filler) : IsFiller filler := fun c hc => .inl (h c hc)

theorem IsFiller.unquoted (h : IsFiller filler) (htext : Unquoted text) :
    Unquoted (filler ++ text) := by
  cases filler with
  | nil => exact htext
  | cons c filler =>
    have hc := h c List.mem_cons_self
    constructor <;>
      · intro hhead
        obtain rfl := Option.some.inj hhead
        exact absurd hc (by decide)

theorem unquoted_cons {c : Char} (h : c ≠ '"' ∧ c ≠ '\'') (text : List Char) :
    Unquoted (c :: text) := by
  simpa [Unquoted] using h

theorem unquoted_bracket (text : List Char) : Unquoted (']' :: text) :=
  unquoted_cons (by decide) text

theorem unquoted_comma (text : List Char) : Unquoted (',' :: text) :=
  unquoted_cons (by decide) text

theorem Quoted.exists_cons (h : Quoted text written) :
    ∃ quote others, written = quote :: others ∧ (quote = '"' ∨ quote = '\'') := by
  cases h with
  | basic => exact ⟨'"', _, rfl, .inl rfl⟩
  | basicLines => exact ⟨'"', _, rfl, .inl rfl⟩
  | literal => exact ⟨'\'', _, rfl, .inr rfl⟩
  | literalLines => exact ⟨'\'', _, rfl, .inr rfl⟩

theorem Quoted.readValue (h : Quoted item.toList written) (hrest : Unquoted rest) (depth : Nat) :
    readValue depth (written ++ rest) = some (.string item, rest) := by
  have hread := h.read hrest
  obtain ⟨quote, others, rfl, hquote⟩ := h.exists_cons
  rw [List.cons_append] at hread ⊢
  rcases hquote with rfl | rfl <;> simp [Toml.readValue, readScalar, hread]

/-- An item that is a string, and how the array goes on. -/
theorem Quoted.readItems {before after : List Char} (h : Quoted item.toList written)
    (hbefore : IsFiller before) (hafter : IsFiller after) (hrest : Unquoted rest)
    (depth fuel : Nat) :
    readItems (Toml.readValue depth) (fuel + 1) (before ++ (written ++ (after ++ rest))) =
      match skipFiller false rest with
      | ']' :: rest => some ([.string item], rest)
      | ',' :: rest =>
        (Toml.readItems (Toml.readValue depth) fuel rest).map fun (values, rest) =>
          (.string item :: values, rest)
      | _ => none := by
  have hread := h.readValue (hafter.unquoted hrest) depth
  obtain ⟨quote, others, rfl, hquote⟩ := h.exists_cons
  rw [List.cons_append] at hread ⊢
  have hfiller : skipFiller false (quote :: (others ++ (after ++ rest))) =
      quote :: (others ++ (after ++ rest)) := by
    rcases hquote with rfl | rfl <;> rfl
  have hbracket : quote ≠ ']' := by rcases hquote with rfl | rfl <;> decide
  rw [Toml.readItems, skipFiller_append hbefore, hfiller]
  split
  · next h => exact absurd (List.cons.inj h).1 hbracket
  · have hgo := skipFiller_append hafter rest
    rw [hread]
    exact hgo ▸ rfl

theorem Items.read {items : List String} (h : Items items written) {fuel : Nat}
    (hfuel : items.length < fuel) (depth : Nat) (rest : List Char) :
    readItems (readValue depth) fuel (written ++ ']' :: rest) =
      some (items.map .string, rest) := by
  induction h generalizing fuel with
  | nil hfiller =>
    obtain ⟨fuel, rfl⟩ := Nat.exists_eq_add_one_of_ne_zero (Nat.ne_zero_of_lt hfuel)
    rw [readItems, skipFiller_append hfiller]
    rfl
  | last hbefore hitem hafter =>
    obtain ⟨fuel, rfl⟩ := Nat.exists_eq_add_one_of_ne_zero (Nat.ne_zero_of_lt hfuel)
    rw [List.append_assoc, List.append_assoc,
      hitem.readItems hbefore hafter (unquoted_bracket rest)]
    rfl
  | @cons item items _ _ _ others hbefore hitem hafter _ ih =>
    obtain ⟨fuel, rfl⟩ := Nat.exists_eq_add_one_of_ne_zero (Nat.ne_zero_of_lt hfuel)
    rw [List.length_cons, Nat.add_lt_add_iff_right] at hfuel
    rw [List.append_assoc, List.append_assoc, List.append_assoc, List.cons_append,
      hitem.readItems hbefore hafter (unquoted_comma _)]
    have hcomma : skipFiller false (',' :: (others ++ ']' :: rest)) =
        ',' :: (others ++ ']' :: rest) := rfl
    simp only [hcomma, ih hfuel]
    rfl

theorem Items.length_le {items : List String} (h : Items items written) :
    items.length ≤ written.length := by
  induction h with
  | nil => exact Nat.zero_le _
  | last _ hitem =>
    obtain ⟨quote, others, rfl, -⟩ := hitem.exists_cons
    simp only [List.length_append, List.length_cons, List.length_nil]
    omega
  | cons _ _ _ _ ih =>
    simp only [List.length_append, List.length_cons]
    omega

end items

section values
variable {value : Value} {written rest : List Char}

theorem Denotes.readValue (h : Denotes value written) (hrest : Unquoted rest) {depth : Nat}
    (hdepth : depth ≠ 0) : readValue depth (written ++ rest) = some (value, rest) := by
  cases h with
  | string h => exact h.readValue hrest depth
  | boolean value =>
    have htext : toString value = if value then "true" else "false" := by cases value <;> rfl
    rw [htext]
    cases value <;> simp [Toml.readValue, readScalar, readBoolean]
  | @array items written h =>
    obtain ⟨depth, rfl⟩ := Nat.exists_eq_add_one_of_ne_zero hdepth
    have hfuel : items.length < (written ++ ']' :: rest).length := by
      have hitems := h.length_le
      rw [List.length_append, List.length_cons]
      omega
    rw [List.cons_append, List.append_assoc, List.singleton_append, Toml.readValue]
    simp only [h.read hfuel]
    rfl

theorem skipBlank_append {blanks : List Char} (h : AllBlank blanks) (text : List Char) :
    skipBlank (blanks ++ text) = skipBlank text :=
  List.dropWhile_append_of_pos h

theorem Denotes.skipBlank (h : Denotes value written) (rest : List Char) :
    skipBlank (written ++ rest) = written ++ rest := by
  cases h with
  | string h =>
    obtain ⟨quote, others, rfl, hquote⟩ := h.exists_cons
    rcases hquote with rfl | rfl <;> rfl
  | boolean value => cases value <;> rfl
  | array => rfl

end values

section keys
variable {c : Char} {key : String} {before rest : List Char}

theorem IsBare.exists_cons (h : IsBare key) :
    ∃ c others, key.toList = c :: others ∧ isBareKeyChar c = true := by
  obtain ⟨hne, hbare⟩ := h
  cases hkey : key.toList with
  | nil => exact absurd hkey hne
  | cons c others => exact ⟨c, others, rfl, hbare c (by simp [hkey])⟩

theorem ne_of_isBareKeyChar (h : isBareKeyChar c = true) {d : Char}
    (hd : isBareKeyChar d = false) : c ≠ d := by
  rintro rfl
  exact absurd h (Bool.eq_false_iff.mp hd)

theorem skipBlank_bare (h : isBareKeyChar c = true) (text : List Char) :
    skipBlank (c :: text) = c :: text := by
  have hne {d : Char} : isBareKeyChar d = false → c ≠ d := ne_of_isBareKeyChar h
  have hblank : isBlank c = false := by simp [isBlank, hne (d := ' ') rfl, hne (d := '\t') rfl]
  rw [skipBlank, List.dropWhile_cons_of_neg (Bool.eq_false_iff.mp hblank)]

theorem readStatement_bare (h : isBareKeyChar c = true) (draft : Draft) (text : List Char) :
    readStatement draft (c :: text) = readAssignment draft (c :: text) := by
  have hne {d : Char} : isBareKeyChar d = false → c ≠ d := ne_of_isBareKeyChar h
  rw [readStatement] <;>
    simp [hne (d := '[') rfl, hne (d := '#') rfl, hne (d := '\n') rfl, hne (d := '\r') rfl]

theorem readKeyPart_bare (hkey : IsBare key)
    (hrest : ∀ c, rest.head? = some c → isBareKeyChar c = false) :
    readKeyPart (key.toList ++ rest) = some (key, rest) := by
  have hstop : rest.takeWhile isBareKeyChar = [] ∧ rest.dropWhile isBareKeyChar = rest := by
    cases rest with
    | nil => exact ⟨rfl, rfl⟩
    | cons c rest => simp [hrest c rfl]
  have hspan : (key.toList ++ rest).span isBareKeyChar = (key.toList, rest) := by
    rw [List.span_eq_takeWhile_dropWhile, List.takeWhile_append_of_pos hkey.2,
      List.dropWhile_append_of_pos hkey.2, hstop.1, hstop.2, List.append_nil]
  obtain ⟨c, others, hcons, hc⟩ := hkey.exists_cons
  have hne {d : Char} : isBareKeyChar d = false → c ≠ d := ne_of_isBareKeyChar hc
  rw [hcons, List.cons_append] at hspan ⊢
  rw [readKeyPart]
  · rw [hspan]
    simp [← hcons]
  all_goals simp [hne (d := '"') rfl, hne (d := '\'') rfl]

/-- A key ends at the white space before the equals sign, or at the sign itself. -/
theorem readKey_bare (hkey : IsBare key) (hbefore : AllBlank before) {parts : Nat}
    (hparts : parts ≠ 0) (rest : List Char) :
    readKey parts (key.toList ++ (before ++ '=' :: rest)) = some (([], key), '=' :: rest) := by
  obtain ⟨parts, rfl⟩ := Nat.exists_eq_add_one_of_ne_zero hparts
  have hstop : ∀ c, (before ++ '=' :: rest).head? = some c → isBareKeyChar c = false := by
    intro c hhead
    cases before with
    | nil =>
      obtain rfl := Option.some.inj hhead
      decide
    | cons d before =>
      obtain rfl := Option.some.inj hhead
      have hd : d = ' ' ∨ d = '\t' := by simpa [isBlank] using hbefore d List.mem_cons_self
      rcases hd with rfl | rfl <;> decide
  have hpart := readKeyPart_bare hkey hstop
  obtain ⟨c, others, hcons, hc⟩ := hkey.exists_cons
  rw [hcons, List.cons_append] at hpart ⊢
  rw [readKey, skipBlank_bare hc, hpart, Option.bind_some]
  simp only [skipBlank_append hbefore]
  rfl

end keys

section lines
variable {key : String} {value : Value} {line text : List Char} {entries : Entries}

theorem maxDepth_ne_zero : maxDepth ≠ 0 := by decide

theorem readPair_bare {before after written rest : List Char} (hkey : IsBare key)
    (hbefore : AllBlank before) (hafter : AllBlank after) (hvalue : Denotes value written)
    (hrest : Unquoted rest) :
    readPair (readValue maxDepth)
        (key.toList ++ (before ++ '=' :: (after ++ (written ++ rest)))) =
      some (([], key, value), rest) := by
  rw [readPair, readKey_bare hkey hbefore maxDepth_ne_zero]
  simp only [Option.bind_some, skipBlank_append hafter, hvalue.skipBlank,
    hvalue.readValue hrest maxDepth_ne_zero]
  rfl

/-- A line adds its entry, unless the key is taken. -/
theorem Entry.readLines (h : Entry key value line) (fuel : Nat) (entries : Entries)
    (rest : List Char) :
    readLines (fuel + 1) ⟨entries, []⟩ (line ++ '\n' :: rest) =
      (entries.add? key value).bind fun entries => Toml.readLines fuel ⟨entries, []⟩ rest := by
  obtain @⟨_, _, _, _, trail, hindent, hkey, hbefore, hafter, hvalue, htrail⟩ := h
  have hrest : Unquoted (trail ++ '\n' :: rest) :=
    htrail.isFiller.unquoted (unquoted_cons (by decide) rest)
  have hpair := readPair_bare hkey hbefore hafter hvalue hrest
  have hend : endLine? (trail ++ '\n' :: rest) = some rest := by
    rw [endLine?, skipBlank_append htrail]
    rfl
  obtain ⟨c, others, hcons, hc⟩ := hkey.exists_cons
  simp only [hcons, List.cons_append, List.append_assoc] at hpair ⊢
  rw [Toml.readLines, skipBlank_append hindent, skipBlank_bare hc, readStatement_bare hc,
    readAssignment, hpair]
  · simp only [Option.bind_some, Draft.addPair?, Entries.alter?, Entries.addDotted?]
    cases entries.add? key value with
    | none => rfl
    | some entries => simp only [Option.map_some, Option.bind_some, hend]
  · simp

theorem Entries.add?_of_notMem (h : key ∉ entries.map Prod.fst) (value : Value) :
    entries.add? key value = some (entries ++ [(key, value)]) := by
  have hlookup : entries.lookup key = none := by
    refine List.lookup_eq_none_iff.mpr fun entry hentry => ?_
    simp only [bne_iff_ne]
    rintro rfl
    exact h (List.mem_map_of_mem hentry)
  rw [add?, hlookup]

theorem Lines.read (h : Lines entries text) {before : Entries} {fuel : Nat}
    (hfuel : entries.length ≤ fuel) (hkeys : ((before ++ entries).map Prod.fst).Nodup) :
    readLines fuel ⟨before, []⟩ text = some ⟨before ++ entries, []⟩ := by
  induction h generalizing fuel before with
  | nil => rw [readLines, List.append_nil]
  | @cons key value entries line others hline _ ih =>
    obtain ⟨fuel, rfl⟩ := Nat.exists_eq_add_one_of_ne_zero (Nat.ne_zero_of_lt hfuel)
    rw [List.append_cons before] at hkeys ⊢
    have hnew : key ∉ before.map Prod.fst := by
      rw [List.map_append, List.map_append] at hkeys
      obtain ⟨-, -, hdisjoint⟩ := List.nodup_append.mp (List.nodup_append.mp hkeys).1
      exact fun hmem => hdisjoint _ hmem _ (List.mem_singleton_self key) rfl
    rw [hline.readLines, Entries.add?_of_notMem hnew, Option.bind_some]
    exact ih (Nat.le_of_succ_le_succ hfuel) hkeys

theorem Lines.length_le (h : Lines entries text) : entries.length ≤ text.length := by
  induction h with
  | nil => exact Nat.le_refl 0
  | cons _ _ ih =>
    simp only [List.length_append, List.length_cons]
    omega

theorem Entry.skipMark (h : Entry key value line) (rest : List Char) :
    skipMark (line ++ rest) = line ++ rest := by
  have hmark : (line ++ rest).head? ≠ some '\ufeff' := by
    obtain @⟨indent, _, _, _, _, hindent, hkey, _, _, _, _⟩ := h
    cases indent with
    | nil =>
      obtain ⟨c, others, hcons, hc⟩ := hkey.exists_cons
      simpa [hcons] using ne_of_isBareKeyChar hc (d := '\ufeff') rfl
    | cons d indent =>
      have hd : d = ' ' ∨ d = '\t' := by simpa [isBlank] using hindent d List.mem_cons_self
      rcases hd with rfl | rfl <;> simp
  rw [Toml.skipMark]
  intro others hothers
  rw [hothers] at hmark
  exact hmark rfl

theorem Document.read {content : String} (h : Document entries content) :
    read? content = some entries := by
  obtain ⟨hlines, hkeys⟩ := h
  rw [read?]
  generalize content.toList = text at hlines
  have hmark : skipMark text = text := by
    cases hlines with
    | nil => rfl
    | cons hline => exact hline.skipMark _
  have hread : readLines text.length ⟨[], []⟩ text = some ⟨[] ++ entries, []⟩ :=
    hlines.read hlines.length_le hkeys
  simp only [hmark, hread]
  rfl

end lines

end PayoffLexer.Toml
