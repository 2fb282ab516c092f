import ScatterPick.Proofs.Json.Layout

/-!
# Texts between quotes

A text is read from its characters between quotes, however they are spelled. Writing it picks one
of the spellings.
-/

namespace ScatterPick.Json

/-! ## Digits of base sixteen -/

theorem utf8Size_of_hexDigit? {d : Char} {n : Nat} (h : Text.hexDigit? d = some n) :
    d.utf8Size = 1 := by
  have hascii : d.toNat ≤ 0x7f := by
    simp only [Text.hexDigit?] at h
    split at h
    next hdigit =>
      have hrange : (decide ('0' ≤ d) && decide (d ≤ '9')) = true := hdigit
      simp only [Bool.and_eq_true, decide_eq_true_eq] at hrange
      exact Nat.le_trans hrange.2 (by decide)
    next =>
      split at h
      next hlower => exact Nat.le_trans hlower.2 (by decide)
      next =>
        split at h
        next hupper => exact Nat.le_trans hupper.2 (by decide)
        next => cases h
  exact if_pos hascii

/-- Every character of a number in base sixteen is one byte. -/
theorem utf8Size_of_hexValue? {ds : List Char} {n : Nat} (h : Text.hexValue? ds = some n) :
    ∀ d ∈ ds, d.utf8Size = 1 := by
  have hnone (ds : List Char) :
      ds.foldl (fun n c => n.bind fun n => (Text.hexDigit? c).map (16 * n + ·)) none = none := by
    induction ds with
    | nil => rfl
    | cons d ds ih => exact ih
  have hfold (ds : List Char) (start : Nat) {n : Nat}
      (h : ds.foldl (fun n c => n.bind fun n => (Text.hexDigit? c).map (16 * n + ·)) (some start) =
        some n) : ∀ d ∈ ds, d.utf8Size = 1 := by
    induction ds generalizing start with
    | nil => simp
    | cons d ds ih =>
      rw [List.foldl_cons, Option.bind_some] at h
      cases hd : Text.hexDigit? d with
      | none =>
        rw [hd, Option.map_none, hnone] at h
        cases h
      | some v =>
        rw [hd, Option.map_some] at h
        exact List.forall_mem_cons.mpr ⟨utf8Size_of_hexDigit? hd, ih _ h⟩
  exact hfold ds 0 h

/-- Characters of one byte each are as many bytes. -/
theorem skipBytes_append {ds : List Char} (hsize : ∀ d ∈ ds, d.utf8Size = 1) (rest : List Char)
    (p : Place) : ∃ p', p.skipBytes ds.length (ds ++ rest) = some p' := by
  induction ds generalizing p with
  | nil => exact ⟨p, by simp [Place.skipBytes]⟩
  | cons d ds ih =>
    have hone : d.utf8Size = 1 := hsize d (by simp)
    obtain ⟨p', h⟩ := ih (fun d hd => hsize d (by simp [hd])) (p.after d)
    refine ⟨p', ?_⟩
    rw [List.length_cons, List.cons_append, Place.skipBytes, hone, if_neg (by omega)]
    exact h

/-- Four digits are read as the number that they stand for. -/
theorem readHex_append {ds : List Char} {n : Nat} (hlength : ds.length = 4)
    (hvalue : Text.hexValue? ds = some n) (rest : List Char) (p : Place) :
    ∃ p', readHex ⟨ds ++ rest, p⟩ = .ok (n, ⟨rest, p'⟩) := by
  obtain ⟨p', hskip⟩ := skipBytes_append (utf8Size_of_hexValue? hvalue) rest p
  rw [hlength] at hskip
  have htake : (ds ++ rest).take 4 = ds := List.take_left' hlength
  have hdrop : (ds ++ rest).drop 4 = rest := List.drop_left' hlength
  refine ⟨p.atEnd ds, ?_⟩
  simp only [readHex, hskip, htake, hvalue, Cursor.skip, hdrop]

/-! ## Escapes -/

/-- The number of a character is none of a surrogate. -/
theorem toNat_lt_or_lt (a : Char) : a.toNat < 0xD800 ∨ 0xDFFF < a.toNat :=
  a.valid.imp id And.left

/-- A character of the basic plane is read from its four digits. -/
theorem readUnicode_code {a : Char} {ds : List Char} (hlength : ds.length = 4)
    (hvalue : Text.hexValue? ds = some a.toNat) (rest : List Char) (p : Place) :
    ∃ p', readUnicode ⟨ds ++ rest, p⟩ = .ok (a, ⟨rest, p'⟩) := by
  obtain ⟨p', hhex⟩ := readHex_append hlength hvalue rest p
  have hvalid := toNat_lt_or_lt a
  have htrail : ¬ (decide (0xDC00 ≤ a.toNat) && decide (a.toNat ≤ 0xDFFF)) = true := by
    simp only [Bool.and_eq_true, decide_eq_true_eq]
    omega
  have hlead : ¬ (decide (0xD800 ≤ a.toNat) && decide (a.toNat ≤ 0xDBFF)) = true := by
    simp only [Bool.and_eq_true, decide_eq_true_eq]
    omega
  refine ⟨p', ?_⟩
  rw [readUnicode, hhex]
  simp only [bind, Except.bind, if_neg htrail, if_neg hlead, Char.ofNat_toNat]

/-- A character outside the basic plane is read from the digits of its surrogates. -/
theorem readUnicode_pair {a : Char} {high low : Nat} {ds es : List Char} (hds : ds.length = 4)
    (hhigh : Text.hexValue? ds = some high) (hleast : 0xD800 ≤ high) (hmost : high ≤ 0xDBFF)
    (hes : es.length = 4) (hlow : Text.hexValue? es = some low) (hleast' : 0xDC00 ≤ low)
    (hmost' : low ≤ 0xDFFF)
    (ha : a.toNat = 0x10000 + (high - 0xD800) * 0x400 + (low - 0xDC00)) (rest : List Char)
    (p : Place) :
    ∃ p', readUnicode ⟨ds ++ '\\' :: 'u' :: (es ++ rest), p⟩ = .ok (a, ⟨rest, p'⟩) := by
  obtain ⟨p₁, hfirst⟩ := readHex_append hds hhigh ('\\' :: 'u' :: (es ++ rest)) p
  obtain ⟨p₂, hsecond⟩ := readHex_append hes hlow rest (p₁.atEnd ['\\', 'u'])
  have htrail : ¬ (decide (0xDC00 ≤ high) && decide (high ≤ 0xDFFF)) = true := by
    simp only [Bool.and_eq_true, decide_eq_true_eq]
    omega
  have hlead : (decide (0xD800 ≤ high) && decide (high ≤ 0xDBFF)) = true := by
    simp only [Bool.and_eq_true, decide_eq_true_eq]
    omega
  have hrange : ¬ (decide (low < 0xDC00) || decide (0xDFFF < low)) = true := by
    simp only [Bool.or_eq_true, decide_eq_true_eq]
    omega
  have hskip : Cursor.skip ⟨'\\' :: 'u' :: (es ++ rest), p₁⟩ 2 =
      ⟨es ++ rest, p₁.atEnd ['\\', 'u']⟩ := rfl
  refine ⟨p₂, ?_⟩
  rw [readUnicode, hfirst]
  simp only [bind, Except.bind, if_neg htrail, if_pos hlead, readLowSurrogate, hskip, hsecond,
    if_neg hrange, ← ha, Char.ofNat_toNat]

/-- A letter is read as what it is the escape of. -/
theorem readEscape_letter {letter a : Char} (h : letterEscape? letter = some a) (rest : List Char)
    (p : Place) : readEscape ⟨letter :: rest, p⟩ = .ok (a, ⟨rest, p.after letter⟩) := by
  rw [readEscape]
  split
  next hrest => cases hrest
  next hrest =>
    obtain ⟨rfl, -⟩ := List.cons.inj hrest
    cases h
  next hrest =>
    obtain ⟨rfl, -⟩ := List.cons.inj hrest
    rw [h]
    rfl

/-! ## Texts -/

/-- One character is read from each of its spellings. -/
theorem readChars_spelled {a : Char} {cs : List Char} (h : SpellsChar a cs) (read : List Char)
    (fuel : Nat) (rest : List Char) (p : Place) :
    ∃ p', readChars read (fuel + 1) ⟨cs ++ rest, p⟩ =
      readChars (a :: read) fuel ⟨rest, p'⟩ := by
  have hescaped {ds : List Char} {p' : Place}
      (h : readEscape ⟨ds, p.after '\\'⟩ = .ok (a, ⟨rest, p'⟩)) :
      readChars read (fuel + 1) ⟨'\\' :: ds, p⟩ = readChars (a :: read) fuel ⟨rest, p'⟩ := by
    simp only [readChars, Cursor.advance, h]
    rfl
  cases h with
  | plain hlow hquote hbackslash =>
    refine ⟨p.after a, ?_⟩
    rw [List.singleton_append, readChars]
    split
    next hrest => cases hrest
    next hrest => exact absurd (List.cons.inj hrest).1 hquote
    next hrest => exact absurd (List.cons.inj hrest).1 hbackslash
    next hrest =>
      obtain ⟨rfl, -⟩ := List.cons.inj hrest
      rw [if_neg (Nat.not_lt.mpr hlow)]
      rfl
  | letter hletter => exact ⟨_, hescaped (readEscape_letter hletter rest _)⟩
  | code hlength hvalue =>
    obtain ⟨p', hread⟩ := readUnicode_code hlength hvalue rest ((p.after '\\').after 'u')
    exact ⟨p', hescaped hread⟩
  | pair hds hhigh hleast hmost hes hlow hleast' hmost' ha =>
    obtain ⟨p', hread⟩ := readUnicode_pair hds hhigh hleast hmost hes hlow hleast' hmost' ha rest
      ((p.after '\\').after 'u')
    rw [List.cons_append, List.cons_append, List.append_assoc]
    exact ⟨p', hescaped hread⟩

theorem SpellsChar.length_pos {a : Char} {cs : List Char} (h : SpellsChar a cs) :
    0 < cs.length := by
  cases h <;> exact Nat.succ_pos _

/-- A text is no longer than it is spelled. -/
theorem length_le_spelled {cs : List Char} {chars : List (List Char)}
    (h : List.Forall₂ SpellsChar cs chars) : cs.length ≤ chars.flatten.length := by
  induction h with
  | nil => exact Nat.zero_le _
  | cons hchar hmore ih =>
    have hone := hchar.length_pos
    rw [List.flatten_cons, List.length_append, List.length_cons]
    omega

/-- A text is read from its spelled characters up to the quote after them. -/
theorem readText_spelled {s : String} {chars : List (List Char)}
    (h : List.Forall₂ SpellsChar s.toList chars) (rest : List Char) (p : Place) :
    ∃ p', readText ⟨chars.flatten ++ '"' :: rest, p⟩ = .ok (s, ⟨rest, p'⟩) := by
  have hchars (cs : List Char) (chars : List (List Char)) (h : List.Forall₂ SpellsChar cs chars)
      (read : List Char) (fuel : Nat) (hfuel : cs.length < fuel) (p : Place) :
      ∃ p', readChars read fuel ⟨chars.flatten ++ '"' :: rest, p⟩ =
        .ok (read.reverse ++ cs, ⟨rest, p'⟩) := by
    induction h generalizing read fuel p with
    | nil =>
      obtain ⟨fuel, rfl⟩ : ∃ n, fuel = n + 1 := ⟨fuel - 1, by simp at hfuel; omega⟩
      rw [List.append_nil]
      exact ⟨_, rfl⟩
    | @cons a piece cs chars hchar hmore ih =>
      obtain ⟨fuel, rfl⟩ : ∃ n, fuel = n + 1 := ⟨fuel - 1, by simp at hfuel; omega⟩
      obtain ⟨p₁, hone⟩ := readChars_spelled hchar read fuel (chars.flatten ++ '"' :: rest) p
      obtain ⟨p₂, hall⟩ := ih (a :: read) fuel (by simpa using hfuel) p₁
      refine ⟨p₂, ?_⟩
      rw [List.flatten_cons, List.append_assoc, hone, hall, List.reverse_cons, List.append_assoc]
      rfl
  have hlength := length_le_spelled h
  obtain ⟨p', hread⟩ := hchars s.toList chars h [] ((chars.flatten ++ '"' :: rest).length + 1)
    (by rw [List.length_append]; omega) p
  refine ⟨p', ?_⟩
  rw [readText, hread]
  simp only [bind, Except.bind, List.reverse_nil, List.nil_append, String.ofList_toList]

/-! ## Written texts -/

/-- The number of a control character in four digits. -/
def controlDigits (n : Nat) : List Char :=
  if n < 0x10 then ['0', '0', '0'] ++ Text.hexDigits n else ['0', '0'] ++ Text.hexDigits n

/-- What is written for a character: an escape of one letter, one of four digits for any other
control, or the character. -/
theorem writeChar_cases (a : Char) :
    (∃ letter, writeChar a = ['\\', letter] ∧ letterEscape? letter = some a) ∨
      (a.toNat < 0x20 ∧ writeChar a = '\\' :: 'u' :: controlDigits a.toNat) ∨
      (writeChar a = [a] ∧ 0x20 ≤ a.toNat ∧ a ≠ '"' ∧ a ≠ '\\') := by
  unfold writeChar
  split
  · exact Or.inl ⟨'"', rfl, rfl⟩
  · exact Or.inl ⟨'\\', rfl, rfl⟩
  · exact Or.inl ⟨'b', rfl, rfl⟩
  · exact Or.inl ⟨'f', rfl, rfl⟩
  · exact Or.inl ⟨'n', rfl, rfl⟩
  · exact Or.inl ⟨'r', rfl, rfl⟩
  · exact Or.inl ⟨'t', rfl, rfl⟩
  · rename_i hquote hbackslash _ _ _ _ _
    refine Or.inr ?_
    split
    · rename_i hdigit
      refine Or.inl ⟨by omega, ?_⟩
      rw [controlDigits, if_pos hdigit]
      rfl
    · split
      · rename_i hdigit hlow
        refine Or.inl ⟨hlow, ?_⟩
        rw [controlDigits, if_neg hdigit]
        rfl
      · rename_i hlow
        exact Or.inr ⟨rfl, Nat.le_of_not_lt hlow, hquote, hbackslash⟩

/-- What is written for a character is one of its spellings. -/
theorem spellsChar_writeChar (a : Char) : SpellsChar a (writeChar a) := by
  rcases writeChar_cases a with ⟨letter, hwrite, ha⟩ | ⟨hlow, hwrite⟩ |
    ⟨hwrite, hlow, hquote, hbackslash⟩
  · rw [hwrite]
    exact .letter ha
  · have hall : ∀ n : Fin 0x20, (controlDigits n).length = 4 ∧
        Text.hexValue? (controlDigits n) = some n.val := by decide
    obtain ⟨hlength, hvalue⟩ := hall ⟨a.toNat, hlow⟩
    rw [hwrite]
    exact .code hlength hvalue
  · rw [hwrite]
    exact .plain hlow hquote hbackslash

theorem isText_writeText (s : String) : IsText s (writeText s) := by
  refine ⟨s.toList.map writeChar, ?_, ?_⟩
  · rw [List.forall₂_map_right_iff]
    exact List.forall₂_same.mpr fun a _ => spellsChar_writeChar a
  · rw [writeText, List.flatMap_def]
    rfl

end ScatterPick.Json
