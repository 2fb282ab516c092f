import ScatterPick.Proofs.Text.Hexadecimal
import ScatterPick.Proofs.Yaml.Quoted

/-!
# Characters between quotes

Every character is scanned from the way in which it is written between quotes: a single quote
twice, and between double quotes what needs it as an escape, by a letter or by its number.
-/

namespace ScatterPick.Yaml

/-! ## Hexadecimal numbers -/

theorem hexValue?_zeros (k : Nat) (cs : List Char) :
    Text.hexValue? (List.replicate k '0' ++ cs) = Text.hexValue? cs := by
  induction k with
  | zero => rfl
  | succ k ih => exact ih

theorem hexValue?_paddedHex (width n : Nat) : Text.hexValue? (paddedHex width n) = some n := by
  rw [paddedHex, hexValue?_zeros, Text.hexValue?_map_toDigits (by decide)]

theorem length_paddedHex {width n : Nat} (hwidth : 0 < width) (hn : n < Nat.pow 16 width) :
    (paddedHex width n).length = width := by
  have hlength := (Nat.length_toDigits_le_iff (b := 16) (by decide) hwidth).mpr hn
  simp only [paddedHex, List.length_append, List.length_replicate, List.length_map]
  omega

theorem hexFront?_paddedHex {width n : Nat} (hwidth : 0 < width) (hn : n < Nat.pow 16 width)
    (rest : List Char) : hexFront? width (paddedHex width n ++ rest) = some n := by
  have hlength := length_paddedHex hwidth hn
  rw [hexFront?, if_pos (by simp [hlength]), List.take_left' hlength, hexValue?_paddedHex]

/-! ## Escapes -/

theorem isCharacter_toNat (c : Char) : isCharacter c.toNat = true := by
  have hvalid : c.toNat < 0xD800 ∨ 0xDFFF < c.toNat ∧ c.toNat < 0x110000 := c.valid
  simp only [isCharacter, Bool.and_eq_true, Bool.not_eq_true', Bool.and_eq_false_iff,
    decide_eq_true_eq, decide_eq_false_iff_not]
  omega

/-- A character is scanned from its number. -/
theorem scanEscape_hex {letter : Char} {width : Nat} (hletter : numericWidth? letter = some width)
    (hwidth : 0 < width) {c : Char} (hc : c.toNat < Nat.pow 16 width) (rest : List Char) (m : Mark) :
    scanEscape ⟨letter :: (paddedHex width c.toNat ++ rest), m⟩ =
      some (c, ⟨rest, m.plus (width + 1)⟩) := by
  have hskip := Cursor.skip_append (letter :: paddedHex width c.toNat) rest m
  rw [List.length_cons, length_paddedHex hwidth hc] at hskip
  simp only [scanEscape, Cursor.peek, List.head?_cons, bind, Option.bind, hletter, List.tail_cons,
    hexFront?_paddedHex hwidth hc, isCharacter_toNat, if_true]
  rw [List.cons_append] at hskip
  rw [hskip, Char.ofNat_toNat]
  rfl

/-- A character is scanned from its letter. -/
theorem scanEscape_letter {c letter : Char} (h : shortEscape? c = some letter) :
    isBreak letter = false ∧
      ∀ rest m, scanEscape ⟨letter :: rest, m⟩ = some (c, ⟨rest, m.next⟩) := by
  unfold shortEscape? at h
  split at h <;> first | (obtain rfl := Option.some.inj h; exact ⟨rfl, fun _ _ => rfl⟩) | cases h

/-- A character is scanned from its escape, which starts with a backslash and no break. -/
theorem scanEscape_escape (c : Char) : ∃ letter body, escape c = '\\' :: letter :: body ∧
    isBreak letter = false ∧ ∀ rest m, scanEscape ⟨letter :: (body ++ rest), m⟩ =
      some (c, ⟨rest, m.plus (body.length + 1)⟩) := by
  have hhex (letter : Char) (width : Nat) (hletter : numericWidth? letter = some width)
      (hwidth : 0 < width) (hc : c.toNat < Nat.pow 16 width) (rest : List Char) (m : Mark) :
      scanEscape ⟨letter :: (paddedHex width c.toNat ++ rest), m⟩ =
        some (c, ⟨rest, m.plus ((paddedHex width c.toNat).length + 1)⟩) := by
    rw [scanEscape_hex hletter hwidth hc, length_paddedHex hwidth hc]
  rw [escape]
  cases hshort : shortEscape? c with
  | some letter =>
    obtain ⟨hbreak, hscan⟩ := scanEscape_letter hshort
    exact ⟨letter, [], rfl, hbreak, hscan⟩
  | none =>
    dsimp only
    split
    · rename_i hbyte
      exact ⟨'x', _, rfl, rfl, hhex 'x' 2 rfl (by decide) (Nat.lt_of_le_of_lt hbyte (by decide))⟩
    split
    · rename_i hword
      exact ⟨'u', _, rfl, rfl, hhex 'u' 4 rfl (by decide) (Nat.lt_of_le_of_lt hword (by decide))⟩
    · have hlt : c.toNat < 0x110000 := by
        have hvalid : c.toNat < 0xD800 ∨ 0xDFFF < c.toNat ∧ c.toNat < 0x110000 := c.valid
        omega
      exact ⟨'U', _, rfl, rfl, hhex 'U' 8 rfl (by decide) (Nat.lt_of_lt_of_le hlt (by decide))⟩

/-! ## Written characters -/

/-- A character between single quotes. -/
def singleChar (c : Char) : List Char := if c = '\'' then ['\'', '\''] else [c]

/-- A character between double quotes. -/
def doubleChar (c : Char) : List Char :=
  if !isPrintable c || isBreak c || c = '"' || c = '\\' then escape c else [c]

theorem writeDouble_eq (cs : List Char) : writeDouble cs = '"' :: cs.flatMap doubleChar ++ ['"'] :=
  rfl

/-- A character between single quotes is scanned as it stands, and a quote from two of them. -/
theorem scansAs_singleChar {c : Char} (h : isGap c = false) : ScansAs true singleChar c := by
  by_cases hc : c = '\''
  · subst hc
    exact ⟨rfl, fun text rest m fuel => rfl⟩
  · have hwrite : singleChar c = [c] := if_neg hc
    refine ⟨by simp [hwrite, h], fun text rest m fuel => ?_⟩
    simp [hwrite, scanQuotedWord, h, hc, Cursor.advance, Mark.plus, Mark.next]

/-- A character between double quotes, other than a space, is scanned as it stands or from its
escape. -/
theorem scansAs_doubleChar {c : Char} (h : c ≠ ' ') : ScansAs false doubleChar c := by
  cases hwrite : (!isPrintable c || isBreak c || c = '"' || c = '\\') with
  | true =>
    obtain ⟨letter, body, hescape, hbreak, hscan⟩ := scanEscape_escape c
    have hwritten : doubleChar c = '\\' :: letter :: body := (if_pos hwrite).trans hescape
    refine ⟨by rw [hwritten]; rfl, fun text rest m fuel => ?_⟩
    have hbackslash : isGap '\\' = false := by decide
    have hmark : m.next.plus (body.length + 1) = m.plus (doubleChar c).length := by
      rw [Mark.next_plus, hwritten]
      rfl
    rw [← hmark, hwritten]
    simp [scanQuotedWord, hbackslash, hbreak, Cursor.advance, hscan]
  | false =>
    have hwritten : doubleChar c = [c] := if_neg (by rw [hwrite]; simp)
    simp only [Bool.or_eq_false_iff, Bool.not_eq_false', decide_eq_false_iff_not] at hwrite
    obtain ⟨⟨⟨hprintable, hbreak⟩, hquote⟩, hbackslash⟩ := hwrite
    have htab : c ≠ '\t' := by
      rintro rfl
      cases hprintable
    have hgap : isGap c = false := by simp [isGap, isBlank, h, htab, hbreak]
    refine ⟨by simp [hwritten, hgap], fun text rest m fuel => ?_⟩
    simp [hwritten, scanQuotedWord, hgap, hquote, hbackslash, Cursor.advance, Mark.plus, Mark.next]

end ScatterPick.Yaml
