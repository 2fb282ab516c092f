import ScatterPick.Proofs.Yaml.Allowed
import ScatterPick.Proofs.Yaml.Plain
import ScatterPick.Yaml.Typed

/-!
# Numbers as plain scalars

What can be read as a number is a plain scalar of one word.
-/

namespace ScatterPick.Yaml

open Number

/-! ## Characters of numbers -/

/-- Whether a character occurs in decimal numbers. -/
def isDecimalChar (c : Char) : Bool :=
  c.isDigit || c = '.' || c = 'e' || c = 'E' || c = '+' || c = '-'

theorem all_decimal_of_digits {ds : List Char} (h : ds.all Char.isDigit = true) :
    ds.all isDecimalChar = true := by
  refine List.all_eq_true.mpr fun c hc => ?_
  simp [isDecimalChar, List.all_eq_true.mp h c hc]

theorem readExponent?_chars {cs : List Char} {e : Int} (h : readExponent? cs = some e) :
    cs.all isDecimalChar = true := by
  have hdigits {ds : List Char} {n : Int}
      (h : (if ds.isEmpty || !ds.all Char.isDigit then none else some n) = some e) :
      ds.all isDecimalChar = true := by
    split at h
    · cases h
    · rename_i hds
      simp only [Bool.or_eq_true, not_or, Bool.not_eq_true', Bool.not_eq_false] at hds
      exact all_decimal_of_digits hds.2
  cases cs with
  | nil => rfl
  | cons c rest =>
    unfold readExponent? at h
    dsimp only at h
    split at h
    · rename_i hc
      have hletter : isDecimalChar c = true := by
        simp only [Bool.or_eq_true, decide_eq_true_eq] at hc
        rcases hc with rfl | rfl <;> rfl
      rw [List.all_cons, hletter, Bool.true_and]
      -- The sign of the exponent is optional.
      split at h
      · rw [List.all_cons, hdigits h]
        rfl
      · rw [List.all_cons, hdigits h]
        rfl
      · exact hdigits h
    · cases h

theorem all_decimal_of_span {cs : List Char}
    (h : (spanDigits cs).2.all isDecimalChar = true) : cs.all isDecimalChar = true := by
  have hsplit := List.takeWhile_append_dropWhile (p := Char.isDigit) (l := cs)
  have hfront : (cs.takeWhile Char.isDigit).all isDecimalChar = true :=
    all_decimal_of_digits List.all_takeWhile
  rw [← hsplit, List.all_append, hfront, Bool.true_and]
  exact h

/-- A decimal number consists of its characters, and is more than a sign. -/
theorem readDecimal?_chars {cs : List Char} {r : Bool × Decimal} (h : readDecimal? cs = some r) :
    cs.all isDecimalChar = true ∧ cs ≠ [] ∧ cs ≠ ['-'] := by
  unfold readDecimal? at h
  split at h
  rename_i negative body hsign
  have hbody : body.all isDecimalChar = true ∧ body ≠ [] := by
    dsimp only at h
    split at h
    · rename_i tail hpoint
      split at h
      · cases h
      · rename_i hdigits
        obtain ⟨e, he, -⟩ := Option.map_eq_some_iff.mp h
        have htail := all_decimal_of_span (readExponent?_chars he)
        refine ⟨all_decimal_of_span ?_, ?_⟩
        · rw [hpoint, List.all_cons, htail]
          rfl
        · rintro rfl
          cases hpoint
    · split at h
      · cases h
      · rename_i hdigits
        obtain ⟨e, he, -⟩ := Option.map_eq_some_iff.mp h
        refine ⟨all_decimal_of_span (readExponent?_chars he), ?_⟩
        rintro rfl
        exact hdigits rfl
  obtain ⟨hall, hne⟩ := hbody
  split at hsign
  · obtain ⟨-, rfl⟩ := Prod.mk.inj hsign
    refine ⟨by rw [List.all_cons, hall]; rfl, List.cons_ne_nil _ _, fun heq => ?_⟩
    exact hne (List.cons.inj heq).2
  · obtain ⟨-, rfl⟩ := Prod.mk.inj hsign
    refine ⟨by rw [List.all_cons, hall]; rfl, List.cons_ne_nil _ _, fun heq => ?_⟩
    exact hne (List.cons.inj heq).2
  · rename_i hminus _
    obtain ⟨-, rfl⟩ := Prod.mk.inj hsign
    exact ⟨hall, hne, fun heq => hminus [] heq⟩

theorem isAllowed_of_decimal {c : Char} (h : isDecimalChar c = true) : isAllowed c = true := by
  simp only [isDecimalChar, Bool.or_eq_true, decide_eq_true_eq] at h
  rcases h with ((((hdigit | rfl) | rfl) | rfl) | rfl) | rfl
  · exact isAllowed_of_isDigit hdigit
  · rfl
  · rfl
  · rfl
  · rfl
  · rfl

/-! ## Numbers -/

/-- Characters of numbers make a plain scalar, a lonely dash apart. -/
theorem plainScalar_decimal {cs : List Char} (h : cs.all isDecimalChar = true) (hne : cs ≠ [])
    (hdash : cs ≠ ['-']) : PlainScalar cs := by
  have hnot {c d : Char} (hc : c ∈ cs) (hd : isDecimalChar d = false) : c ≠ d := by
    rintro rfl
    rw [List.all_eq_true.mp h c hc] at hd
    cases hd
  have hgap {c : Char} (hc : c ∈ cs) : isGap c = false :=
    isGap_of_test (List.all_eq_true.mp h c hc) (by decide)
  obtain ⟨a, tail, rfl⟩ := List.exists_cons_of_ne_nil hne
  have hgaps : (a :: tail).all (!isGap ·) = true :=
    List.all_eq_true.mpr fun c hc => by rw [hgap hc]; rfl
  have hlast : (a :: tail).getLast? ≠ some ':' := fun h =>
    hnot (List.mem_of_getLast? h) (by decide) rfl
  have hcomment : a ≠ '#' := hnot List.mem_cons_self (by decide)
  have hbom : a ≠ '\ufeff' := hnot List.mem_cons_self (by decide)
  refine ⟨.word ?_, ?_, ?_⟩
  · simp [isWord, hgaps, hlast, hcomment]
  · simp [lineStart, hgap, hcomment, hbom]
  · have hfirst : "#,[]\x7b\x7d&*!|>'\"%@`".toList.contains a = false := by
      rw [Bool.eq_false_iff]
      have ha : isDecimalChar a = true := List.all_eq_true.mp h a List.mem_cons_self
      exact fun hmem => not_mem_of_test ha (by decide) (List.contains_iff_mem.mp hmem)
    have hmark : a ≠ '?' := hnot List.mem_cons_self (by decide)
    have hcolon : a ≠ ':' := hnot List.mem_cons_self (by decide)
    -- A dash stands in front of the rest of the number.
    have hnext : a = '-' → (tail.head?.map isGap).getD true = false := by
      rintro rfl
      cases tail with
      | nil => exact absurd rfl hdash
      | cons b tail => simp [hgap]
    rw [startsIndicator, hfirst, Bool.false_or]
    by_cases ha : a = '-'
    · simp [hnext ha]
    · simp [hmark, hcolon, ha]

/-- The words for numbers that are not finite. -/
def specialWords : List String :=
  [".inf", ".Inf", ".INF", "-.inf", "-.Inf", "-.INF", ".nan", ".NaN", ".NAN"]

theorem special_plain : ∀ s ∈ specialWords, ∀ sign ∈ [[], ['+']],
    isWord (sign ++ s.toList) = true ∧ lineStart (sign ++ s.toList) = true ∧
      startsIndicator (sign ++ s.toList) = false ∧ (sign ++ s.toList).all isAllowed = true := by
  decide +kernel

/-- What can be read as a number is a special word, with or without a plus, or a decimal. -/
theorem float?_spelling {s : String} {x : Float} (h : float? s = some x) :
    (∃ w ∈ specialWords, ∃ sign ∈ [[], ['+']], s.toList = sign ++ w.toList) ∨
      s.toList.all isDecimalChar = true ∧ s.toList ≠ [] ∧ s.toList ≠ ['-'] := by
  -- A plus in front of a number is left out.
  obtain ⟨body, hbody⟩ : ∃ body,
      body = if s.toList.head? = some '+' then s.toList.tail else s.toList := ⟨_, rfl⟩
  obtain ⟨sign, hsign, hs⟩ : ∃ sign ∈ [[], ['+']], s.toList = sign ++ body := by
    rw [hbody]
    cases hcs : s.toList with
    | nil => exact ⟨[], by simp, rfl⟩
    | cons c cs =>
      by_cases hplus : c = '+'
      · exact ⟨['+'], by simp, by simp [hplus]⟩
      · exact ⟨[], by simp, by simp [hplus]⟩
  simp only [float?, ← hbody] at h
  split at h
  · cases h
  split at h
  · rename_i hinfinite
    have hword : ∀ w ∈ [".inf", ".Inf", ".INF"], w ∈ specialWords := by decide
    refine Or.inl ⟨_, hword _ (List.contains_iff_mem.mp hinfinite), sign, hsign, ?_⟩
    rw [hs, String.toList_ofList]
  split at h
  · rename_i hnegative
    have hword : ∀ w ∈ ["-.inf", "-.Inf", "-.INF"], w ∈ specialWords := by decide
    exact Or.inl ⟨s, hword _ (List.contains_iff_mem.mp hnegative), [], List.mem_cons_self, rfl⟩
  split at h
  · rename_i hundefined
    have hword : ∀ w ∈ [".nan", ".NaN", ".NAN"], w ∈ specialWords := by decide
    exact Or.inl ⟨s, hword _ (List.contains_iff_mem.mp hundefined), [], List.mem_cons_self, rfl⟩
  · obtain ⟨hy, -⟩ := Option.filter_eq_some_iff.mp h
    obtain ⟨r, hr, -⟩ := Option.map_eq_some_iff.mp hy
    obtain ⟨hall, hne, hdash⟩ := readDecimal?_chars hr
    right
    simp only [List.mem_cons, List.not_mem_nil, or_false] at hsign
    rcases hsign with rfl | rfl
    · rw [hs]
      exact ⟨hall, hne, hdash⟩
    · rw [hs]
      exact ⟨hall, List.cons_ne_nil _ _, by simp⟩

/-- What can be read as a number is a plain scalar. -/
theorem plainScalar_number {s : String} {x : Float} (h : float? s = some x) :
    PlainScalar s.toList ∧ s.toList.all isAllowed = true := by
  rcases float?_spelling h with ⟨w, hw, sign, hsign, hs⟩ | ⟨hall, hne, hdash⟩
  · obtain ⟨hword, hline, hstart, hallowed⟩ := special_plain w hw sign hsign
    rw [hs]
    exact ⟨⟨.word hword, hline, hstart⟩, hallowed⟩
  · exact ⟨plainScalar_decimal hall hne hdash, List.all_eq_true.mpr fun c hc =>
      isAllowed_of_decimal (List.all_eq_true.mp hall c hc)⟩

/-- No word for a number stands for an absent value. -/
theorem not_absent_of_number {s : String} {x : Float} (h : float? s = some x) :
    s.isEmpty = false ∧ isNull s = false := by
  have hnone : ∀ t ∈ ["", "null", "Null", "NULL", "~"], float? t = none := by decide +kernel
  have hs : s ∉ ["", "null", "Null", "NULL", "~"] := fun hmem => by
    rw [hnone s hmem] at h
    cases h
  rw [List.mem_cons, not_or] at hs
  exact ⟨by simpa using hs.1, by simpa [isNull] using hs.2⟩

/-- The digits of a number from 0 to 255 are a plain scalar and spell the number. -/
theorem byteDigits_plain (n : UInt8) : PlainScalar (digits n.toNat) ∧
    (digits n.toNat).all isAllowed = true ∧
      unsigned? (Nat.pow 2 64) (digits n.toNat) = some n.toNat := by
  have hall : ∀ n : Fin 256, (digits n.val).all isDecimalChar = true ∧ digits n.val ≠ [] ∧
      digits n.val ≠ ['-'] ∧ unsigned? (Nat.pow 2 64) (digits n.val) = some n.val := by
    decide +kernel
  obtain ⟨hdecimal, hne, hdash, hvalue⟩ := hall ⟨n.toNat, n.toNat_lt⟩
  refine ⟨plainScalar_decimal hdecimal hne hdash, ?_, hvalue⟩
  exact List.all_eq_true.mpr fun c hc => isAllowed_of_decimal (List.all_eq_true.mp hdecimal c hc)

end ScatterPick.Yaml
