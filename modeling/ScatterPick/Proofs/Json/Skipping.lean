import ScatterPick.Json.Structure
import ScatterPick.Proofs.Json.Text

/-!
# Values that are skipped

A value of any shape is skipped up to what follows it, however deep it is nested. The fuel is twice
the number of characters: nesting takes a bracket for every two steps, and an item of a list takes a
comma.
-/

namespace ScatterPick.Json

/-! ## Starts of values -/

/-- A text that starts as an element of an array may: neither by a gap nor by the end. -/
def Opens (text : List Char) : Prop :=
  ∃ d ds, text = d :: ds ∧ Cursor.isGap d = false ∧ d ≠ ']'

theorem isGap_of_isDigit {d : Char} (h : d.isDigit = true) : Cursor.isGap d = false := by
  rw [Bool.eq_false_iff]
  intro hgap
  simp only [Cursor.isGap, Bool.or_eq_true, decide_eq_true_eq] at hgap
  rcases hgap with ((rfl | rfl) | rfl) | rfl <;> cases h

theorem opens_digit {d : Char} (h : d.isDigit = true) (ds : List Char) : Opens (d :: ds) := by
  refine ⟨d, ds, rfl, isGap_of_isDigit h, ?_⟩
  rintro rfl
  cases h

theorem IsText.opens {s : String} {text : List Char} (h : IsText s text) : Opens text := by
  obtain ⟨chars, -, rfl⟩ := h
  exact ⟨_, _, rfl, rfl, by decide⟩

theorem Bracketed.opens {closing : Char} {items : List (List Char)} {text : List Char}
    (h : Bracketed '[' closing items text ∨ Bracketed '\x7b' closing items text) : Opens text := by
  rcases h with h | h
  · cases h <;> exact ⟨_, _, rfl, rfl, by decide⟩
  · cases h <;> exact ⟨_, _, rfl, rfl, by decide⟩

theorem IsWhole.head_isDigit {ds : List Char} (h : IsWhole ds) :
    ∃ d rest, ds = d :: rest ∧ d.isDigit = true := by
  rcases h with rfl | ⟨d, rest, rfl, -, hdigits⟩
  · exact ⟨'0', [], rfl, rfl⟩
  · exact ⟨d, rest, rfl, List.all_eq_true.mp hdigits d List.mem_cons_self⟩

theorem IsNumeral.opens {text : List Char} (h : IsNumeral text) : Opens text := by
  obtain ⟨sign, whole, fraction, exponent, hsign, hwhole, -, -, rfl⟩ := h
  obtain ⟨d, rest, rfl, hd⟩ := hwhole.head_isDigit
  rcases List.mem_pair.mp hsign with rfl | rfl
  · exact opens_digit hd _
  · exact ⟨_, _, rfl, rfl, by decide⟩

theorem IsValue.opens {text : List Char} (h : IsValue text) : Opens text := by
  cases h with
  | word hword =>
    simp only [List.mem_cons, List.not_mem_nil, or_false] at hword
    rcases hword with rfl | rfl | rfl <;> exact ⟨_, _, rfl, rfl, by decide⟩
  | numeral hnumeral => exact hnumeral.opens
  | text htext => exact htext.opens
  | array _ hbrackets => exact Bracketed.opens (Or.inl hbrackets)
  | object _ _ hbrackets => exact Bracketed.opens (Or.inr hbrackets)

/-! ## Numerals -/

theorem takeWhile_digits {ds rest : List Char} (hds : ds.all Char.isDigit = true)
    (hrest : rest.head?.any Char.isDigit = false) : (ds ++ rest).takeWhile Char.isDigit = ds := by
  rw [List.takeWhile_append_of_pos (List.all_eq_true.mp hds)]
  cases rest with
  | nil => simp
  | cons a rest => rw [List.takeWhile_cons_of_neg (by simpa using hrest), List.append_nil]

theorem skip_digits (ds rest : List Char) (p : Place) :
    ∃ p', Cursor.skip ⟨ds ++ rest, p⟩ ds.length = ⟨rest, p'⟩ := by
  obtain ⟨p', h⟩ := skip_append (Nat.le_refl ds.length) rest p
  rw [List.drop_length] at h
  exact ⟨p', h⟩

theorem skipSign_of_mem {sign ds : List Char} (hsign : sign ∈ [[], ['-'], ['+']])
    (hds : IsDigits ds) (rest : List Char) (p : Place) :
    ∃ p', (skipSign ⟨sign ++ (ds ++ rest), p⟩).2 = ⟨ds ++ rest, p'⟩ := by
  obtain ⟨hne, hdigits⟩ := hds
  obtain ⟨d, ds, rfl⟩ := List.exists_cons_of_ne_nil hne
  have hd : d.isDigit = true := List.all_eq_true.mp hdigits d List.mem_cons_self
  simp only [List.mem_cons, List.not_mem_nil, or_false] at hsign
  rcases hsign with rfl | rfl | rfl
  · refine ⟨p, ?_⟩
    rw [List.nil_append, List.cons_append, skipSign]
    split
    next hrest =>
      obtain ⟨rfl, -⟩ := List.cons.inj hrest
      cases hd
    next hrest =>
      obtain ⟨rfl, -⟩ := List.cons.inj hrest
      cases hd
    next => rfl
  · exact ⟨_, rfl⟩
  · exact ⟨_, rfl⟩

/-- What follows the digits of a number before an exponent, if there is one. -/
def skipPart (c : Cursor) : Except Failure Cursor := if atExponent c then skipExponent c else .ok c

theorem skipPart_append {exponent rest : List Char}
    (h : IsExponent exponent) (hrest : Closes rest) (p : Place) :
    ∃ p', skipPart ⟨exponent ++ rest, p⟩ = .ok ⟨rest, p'⟩ := by
  rcases h with rfl | ⟨e, sign, ds, rfl, he, hsign, hds⟩
  · exact ⟨p, if_neg (by rw [List.nil_append, hrest.not_atExponent]; simp)⟩
  · have hletter : atExponent ⟨e :: (sign ++ ds) ++ rest, p⟩ = true := by
      rcases he with rfl | rfl <;> rfl
    have hdigit := hrest.head_not Char.isDigit (by decide)
    obtain ⟨p₁, hskip⟩ := skipSign_of_mem hsign hds rest (p.after e)
    obtain ⟨p₂, hdigits⟩ := skip_digits ds rest p₁
    have hadvance : Cursor.advance ⟨e :: (sign ++ ds) ++ rest, p⟩ =
        ⟨sign ++ (ds ++ rest), p.after e⟩ := by
      rw [List.cons_append, List.append_assoc]
      rfl
    have hsome : ds.isEmpty = false := by simpa using hds.1
    refine ⟨p₂, ?_⟩
    rw [skipPart, if_pos hletter, skipExponent, hadvance]
    simp only [hskip, takeWhile_digits hds.2 hdigit, hsome, Bool.false_eq_true, if_false, hdigits]

theorem skipFraction_eq {c : Cursor} (hpoint : c.rest.head? ≠ some '.') :
    skipFraction c = skipPart c := by
  rw [skipFraction]
  split
  next rest hrest =>
    rw [hrest] at hpoint
    exact absurd rfl hpoint
  next => rfl

section Numeral

variable {fraction exponent rest : List Char}

/-- The character after the digits of a number is none of them, and no point after a fraction. -/
theorem head_exponent_append (hexponent : IsExponent exponent)
    (hrest : Closes rest) (test : Char → Bool) (htest : closers.any test = false)
    (hletters : test 'e' = false ∧ test 'E' = false) :
    (exponent ++ rest).head?.any test = false := by
  rcases hexponent with rfl | ⟨e, sign, ds, rfl, he, -, -⟩
  · exact hrest.head_not test htest
  · rcases he with rfl | rfl
    · exact hletters.1
    · exact hletters.2

theorem skipFraction_append
    (hfraction : IsFraction fraction)
    (hexponent : IsExponent exponent)
    (hrest : Closes rest) (p : Place) :
    ∃ p', skipFraction ⟨fraction ++ (exponent ++ rest), p⟩ = .ok ⟨rest, p'⟩ := by
  rcases hfraction with rfl | ⟨ds, rfl, hds⟩
  · have hpoint := head_exponent_append hexponent hrest (· == '.') (by decide) (by decide)
    obtain ⟨p', hpart⟩ := skipPart_append hexponent hrest p
    refine ⟨p', (skipFraction_eq fun h => ?_).trans hpart⟩
    have hhead : (exponent ++ rest).head? = some '.' := h
    rw [hhead] at hpoint
    cases hpoint
  · have hdigit := head_exponent_append hexponent hrest Char.isDigit (by decide) (by decide)
    obtain ⟨p₁, hskip⟩ := skip_digits ds (exponent ++ rest) (p.after '.')
    obtain ⟨p₂, hpart⟩ := skipPart_append hexponent hrest p₁
    have hsome : ds.isEmpty = false := by simpa using hds.1
    refine ⟨p₂, ?_⟩
    have hadvance : Cursor.advance ⟨'.' :: (ds ++ (exponent ++ rest)), p⟩ =
        ⟨ds ++ (exponent ++ rest), p.after '.'⟩ := rfl
    simp only [skipFraction, List.cons_append, takeWhile_digits hds.2 hdigit, hadvance, hskip, hsome,
      Bool.false_eq_true, if_false]
    exact hpart

/-- A numeral after its sign is skipped. -/
theorem skipUnsigned_append {whole : List Char} (hwhole : IsWhole whole)
    (hfraction : IsFraction fraction)
    (hexponent : IsExponent exponent)
    (hrest : Closes rest) (p : Place) :
    ∃ p', skipUnsigned ⟨whole ++ (fraction ++ (exponent ++ rest)), p⟩ = .ok ⟨rest, p'⟩ := by
  have hhead : (fraction ++ (exponent ++ rest)).head?.any Char.isDigit = false := by
    rcases hfraction with rfl | ⟨ds, rfl, -⟩
    · exact head_exponent_append hexponent hrest Char.isDigit (by decide) (by decide)
    · rfl
  rcases hwhole with rfl | ⟨d, ds, rfl, hzero, hdigits⟩
  · obtain ⟨p', hskip⟩ := skipFraction_append hfraction hexponent hrest (p.after '0')
    refine ⟨p', ?_⟩
    rw [← hskip, List.singleton_append]
    cases htail : fraction ++ (exponent ++ rest) with
    | nil => rfl
    | cons a tail =>
      rw [htail] at hhead
      have ha : ¬a.isDigit = true := Bool.eq_false_iff.mp hhead
      simp only [skipUnsigned, if_neg ha]
      rfl
  · obtain ⟨p₁, hskip⟩ := skip_digits (d :: ds) (fraction ++ (exponent ++ rest)) p
    obtain ⟨p₂, hfinish⟩ := skipFraction_append hfraction hexponent hrest p₁
    refine ⟨p₂, ?_⟩
    rw [skipUnsigned]
    split
    next hrest => exact absurd (List.cons.inj hrest).1 hzero
    next =>
      simp only [takeWhile_digits hdigits hhead, List.isEmpty_cons, Bool.false_eq_true, if_false,
        hskip, hfinish]

end Numeral

/-! ## Texts -/

/-- A spelled character is skipped in as many steps as it has escapes. -/
theorem skipChars_spelled {a : Char} {cs : List Char} (h : SpellsChar a cs) (rest : List Char)
    (p : Place) : ∃ n p', 0 < n ∧ n ≤ cs.length ∧
      ∀ fuel, skipChars (fuel + n) ⟨cs ++ rest, p⟩ = skipChars fuel ⟨rest, p'⟩ := by
  have hcode {ds : List Char} {n : Nat} (hlength : ds.length = 4)
      (hvalue : Text.hexValue? ds = some n) (rest : List Char) (p : Place) : ∃ p', ∀ fuel,
        skipChars (fuel + 1) ⟨'\\' :: 'u' :: (ds ++ rest), p⟩ = skipChars fuel ⟨rest, p'⟩ := by
    obtain ⟨p', hhex⟩ := readHex_append hlength hvalue rest ((p.after '\\').after 'u')
    refine ⟨p', fun fuel => ?_⟩
    have hadvance : Cursor.advance ⟨'u' :: (ds ++ rest), p.after '\\'⟩ =
        ⟨ds ++ rest, (p.after '\\').after 'u'⟩ := rfl
    simp only [skipChars, Cursor.advance, skipEscape] at hadvance ⊢
    rw [hhex]
    rfl
  cases h with
  | plain hlow hquote hbackslash =>
    refine ⟨1, p.after a, Nat.one_pos, Nat.le_refl 1, fun fuel => ?_⟩
    rw [List.singleton_append, skipChars]
    split
    next hrest => cases hrest
    next hrest => exact absurd (List.cons.inj hrest).1 hquote
    next hrest => exact absurd (List.cons.inj hrest).1 hbackslash
    next hrest =>
      obtain ⟨rfl, -⟩ := List.cons.inj hrest
      rw [if_neg (Nat.not_lt.mpr hlow)]
      rfl
  | @letter letter _ hletter =>
    refine ⟨1, (p.after '\\').after letter, Nat.one_pos, by simp, fun fuel => ?_⟩
    have hescape : skipEscape ⟨letter :: rest, p.after '\\'⟩ =
        .ok ⟨rest, (p.after '\\').after letter⟩ := by
      rw [skipEscape]
      split
      next hrest =>
        obtain ⟨rfl, -⟩ := List.cons.inj hrest
        cases hletter
      next => rw [readEscape_letter hletter]; rfl
    simp only [List.cons_append, List.nil_append, skipChars, Cursor.advance, hescape]
    rfl
  | code hlength hvalue =>
    obtain ⟨p', hskip⟩ := hcode hlength hvalue rest p
    exact ⟨1, p', Nat.one_pos, by simp, hskip⟩
  | @pair _ high low ds es hds hhigh _ _ hes hlow =>
    obtain ⟨p₁, hfirst⟩ := hcode hds hhigh ('\\' :: 'u' :: (es ++ rest)) p
    obtain ⟨p₂, hsecond⟩ := hcode hes hlow rest p₁
    refine ⟨2, p₂, Nat.two_pos, by simp, fun fuel => ?_⟩
    rw [List.cons_append, List.cons_append, List.append_assoc]
    exact (hfirst (fuel + 1)).trans (hsecond fuel)

/-- A text is skipped up to the quote after it. -/
theorem skipText_spelled {cs : List Char} {chars : List (List Char)}
    (h : List.Forall₂ SpellsChar cs chars) (rest : List Char) (p : Place) :
    ∃ p', skipText ⟨chars.flatten ++ '"' :: rest, p⟩ = .ok ⟨rest, p'⟩ := by
  have hchars (fuel : Nat) (hfuel : chars.flatten.length < fuel) (p : Place) :
      ∃ p', skipChars fuel ⟨chars.flatten ++ '"' :: rest, p⟩ = .ok ⟨rest, p'⟩ := by
    induction h generalizing fuel p with
    | nil =>
      obtain ⟨fuel, rfl⟩ : ∃ n, fuel = n + 1 := ⟨fuel - 1, by simp at hfuel; omega⟩
      exact ⟨p.after '"', rfl⟩
    | @cons a piece cs chars hchar _ ih =>
      rw [List.flatten_cons, List.length_append] at hfuel
      obtain ⟨n, p₁, hpos, hle, hskip⟩ := skipChars_spelled hchar (chars.flatten ++ '"' :: rest) p
      obtain ⟨p₂, hmore⟩ := ih (fuel - n) (by omega) p₁
      refine ⟨p₂, ?_⟩
      have hfuel : fuel = fuel - n + n := by omega
      rw [List.flatten_cons, List.append_assoc, hfuel, hskip, hmore]
  exact hchars _ (by rw [List.length_append]; omega) p

/-! ## Values -/

/-- Whatever gap stands before a text, it is skipped up to what may stand after a value. -/
def Skipped (text : List Char) : Prop :=
  ∀ fuel gap rest place, 2 * text.length ≤ fuel + 1 → IsGap gap → Closes rest →
    ∃ place', skipValue (fuel + 1) ⟨gap ++ (text ++ rest), place⟩ = .ok ⟨rest, place'⟩

/-- The gap in front of a value is skipped first. -/
theorem skipValue_gap {gap : List Char} (hgap : IsGap gap) {d : Char}
    (hd : Cursor.isGap d = false) (fuel : Nat) (ds : List Char) (place : Place) :
    ∃ p, skipValue (fuel + 1) ⟨gap ++ d :: ds, place⟩ = skipValue (fuel + 1) ⟨d :: ds, p⟩ := by
  obtain ⟨p, hskip⟩ := skipGap_to hgap hd ds place
  refine ⟨p, ?_⟩
  rw [← hskip, skipValue, skipValue, skipGap_skipGap]

theorem skipped_word {text : List Char}
    (h : text ∈ ["null".toList, "true".toList, "false".toList]) : Skipped text := by
  intro fuel gap rest place _ hgap _
  simp only [List.mem_cons, List.not_mem_nil, or_false] at h
  rcases h with rfl | rfl | rfl
  · obtain ⟨p, hskip⟩ := skipValue_gap hgap (d := 'n') rfl fuel ('u' :: 'l' :: 'l' :: rest) place
    exact ⟨_, hskip.trans rfl⟩
  · obtain ⟨p, hskip⟩ := skipValue_gap hgap (d := 't') rfl fuel ('r' :: 'u' :: 'e' :: rest) place
    exact ⟨_, hskip.trans rfl⟩
  · obtain ⟨p, hskip⟩ := skipValue_gap hgap (d := 'f') rfl fuel ('a' :: 'l' :: 's' :: 'e' :: rest) place
    exact ⟨_, hskip.trans rfl⟩

theorem skipGap_of_not {d : Char} (hd : Cursor.isGap d = false) (ds : List Char) (p : Place) :
    Cursor.skipGap ⟨d :: ds, p⟩ = ⟨d :: ds, p⟩ := by
  rw [Cursor.skipGap, List.takeWhile_cons_of_neg (by rw [hd]; simp)]
  rfl

/-- A value that starts with a digit is a number. -/
theorem skipValue_digit {d : Char} (hd : d.isDigit = true) (fuel : Nat) (ds : List Char)
    (p : Place) : skipValue (fuel + 1) ⟨d :: ds, p⟩ = skipUnsigned ⟨d :: ds, p⟩ := by
  rw [skipValue, skipGap_of_not (isGap_of_isDigit hd)]
  simp only [Cursor.peek, List.head?_cons]
  have hother {e : Char} (he : e.isDigit = false) : some d ≠ some e := by
    rintro heq
    rw [Option.some.inj heq, he] at hd
    cases hd
  split
  next h => cases h
  next h => exact absurd h (hother rfl)
  next h => exact absurd h (hother rfl)
  next h => exact absurd h (hother rfl)
  next h => exact absurd h (hother rfl)
  next h => exact absurd h (hother rfl)
  next h => exact absurd h (hother rfl)
  next h => exact absurd h (hother rfl)
  next h =>
    obtain rfl := Option.some.inj h
    rw [if_pos hd]

theorem skipped_numeral {text : List Char} (h : IsNumeral text) : Skipped text := by
  intro fuel gap rest place _ hgap hrest
  obtain ⟨sign, whole, fraction, exponent, hsign, hwhole, hfraction, hexponent, rfl⟩ := h
  have hunsigned (p : Place) := skipUnsigned_append hwhole hfraction hexponent hrest p
  obtain ⟨d, ds, hhead, hd⟩ := hwhole.head_isDigit
  simp only [List.append_assoc]
  rcases List.mem_pair.mp hsign with rfl | rfl
  · rw [hhead] at hunsigned ⊢
    obtain ⟨p, hskip⟩ := skipValue_gap hgap (isGap_of_isDigit hd) fuel
      (ds ++ (fraction ++ (exponent ++ rest))) place
    obtain ⟨p', hnumber⟩ := hunsigned p
    exact ⟨p', hskip.trans ((skipValue_digit hd fuel _ p).trans hnumber)⟩
  · obtain ⟨p, hskip⟩ := skipValue_gap hgap (d := '-') rfl fuel
      (whole ++ (fraction ++ (exponent ++ rest))) place
    obtain ⟨p', hnumber⟩ := hunsigned (p.after '-')
    exact ⟨p', hskip.trans hnumber⟩

theorem skipped_text {s : String} {text : List Char} (h : IsText s text) : Skipped text := by
  intro fuel gap rest place _ hgap _
  obtain ⟨chars, hchars, rfl⟩ := h
  obtain ⟨p, hskip⟩ := skipValue_gap hgap (d := '"') rfl fuel (chars.flatten ++ '"' :: rest) place
  obtain ⟨p', htext⟩ := skipText_spelled hchars rest (p.after '"')
  refine ⟨p', ?_⟩
  rw [List.cons_append, List.append_assoc]
  exact hskip.trans htext

/-! ## Lists -/

/-- A step takes a text, whatever gap stands before it, up to what may stand after a value. -/
def Takes (step : Nat → Cursor → Except Failure Cursor) (text : List Char) : Prop :=
  ∀ fuel gap rest place, 2 * text.length ≤ fuel → IsGap gap → Closes rest →
    ∃ place', step fuel ⟨gap ++ (text ++ rest), place⟩ = .ok ⟨rest, place'⟩

/-- How a list between brackets is skipped: `step` takes one of its items, and `run` all of them
with the closing bracket. -/
structure SkipsList (opening closing : Char) (step run : Nat → Cursor → Except Failure Cursor) :
    Prop where
  opening_not_gap : Cursor.isGap opening = false
  closing_not_gap : Cursor.isGap closing = false
  closes : closing ∈ closers
  empty : ∀ {fuel ds rest} {p q : Place}, Cursor.skipGap ⟨ds, p.after opening⟩ = ⟨closing :: rest, q⟩ →
    skipValue (fuel + 1) ⟨opening :: ds, p⟩ = .ok ⟨rest, q.after closing⟩
  first : ∀ {fuel ds d rest} {p q : Place}, Cursor.skipGap ⟨ds, p.after opening⟩ = ⟨d :: rest, q⟩ →
    d ≠ closing → skipValue (fuel + 1) ⟨opening :: ds, p⟩ = run fuel ⟨d :: rest, q⟩
  further : ∀ {fuel c c' rest} {p : Place}, step fuel c = .ok c' →
    Cursor.skipGap c' = ⟨',' :: rest, p⟩ → run (fuel + 1) c = run fuel ⟨rest, p.after ','⟩
  last : ∀ {fuel c c' rest} {p : Place}, step fuel c = .ok c' →
    Cursor.skipGap c' = ⟨closing :: rest, p⟩ → run (fuel + 1) c = .ok ⟨rest, p.after closing⟩

namespace SkipsList

variable {opening closing : Char} {step run : Nat → Cursor → Except Failure Cursor}

/-- Items are skipped one after the other. -/
theorem run_further (h : SkipsList opening closing step run) {item text : List Char}
    {items : List (List Char)} (hmore : Further items text)
    (hitems : ∀ t ∈ item :: items, Takes step t) {fuel : Nat}
    (hfuel : 2 * (item.length + text.length) ≤ fuel) {gap : List Char} (hgap : IsGap gap)
    (rest : List Char) (place : Place) :
    ∃ place', run (fuel + 1) ⟨gap ++ (item ++ (text ++ closing :: rest)), place⟩ =
      .ok ⟨rest, place'⟩ := by
  induction hmore generalizing item fuel gap place with
  | @nil after hafter =>
    have hcloses : Closes (after ++ closing :: rest) := .gap_append hafter (.cons h.closes)
    obtain ⟨p, hstep⟩ := hitems item List.mem_cons_self fuel gap _ place (by omega) hgap hcloses
    obtain ⟨q, hskip⟩ := skipGap_to hafter h.closing_not_gap rest p
    exact ⟨q.after closing, h.last hstep hskip⟩
  | @cons before after next text items hbefore hafter hmore ih =>
    simp only [List.length_append, List.length_cons] at hfuel
    have hcloses : Closes (before ++ ',' :: (after ++ (next ++ (text ++ closing :: rest)))) :=
      .gap_append hbefore (.cons (by decide))
    obtain ⟨p, hstep⟩ := hitems item List.mem_cons_self fuel gap _ place (by omega) hgap hcloses
    obtain ⟨q, hskip⟩ := skipGap_to hbefore (d := ',') rfl
      (after ++ (next ++ (text ++ closing :: rest))) p
    obtain ⟨fuel, rfl⟩ : ∃ n, fuel = n + 1 := ⟨fuel - 1, by omega⟩
    have hshort : 2 * (next.length + text.length) ≤ fuel := by omega
    obtain ⟨q', hrun⟩ := ih (fun t ht => hitems t (List.mem_cons_of_mem _ ht)) hshort hafter
      (q.after ',')
    refine ⟨q', ?_⟩
    simp only [List.append_assoc, List.cons_append]
    exact (h.further hstep hskip).trans hrun

/-- A list is skipped if its items are, none of which starts with the closing bracket. -/
theorem skipped (h : SkipsList opening closing step run) {items : List (List Char)}
    {text : List Char} (htext : Bracketed opening closing items text)
    (hitems : ∀ t ∈ items, Takes step t ∧
      ∃ d ds, t = d :: ds ∧ Cursor.isGap d = false ∧ d ≠ closing) : Skipped text := by
  intro fuel gap rest place hfuel hgap _
  cases htext with
  | @nil inner hinner =>
    obtain ⟨p, hskip⟩ := skipValue_gap hgap h.opening_not_gap fuel (inner ++ closing :: rest) place
    obtain ⟨q, hclose⟩ := skipGap_to hinner h.closing_not_gap rest (p.after opening)
    refine ⟨q.after closing, ?_⟩
    simp only [List.cons_append, List.append_assoc, List.nil_append]
    exact hskip.trans (h.empty hclose)
  | @cons inner item text items hinner hmore =>
    simp only [List.length_append, List.length_cons, List.length_nil] at hfuel
    obtain ⟨-, d, ds, rfl, hd, hclosing⟩ := hitems item List.mem_cons_self
    obtain ⟨p, hskip⟩ := skipValue_gap hgap h.opening_not_gap fuel
      (inner ++ (d :: ds ++ (text ++ closing :: rest))) place
    obtain ⟨q, hopen⟩ := skipGap_to hinner hd (ds ++ (text ++ closing :: rest)) (p.after opening)
    obtain ⟨fuel, rfl⟩ : ∃ n, fuel = n + 1 := ⟨fuel - 1, by omega⟩
    have hshort : 2 * ((d :: ds).length + text.length) ≤ fuel := by omega
    obtain ⟨q', hrun⟩ := h.run_further hmore (fun t ht => (hitems t ht).1) hshort nil_isGap rest q
    refine ⟨q', ?_⟩
    simp only [List.cons_append, List.append_assoc, List.nil_append] at hskip hopen hrun ⊢
    rw [hskip, h.first hopen hclosing, hrun]

end SkipsList

/-- What is skipped with enough fuel is taken as an item. -/
theorem Skipped.takes {text : List Char} (h : Skipped text) (hopens : Opens text) :
    Takes skipValue text := by
  intro fuel gap rest place hfuel hgap hrest
  obtain ⟨d, ds, rfl, -, -⟩ := hopens
  obtain ⟨fuel, rfl⟩ : ∃ n, fuel = n + 1 := ⟨fuel - 1, by rw [List.length_cons] at hfuel; omega⟩
  exact h fuel gap rest place hfuel hgap hrest

/-- Arrays are skipped item by item. -/
theorem skipsList_array : SkipsList '[' ']' skipValue skipItems where
  opening_not_gap := rfl
  closing_not_gap := rfl
  closes := by decide
  empty {fuel ds rest p q} h := by
    have hadvance : Cursor.advance ⟨'[' :: ds, p⟩ = ⟨ds, p.after '['⟩ := rfl
    rw [skipValue, skipGap_of_not rfl]
    simp only [Cursor.peek, List.head?_cons, hadvance, h]
    rfl
  first {fuel ds d rest p q} h hd := by
    have hadvance : Cursor.advance ⟨'[' :: ds, p⟩ = ⟨ds, p.after '['⟩ := rfl
    rw [skipValue, skipGap_of_not rfl]
    simp only [Cursor.peek, List.head?_cons, hadvance, h]
  further {fuel c c' rest p} hstep h := by
    simp only [skipItems, hstep, bind, Except.bind, h, Cursor.peek, List.head?_cons]
    rfl
  last {fuel c c' rest p} hstep h := by
    simp only [skipItems, hstep, bind, Except.bind, h, Cursor.peek, List.head?_cons]
    rfl

theorem exists_named {fuel : Nat} {c c' : Cursor}
    (h : (do skipValue fuel (← skipName c)) = .ok c') :
    ∃ named, skipName c = .ok named ∧ skipValue fuel named = .ok c' := by
  cases hname : skipName c with
  | error e =>
    rw [hname] at h
    cases h
  | ok named =>
    rw [hname] at h
    exact ⟨named, rfl, h⟩

/-- Objects are skipped member by member, each with its name. -/
theorem skipsList_object :
    SkipsList '\x7b' '\x7d' (fun fuel c => do skipValue fuel (← skipName c)) skipMembers where
  opening_not_gap := rfl
  closing_not_gap := rfl
  closes := by decide
  empty {fuel ds rest p q} h := by
    have hadvance : Cursor.advance ⟨'\x7b' :: ds, p⟩ = ⟨ds, p.after '\x7b'⟩ := rfl
    rw [skipValue, skipGap_of_not rfl]
    simp only [Cursor.peek, List.head?_cons, hadvance, h]
    rfl
  first {fuel ds d rest p q} h hd := by
    have hadvance : Cursor.advance ⟨'\x7b' :: ds, p⟩ = ⟨ds, p.after '\x7b'⟩ := rfl
    rw [skipValue, skipGap_of_not rfl]
    simp only [Cursor.peek, List.head?_cons, hadvance, h]
  further {fuel c c' rest p} hstep h := by
    obtain ⟨named, hname, hvalue⟩ := exists_named hstep
    simp only [skipMembers, hname, hvalue, bind, Except.bind, h, Cursor.peek, List.head?_cons]
    rfl
  last {fuel c c' rest p} hstep h := by
    obtain ⟨named, hname, hvalue⟩ := exists_named hstep
    simp only [skipMembers, hname, hvalue, bind, Except.bind, h, Cursor.peek, List.head?_cons]
    rfl

theorem readColon_append {gap : List Char} (hgap : IsGap gap) (rest : List Char)
    (place : Place) : ∃ place', readColon ⟨gap ++ ':' :: rest, place⟩ = .ok ⟨rest, place'⟩ := by
  obtain ⟨p, hskip⟩ := skipGap_to hgap (d := ':') (by decide) rest place
  refine ⟨p.after ':', ?_⟩
  rw [readColon, hskip]
  rfl

/-- The name of a member is skipped with its colon up to the value. -/
theorem skipName_member {name : String} {value member : List Char}
    (h : IsMember name value member) {gap : List Char} (hgap : IsGap gap) (rest : List Char)
    (place : Place) : ∃ after p, IsGap after ∧
      skipName ⟨gap ++ (member ++ rest), place⟩ = .ok ⟨after ++ (value ++ rest), p⟩ := by
  obtain ⟨spelled, before, after, ⟨chars, hchars, rfl⟩, hbefore, hafter, rfl⟩ := h
  obtain ⟨p, hskip⟩ := skipGap_to hgap (d := '"') rfl
    (chars.flatten ++ '"' :: (before ++ ':' :: (after ++ (value ++ rest)))) place
  obtain ⟨p', htext⟩ := skipText_spelled hchars (before ++ ':' :: (after ++ (value ++ rest)))
    (p.after '"')
  obtain ⟨p'', hcolon⟩ := readColon_append hbefore (after ++ (value ++ rest)) p'
  refine ⟨after, p'', hafter, ?_⟩
  have hadvance : Cursor.advance
      ⟨'"' :: (chars.flatten ++ '"' :: (before ++ ':' :: (after ++ (value ++ rest)))), p⟩ =
      ⟨chars.flatten ++ '"' :: (before ++ ':' :: (after ++ (value ++ rest))), p.after '"'⟩ := rfl
  simp only [List.cons_append, List.append_assoc, List.nil_append, skipName, hskip, Cursor.peek,
    List.head?_cons, if_true, hadvance, htext, bind, Except.bind, hcolon]

theorem IsMember.length {name : String} {value member : List Char}
    (h : IsMember name value member) : value.length ≤ member.length := by
  obtain ⟨spelled, before, after, -, -, -, rfl⟩ := h
  simp only [List.length_append, List.length_cons]
  omega

theorem IsMember.takes {name : String} {value member : List Char}
    (h : IsMember name value member) (hvalue : Takes skipValue value) :
    Takes (fun fuel c => do skipValue fuel (← skipName c)) member := by
  intro fuel gap rest place hfuel hgap hrest
  have hlength := h.length
  obtain ⟨after, p, hafter, hname⟩ := skipName_member h hgap rest place
  obtain ⟨q, hskip⟩ := hvalue fuel after rest p (by omega) hafter hrest
  exact ⟨q, by simp only [hname, bind, Except.bind, hskip]⟩

theorem IsMember.head {name : String} {value member : List Char}
    (h : IsMember name value member) : ∃ ds, member = '"' :: ds := by
  obtain ⟨spelled, before, after, ⟨chars, -, rfl⟩, -, -, rfl⟩ := h
  exact ⟨_, rfl⟩

/-! ## Values -/

/-- A value of any shape is skipped. -/
theorem IsValue.skipped {text : List Char} (h : IsValue text) : Skipped text := by
  induction h with
  | word hword => exact skipped_word hword
  | numeral hnumeral => exact skipped_numeral hnumeral
  | text htext => exact skipped_text htext
  | array hvalues hbrackets ih =>
    refine skipsList_array.skipped hbrackets fun t ht => ?_
    exact ⟨(ih t ht).takes (hvalues t ht).opens, (hvalues t ht).opens⟩
  | object hvalues hmembers hbrackets ih =>
    refine skipsList_object.skipped hbrackets fun t ht => ?_
    obtain ⟨m, hm, hmember⟩ := exists_left_of_forall₂ hmembers ht
    obtain ⟨ds, rfl⟩ := hmember.head
    exact ⟨hmember.takes ((ih m hm).takes (hvalues m hm).opens), _, _, rfl, rfl, by decide⟩

/-- Every value that a text starts with is skipped with the fuel that the text has. -/
theorem IsValue.skipAny {text : List Char} (h : IsValue text) {gap : List Char} (hgap : IsGap gap)
    {rest : List Char} (hrest : Closes rest) (place : Place) :
    ∃ place', skipAny ⟨gap ++ (text ++ rest), place⟩ = .ok ⟨rest, place'⟩ := by
  refine h.skipped _ gap rest place ?_ hgap hrest
  simp only [List.length_append]
  omega

end ScatterPick.Json
