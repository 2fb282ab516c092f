import ScatterPick.Json.Typed

/-!
# Numbers between other text

A number that is read to the end of a text is read all the same from the front of a longer one,
provided that something follows that may stand after a value, and wherever it stands.
-/

namespace ScatterPick.Json

open Number

/-- What stands between two tokens. -/
def IsGap (cs : List Char) : Prop := cs.all Cursor.isGap = true

/-- The characters that may stand after a value: a comma, a closing bracket or a gap. -/
def closers : List Char := [',', ']', '\x7d', ' ', '\n', '\t', '\r']

/-- What may stand after a value: nothing, or something that starts with such a character. -/
def Closes (rest : List Char) : Prop := ∀ a, rest.head? = some a → a ∈ closers

/-- A result without the places in it. -/
def outcome {α : Type} : Except Failure (α × Cursor) → Except Problem (α × List Char)
  | .ok (a, c) => .ok (a, c.rest)
  | .error e => .error e.problem

theorem outcome_eq_ok {α : Type} {r : Except Failure (α × Cursor)} {a : α} {rest : List Char} :
    outcome r = .ok (a, rest) ↔ ∃ place, r = .ok (a, ⟨rest, place⟩) := by
  constructor
  · intro h
    cases r with
    | error e => cases h
    | ok p =>
      obtain ⟨b, c, place⟩ := p
      cases h
      exact ⟨place, rfl⟩
  · rintro ⟨place, rfl⟩
    rfl

theorem outcome_eq_error {α : Type} {r : Except Failure (α × Cursor)} {problem : Problem} :
    outcome r = .error problem ↔ ∃ e, r = .error e ∧ e.problem = problem := by
  constructor
  · intro h
    cases r with
    | error e => exact ⟨e, rfl, Except.error.inj h⟩
    | ok p => cases h
  · rintro ⟨e, rfl, rfl⟩
    rfl

namespace Closes

variable {rest : List Char}

theorem nil : Closes [] := fun _ h => by cases h

theorem cons {a : Char} (ha : a ∈ closers) : Closes (a :: rest) := fun _ h =>
  Option.some.inj h ▸ ha

/-- A gap may stand after a value, and before what may. -/
theorem gap_append {gap : List Char} (hgap : IsGap gap) (h : Closes rest) :
    Closes (gap ++ rest) := by
  cases gap with
  | nil => exact h
  | cons a gap =>
    refine .cons ?_
    have ha : Cursor.isGap a = true := List.all_eq_true.mp hgap a List.mem_cons_self
    simp only [Cursor.isGap, Bool.or_eq_true, decide_eq_true_eq] at ha
    rcases ha with ((rfl | rfl) | rfl) | rfl <;> decide

/-- What follows a value has none of the characters that go on with a number. -/
theorem head_not (h : Closes rest) (test : Char → Bool) (htest : closers.any test = false) :
    rest.head?.any test = false := by
  cases hrest : rest.head? with
  | none => rfl
  | some a => exact Bool.eq_false_iff.mpr (List.any_eq_false.mp htest a (h a hrest))

theorem takeWhile_append (h : Closes rest) (cs : List Char) :
    (cs ++ rest).takeWhile Char.isDigit = cs.takeWhile Char.isDigit := by
  induction cs with
  | nil =>
    have hdigit := h.head_not Char.isDigit (by decide)
    cases rest with
    | nil => rfl
    | cons a rest =>
      rw [List.nil_append, List.takeWhile_cons_of_neg (by simpa using hdigit)]
      rfl
  | cons a cs ih =>
    rw [List.cons_append, List.takeWhile_cons, List.takeWhile_cons, ih]

theorem not_atExponent (h : Closes rest) (place : Place) : atExponent ⟨rest, place⟩ = false := by
  have hletter := h.head_not (fun a => a = 'e' || a = 'E') (by decide)
  cases rest with
  | nil => rfl
  | cons a rest => exact hletter

end Closes

/-- Skipping no more than a text leaves what follows it. -/
theorem skip_append {cs : List Char} {n : Nat} (hn : n ≤ cs.length) (rest : List Char)
    (place : Place) :
    ∃ place', (⟨cs ++ rest, place⟩ : Cursor).skip n = ⟨cs.drop n ++ rest, place'⟩ := by
  refine ⟨place.atEnd ((cs ++ rest).take n), ?_⟩
  rw [Cursor.skip, List.drop_append_of_le_length hn]

section Append

variable {negative zero : Bool} {cs rest : List Char} {p q : Place}

theorem readExponent_append (hrest : Closes rest) {value : Nat} {e : Option Int}
    (h : readExponent zero negative value cs p = .ok (e, ⟨[], q⟩)) (p' : Place) :
    ∃ q', readExponent zero negative value (cs ++ rest) p' = .ok (e, ⟨rest, q'⟩) := by
  induction cs generalizing value p p' with
  | nil =>
    cases h
    cases rest with
    | nil => exact ⟨p', rfl⟩
    | cons a rest =>
      have hdigit := hrest.head_not Char.isDigit (by decide)
      refine ⟨p', ?_⟩
      rw [List.nil_append, readExponent, if_neg (by simpa using hdigit)]
  | cons d cs ih =>
    rw [readExponent] at h
    rw [List.cons_append, readExponent]
    by_cases hdigit : d.isDigit = true
    · simp only [if_pos hdigit] at h ⊢
      by_cases hbound : 10 * value + (d.toNat - '0'.toNat) ≤ exponentBound
      · simp only [if_pos hbound] at h ⊢
        exact ih h _
      · simp only [if_neg hbound] at h ⊢
        by_cases hlow : (zero || negative) = true
        · simp only [if_pos hlow] at h ⊢
          obtain ⟨he, hc⟩ := Prod.mk.inj (Except.ok.inj h)
          have hall : cs.drop (cs.takeWhile Char.isDigit).length = [] := congrArg Cursor.rest hc
          rw [hrest.takeWhile_append, ← he]
          obtain ⟨q', hskip⟩ := skip_append (List.takeWhile_prefix Char.isDigit).length_le rest
            (p'.after d)
          rw [hskip, hall]
          exact ⟨q', rfl⟩
        · simp only [if_neg hlow] at h
          cases h
    · simp only [if_neg hdigit] at h
      cases h

/-- A sign is skipped if something follows it within the text. -/
theorem skipSign_append {d : Char} {ds : List Char}
    (h : (skipSign ⟨cs, p⟩).2.rest = d :: ds) (rest : List Char) (p' : Place) :
    ∃ q', skipSign ⟨cs ++ rest, p'⟩ = ((skipSign ⟨cs, p⟩).1, ⟨d :: ds ++ rest, q'⟩) := by
  cases cs with
  | nil => cases h
  | cons a cs =>
    by_cases hminus : a = '-'
    · subst hminus
      obtain rfl : cs = d :: ds := h
      exact ⟨_, rfl⟩
    · by_cases hplus : a = '+'
      · subst hplus
        obtain rfl : cs = d :: ds := h
        exact ⟨_, rfl⟩
      · have hnone (cs : List Char) (p : Place) : skipSign ⟨a :: cs, p⟩ = (false, ⟨a :: cs, p⟩) := by
          rw [skipSign]
          split
          · rename_i heq
            exact absurd (List.cons.inj heq).1 hminus
          · rename_i heq
            exact absurd (List.cons.inj heq).1 hplus
          · rfl
        rw [hnone] at h ⊢
        have hcs : a :: cs = d :: ds := h
        rw [List.cons_append, hnone, ← List.cons_append, hcs]
        exact ⟨p', rfl⟩

theorem readExponentPart_append (hrest : Closes rest) {e : Option Int}
    (h : readExponentPart zero ⟨cs, p⟩ = .ok (e, ⟨[], q⟩)) (p' : Place) :
    ∃ q', readExponentPart zero ⟨cs ++ rest, p'⟩ = .ok (e, ⟨rest, q'⟩) := by
  cases cs with
  | nil =>
    cases h
    rw [List.nil_append, readExponentPart, if_neg (by rw [hrest.not_atExponent]; simp)]
    exact ⟨p', rfl⟩
  | cons a cs =>
    by_cases ha : atExponent ⟨a :: cs, p⟩ = true
    · have ha' : atExponent ⟨a :: cs ++ rest, p'⟩ = true := ha
      rw [readExponentPart, if_pos ha] at h
      rw [readExponentPart, if_pos ha']
      dsimp only at h ⊢
      cases hdigits : (skipSign (Cursor.advance ⟨a :: cs, p⟩)).2.rest with
      | nil =>
        simp only [hdigits] at h
        cases h
      | cons d ds =>
        obtain ⟨p'', hskip⟩ := skipSign_append hdigits rest (p'.after a)
        have hskip' : skipSign (Cursor.advance ⟨a :: cs ++ rest, p'⟩) = _ := hskip
        simp only [hdigits] at h
        rw [hskip']
        by_cases hd : d.isDigit = true
        · simp only [List.cons_append, if_pos hd] at h ⊢
          exact readExponent_append hrest h _
        · simp only [if_neg hd] at h
          cases h
    · rw [readExponentPart, if_neg ha] at h
      cases h

/-- The numeral of given parts does not depend on where they were read. -/
theorem finishFraction_of_ok {whole fraction : List Char} {c : Cursor} {e : Option Int}
    {n : Numeral} (h : finishFraction negative whole fraction c e = .ok n) (c' : Cursor) :
    finishFraction negative whole fraction c' e = .ok n := by
  cases e with
  | none => exact h
  | some e =>
    simp only [finishFraction] at h ⊢
    split at h
    · rename_i hfinite
      rw [if_pos hfinite]
      exact h
    · cases h

/-- An exponent and what is made of it, at the end of a numeral. -/
theorem finish_append (hrest : Closes rest) {whole fraction : List Char} {n : Numeral}
    (h : (do
      let (e, c) ← readExponentPart zero ⟨cs, p⟩
      return (← finishFraction negative whole fraction c e, c)) = .ok (n, ⟨[], q⟩)) (p' : Place) :
    ∃ q', (do
      let (e, c) ← readExponentPart zero ⟨cs ++ rest, p'⟩
      return (← finishFraction negative whole fraction c e, c)) = .ok (n, ⟨rest, q'⟩) := by
  cases hpart : readExponentPart zero ⟨cs, p⟩ with
  | error e =>
    rw [hpart] at h
    cases h
  | ok part =>
    obtain ⟨e, c⟩ := part
    rw [hpart] at h
    cases hfinish : finishFraction negative whole fraction c e with
    | error e =>
      simp only [bind, Except.bind, hfinish] at h
      cases h
    | ok m =>
      simp only [bind, Except.bind, hfinish] at h
      obtain ⟨rfl, rfl⟩ := Prod.mk.inj (Except.ok.inj h)
      obtain ⟨q', hpart'⟩ := readExponentPart_append hrest hpart p'
      refine ⟨q', ?_⟩
      rw [hpart']
      simp only [bind, Except.bind, finishFraction_of_ok hfinish]
      rfl

/-- What is made of digits with neither a point nor an exponent after them. -/
def readWhole (negative : Bool) (whole : List Char) : Reader Numeral := fun c =>
  match wholeNumeral negative whole with
  | .fraction value =>
    if value.isFinite then .ok (.fraction value, c) else .error (c.fail .numberTooLarge)
  | .integer value => .ok (.integer value, c)

/-- Nothing more is read, wherever that is. -/
theorem readWhole_of_ok {whole : List Char} {n : Numeral} {c c' : Cursor}
    (h : readWhole negative whole c = .ok (n, c')) :
    c' = c ∧ ∀ d, readWhole negative whole d = .ok (n, d) := by
  simp only [readWhole] at h ⊢
  cases hwhole : wholeNumeral negative whole with
  | integer value =>
    simp only [hwhole] at h ⊢
    obtain ⟨rfl, rfl⟩ := Prod.mk.inj (Except.ok.inj h)
    exact ⟨rfl, fun d => rfl⟩
  | fraction value =>
    simp only [hwhole] at h ⊢
    split at h
    · rename_i hfinite
      obtain ⟨rfl, rfl⟩ := Prod.mk.inj (Except.ok.inj h)
      exact ⟨rfl, fun d => if_pos hfinite⟩
    · cases h

/-- What follows the digits where there is no point. -/
theorem readFraction_of_no_point {whole : List Char} {c : Cursor}
    (hpoint : c.rest.head? ≠ some '.') :
    readFraction negative whole c =
      if atExponent c then do
        let (e, c) ← readExponentPart (ofDigits whole == 0) c
        return (← finishFraction negative whole [] c e, c)
      else readWhole negative whole c := by
  rw [readFraction]
  split
  · rename_i rest hrest
    rw [hrest] at hpoint
    exact absurd rfl hpoint
  · split
    · rfl
    · rw [readWhole]
      cases wholeNumeral negative whole <;> rfl

theorem readFraction_append (hrest : Closes rest) {whole : List Char} {n : Numeral}
    (h : readFraction negative whole ⟨cs, p⟩ = .ok (n, ⟨[], q⟩)) (p' : Place) :
    ∃ q', readFraction negative whole ⟨cs ++ rest, p'⟩ = .ok (n, ⟨rest, q'⟩) := by
  by_cases hpoint : cs.head? = some '.'
  · obtain ⟨cs, rfl⟩ := List.head?_eq_some_iff.mp hpoint
    simp only [readFraction, List.cons_append, Cursor.advance, hrest.takeWhile_append] at h ⊢
    obtain ⟨p'', hskip⟩ := skip_append (List.takeWhile_prefix Char.isDigit).length_le rest
      (p'.after '.')
    rw [hskip]
    by_cases hempty : (cs.takeWhile Char.isDigit).isEmpty = true
    · rw [if_pos hempty] at h
      cases h
    · rw [if_neg hempty] at h ⊢
      exact finish_append hrest h p''
  · have hpoint' : (cs ++ rest).head? ≠ some '.' := by
      cases cs with
      | nil =>
        intro hdot
        have hhead := hrest.head_not (· == '.') (by decide)
        rw [List.nil_append] at hdot
        rw [hdot] at hhead
        cases hhead
      | cons a cs => exact hpoint
    rw [readFraction_of_no_point hpoint] at h
    rw [readFraction_of_no_point hpoint']
    by_cases hexp : atExponent ⟨cs, p⟩ = true
    · have hexp' : atExponent ⟨cs ++ rest, p'⟩ = true := by
        cases cs with
        | nil => cases hexp
        | cons a cs => exact hexp
      rw [if_pos hexp] at h
      rw [if_pos hexp']
      exact finish_append hrest h p'
    · rw [if_neg hexp] at h
      obtain ⟨hcursor, hwhole⟩ := readWhole_of_ok h
      obtain rfl : [] = cs := congrArg Cursor.rest hcursor
      rw [List.nil_append, if_neg (by rw [hrest.not_atExponent]; simp)]
      exact ⟨p', hwhole _⟩

/-- How a numeral is read that does not start with a zero. -/
theorem readUnsigned_of_ne_zero {d : Char} (hd : d ≠ '0') :
    readUnsigned negative ⟨d :: cs, p⟩ =
      if d.isDigit then
        readFraction negative ((d :: cs).takeWhile Char.isDigit)
          (Cursor.skip ⟨d :: cs, p⟩ ((d :: cs).takeWhile Char.isDigit).length)
      else .error (Cursor.failNext ⟨d :: cs, p⟩ .wrongNumber) := by
  rw [readUnsigned]
  split
  · rename_i h
    cases h
  · rename_i h
    exact absurd (List.cons.inj h).1 hd
  · rename_i h
    obtain ⟨rfl, -⟩ := List.cons.inj h
    rfl

/-- A zero is followed by no digit. -/
theorem readUnsigned_zero :
    readUnsigned negative ⟨'0' :: cs, p⟩ =
      if cs.head?.any Char.isDigit then
        .error ((Cursor.advance ⟨'0' :: cs, p⟩).failNext .wrongNumber)
      else readFraction negative ['0'] (Cursor.advance ⟨'0' :: cs, p⟩) := by
  cases cs with
  | nil => rfl
  | cons d cs => rfl

theorem readUnsigned_append (hrest : Closes rest) {n : Numeral}
    (h : readUnsigned negative ⟨cs, p⟩ = .ok (n, ⟨[], q⟩)) (p' : Place) :
    ∃ q', readUnsigned negative ⟨cs ++ rest, p'⟩ = .ok (n, ⟨rest, q'⟩) := by
  cases cs with
  | nil => cases h
  | cons d cs =>
    rw [List.cons_append]
    by_cases hd : d = '0'
    · subst hd
      have hnext : (cs ++ rest).head?.any Char.isDigit = cs.head?.any Char.isDigit := by
        cases cs with
        | nil => exact hrest.head_not Char.isDigit (by decide)
        | cons a cs => rfl
      rw [readUnsigned_zero] at h ⊢
      rw [hnext]
      split at h
      · cases h
      · rename_i hdigit
        rw [if_neg hdigit]
        exact readFraction_append hrest h _
    · rw [readUnsigned_of_ne_zero hd] at h ⊢
      by_cases hdigit : d.isDigit = true
      · rw [if_pos hdigit] at h ⊢
        rw [← List.cons_append, hrest.takeWhile_append]
        obtain ⟨p'', hskip⟩ := skip_append
          (List.takeWhile_prefix (l := d :: cs) Char.isDigit).length_le rest p'
        rw [hskip]
        exact readFraction_append hrest h _
      · rw [if_neg hdigit] at h
        cases h

end Append

/-! ## Values -/

/-- Whatever gap stands before a text and whatever may stand after a value follows it, reading from
the text has a result and goes no further. -/
def Yields {α : Type} (read : Reader α) (text : List Char) (result : Except Problem α) : Prop :=
  ∀ gap rest place, IsGap gap → Closes rest →
    outcome (read ⟨gap ++ (text ++ rest), place⟩) = result.map fun a => (a, rest)

theorem skipGap_eq (c : Cursor) : ∃ place, c.skipGap = ⟨c.rest.dropWhile Cursor.isGap, place⟩ := by
  have hdrop :
      c.rest.drop (c.rest.takeWhile Cursor.isGap).length = c.rest.dropWhile Cursor.isGap := by
    conv =>
      lhs
      arg 2
      rw [← List.takeWhile_append_dropWhile (p := Cursor.isGap) (l := c.rest)]
    exact List.drop_left
  exact ⟨_, by rw [Cursor.skipGap, Cursor.skip, hdrop]⟩

/-- After a gap there is none. -/
theorem skipGap_skipGap (c : Cursor) : c.skipGap.skipGap = c.skipGap := by
  obtain ⟨place, h⟩ := skipGap_eq c
  rw [h]
  have hnone : (c.rest.dropWhile Cursor.isGap).takeWhile Cursor.isGap = [] := by
    have hhead := List.head?_dropWhile_not Cursor.isGap c.rest
    cases hrest : c.rest.dropWhile Cursor.isGap with
    | nil => rfl
    | cons a rest =>
      rw [hrest] at hhead
      rw [List.takeWhile_cons_of_neg (by simpa using hhead)]
  rw [Cursor.skipGap, hnone]
  rfl

/-- A gap is skipped up to the text after it. -/
theorem skipGap_append {gap : List Char} (hgap : IsGap gap) (cs : List Char)
    (hcs : cs.dropWhile Cursor.isGap ≠ []) (rest : List Char) (place : Place) :
    ∃ place', Cursor.skipGap ⟨gap ++ (cs ++ rest), place⟩ =
      ⟨cs.dropWhile Cursor.isGap ++ rest, place'⟩ := by
  obtain ⟨place', h⟩ := skipGap_eq ⟨gap ++ (cs ++ rest), place⟩
  refine ⟨place', ?_⟩
  rw [h, List.dropWhile_append_of_pos (List.all_eq_true.mp hgap), List.dropWhile_append,
    if_neg (by rwa [List.isEmpty_iff])]

/-- The text of a number that a reader takes back to the number. -/
def ReadsBack {α : Type} (read : Reader α) (text : String) (a : α) : Prop :=
  ∃ place, read (.ofText text) = .ok (a, ⟨[], place⟩)

theorem readsBack_iff {α : Type} {read : Reader α} {text : String} {a : α} :
    ReadsBack read text a ↔ (read (.ofText text)).toOption.any (fun p => p.2.rest.isEmpty) = true ∧
      (read (.ofText text)).toOption.map (·.1) = some a := by
  rw [ReadsBack]
  cases read (.ofText text) with
  | error e => simp [Except.toOption]
  | ok p =>
    obtain ⟨b, rest, place⟩ := p
    simp [Except.toOption, and_comm]

instance {α : Type} [DecidableEq α] (read : Reader α) (text : String) (a : α) :
    Decidable (ReadsBack read text a) :=
  decidable_of_iff _ readsBack_iff.symm

section Number

variable {α : Type} {wanted : Wanted} {take : Numeral → Except Mismatch α}

/-- Reads a numeral after its sign, and takes what is wanted of it. -/
def takeNumeral (take : Numeral → Except Mismatch α) (negative : Bool) : Reader α := fun c => do
  let (n, c) ← readUnsigned negative c
  match take n with
  | .ok a => .ok (a, c)
  | .error cause => .error (c.mismatch cause)

theorem readNumber_eq {c : Cursor} {d : Char} {ds : List Char} {p : Place}
    (h : c.skipGap = ⟨d :: ds, p⟩) :
    readNumber wanted take c =
      if d = '-' then takeNumeral take true (Cursor.advance ⟨d :: ds, p⟩)
      else if d.isDigit then takeNumeral take false ⟨d :: ds, p⟩
      else .error (unexpected wanted ⟨d :: ds, p⟩) := by
  rw [readNumber, h]
  simp only [Cursor.peek, List.head?_cons]
  split
  · rename_i h
    cases h
  · rename_i h
    rw [if_pos (Option.some.inj h)]
    rfl
  · rename_i a hminus h
    obtain rfl := Option.some.inj h
    rw [if_neg hminus]
    rfl

theorem takeNumeral_append {negative : Bool} {cs rest : List Char} {p q : Place} {a : α}
    (hrest : Closes rest) (h : takeNumeral take negative ⟨cs, p⟩ = .ok (a, ⟨[], q⟩)) (p' : Place) :
    ∃ q', takeNumeral take negative ⟨cs ++ rest, p'⟩ = .ok (a, ⟨rest, q'⟩) := by
  rw [takeNumeral] at h
  cases hn : readUnsigned negative ⟨cs, p⟩ with
  | error e =>
    rw [hn] at h
    cases h
  | ok m =>
    obtain ⟨n, c⟩ := m
    rw [hn] at h
    cases ht : take n with
    | error cause =>
      simp only [bind, Except.bind, ht] at h
      cases h
    | ok b =>
      simp only [bind, Except.bind, ht] at h
      obtain ⟨rfl, rfl⟩ := Prod.mk.inj (Except.ok.inj h)
      obtain ⟨q', hn'⟩ := readUnsigned_append hrest hn p'
      refine ⟨q', ?_⟩
      rw [takeNumeral, hn']
      simp only [bind, Except.bind, ht]

/-- A number that is read back from a whole text is read from its place among others. -/
theorem yields_number {text : String} {a : α} (h : ReadsBack (readNumber wanted take) text a) :
    Yields (readNumber wanted take) text.toList (.ok a) := by
  obtain ⟨q, h⟩ := h
  intro gap rest place hgap hrest
  obtain ⟨p, hp⟩ := skipGap_eq (.ofText text)
  have hwhole : (Cursor.ofText text).rest = text.toList := rfl
  rw [hwhole] at hp
  cases hcs : text.toList.dropWhile Cursor.isGap with
  | nil =>
    rw [hcs] at hp
    rw [readNumber, hp] at h
    cases h
  | cons d cs =>
    obtain ⟨p', hp'⟩ := skipGap_append hgap text.toList
      (by rw [hcs]; exact List.cons_ne_nil d cs) rest place
    rw [hcs] at hp hp'
    rw [readNumber_eq hp] at h
    rw [readNumber_eq hp']
    refine outcome_eq_ok.mpr ?_
    by_cases hminus : d = '-'
    · rw [if_pos hminus] at h ⊢
      exact takeNumeral_append hrest h (p'.after d)
    · rw [if_neg hminus] at h ⊢
      split at h
      · rename_i hdigit
        rw [if_pos hdigit]
        exact takeNumeral_append hrest h p'
      · cases h

/-- Null is no number, and is reported by its name. -/
theorem yields_null : Yields (readNumber wanted take) "null".toList
    (.error (.mismatch (.kind (.null "null") wanted))) := by
  intro gap rest place hgap _
  obtain ⟨p, hp⟩ := skipGap_append hgap "null".toList (by decide) rest place
  rw [readNumber_eq hp]
  rfl

/-- A gap in front of a number is skipped once and for all. -/
theorem readNumber_skipGap (c : Cursor) :
    readNumber wanted take c.skipGap = readNumber wanted take c := by
  rw [readNumber, skipGap_skipGap]
  rfl

end Number

/-- Every number from 0 to 255 is read back. -/
theorem readsBack_byte (n : UInt8) : ReadsBack readByte (toString n.toNat) n := by
  have hall : ∀ n : Fin 256,
      (outcome (readByte ⟨Nat.toDigits 10 n.val, ⟨1, 0⟩⟩)).toOption =
        some (UInt8.ofNat n, []) := by
    decide +kernel
  have hdigits : (toString n.toNat).toList = Nat.toDigits 10 n.toNat := by simp [toString]
  have hn := hall ⟨n.toNat, n.toNat_lt⟩
  simp only [UInt8.ofNat_toNat] at hn
  rw [ReadsBack, Cursor.ofText, hdigits]
  refine outcome_eq_ok.mp ?_
  cases h : outcome (readByte ⟨Nat.toDigits 10 n.toNat, ⟨1, 0⟩⟩) with
  | error e =>
    rw [h] at hn
    cases hn
  | ok r =>
    rw [h] at hn
    rw [Option.some.inj hn]

/-- Where null may stand, a number is still read as a number. -/
theorem yields_optional {text : String} {x : Float32} (h : ReadsBack readSingle text x) :
    Yields readOptional text.toList (.ok (some x)) := by
  intro gap rest place hgap hrest
  have hsingle : Yields readSingle text.toList (.ok x) := yields_number h
  obtain ⟨q, hread⟩ := outcome_eq_ok.mp (hsingle gap rest place hgap hrest)
  have hpeek : (Cursor.skipGap ⟨gap ++ (text.toList ++ rest), place⟩).peek ≠ some 'n' := by
    intro hn
    cases hskip : Cursor.skipGap ⟨gap ++ (text.toList ++ rest), place⟩ with
    | mk left p =>
      rw [hskip] at hn
      obtain ⟨ds, hds⟩ := List.head?_eq_some_iff.mp hn
      obtain rfl : left = 'n' :: ds := hds
      have hnumber : readSingle ⟨gap ++ (text.toList ++ rest), place⟩ = _ := readNumber_eq hskip
      rw [hnumber] at hread
      cases hread
  have hskipped : readSingle (Cursor.skipGap ⟨gap ++ (text.toList ++ rest), place⟩) = _ :=
    (readNumber_skipGap _).trans hread
  rw [readOptional, if_neg hpeek, hskipped]
  rfl

theorem yields_optional_null : Yields readOptional "null".toList (.ok none) := by
  intro gap rest place hgap _
  obtain ⟨p, hp⟩ := skipGap_append hgap "null".toList (by decide) rest place
  rw [readOptional, hp]
  rfl

end ScatterPick.Json
