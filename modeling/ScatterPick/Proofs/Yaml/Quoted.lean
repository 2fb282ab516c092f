import ScatterPick.Proofs.Yaml.Cursor
import ScatterPick.Yaml.Printer

/-!
# Scanning quoted scalars

A quoted scalar is scanned word by word. A gap inside of it is kept if it consists of spaces only,
or of separators that folding leaves alone.
-/

namespace ScatterPick.Yaml

/-- The closing quote. -/
def quote (single : Bool) : Char := if single then '\'' else '"'

/-- A character is scanned from the way in which it is written. -/
structure ScansAs (single : Bool) (write : Char → List Char) (c : Char) : Prop where
  head : (write c).head?.any (!isGap ·) = true
  step : ∀ (text rest : List Char) (m : Mark) (fuel : Nat),
    scanQuotedWord single text (fuel + 1) ⟨write c ++ rest, m⟩ =
      scanQuotedWord single (c :: text) fuel ⟨rest, m.plus (write c).length⟩

/-- Whether a character separates lines or paragraphs without being folded. -/
def isSeparator (c : Char) : Bool := c = '\u2028' || c = '\u2029'

/-- A text, and how it is written between quotes. Words and gaps take turns; after a gap of
separators comes the indentation of the next line. -/
inductive QuotedText (single : Bool) (write : Char → List Char) : List Char → List Char → Prop where
  | word {w : List Char} (hw : ∀ c ∈ w, ScansAs single write c) :
    QuotedText single write w (w.flatMap write)
  | spaced {w : List Char} (hw : ∀ c ∈ w, ScansAs single write c) (n : Nat)
      {rest written : List Char} (hhead : written.head?.all (!isGap ·) = true)
      (hrest : QuotedText single write rest written) :
    QuotedText single write (w ++ (List.replicate (n + 1) ' ' ++ rest))
      (w.flatMap write ++ (List.replicate (n + 1) ' ' ++ written))
  | separated {w : List Char} (hw : ∀ c ∈ w, ScansAs single write c) {b : Char} {bs : List Char}
      (hb : isSeparator b = true) (hbs : bs.all isSeparator = true) {rest written : List Char}
      (hhead : written.head?.all (!isGap ·) = true) (hrest : QuotedText single write rest written) :
    QuotedText single write (w ++ (b :: bs ++ rest))
      (w.flatMap write ++ (b :: bs ++ (lineIndent ++ written)))

/-! ## Words -/

theorem length_le_written {single : Bool} {write : Char → List Char} {w : List Char}
    (hw : ∀ c ∈ w, ScansAs single write c) : w.length ≤ (w.flatMap write).length := by
  induction w with
  | nil => exact Nat.le_refl _
  | cons c w ih =>
    have hpos : 0 < (write c).length := by
      have hhead := (hw c List.mem_cons_self).head
      cases hc : write c with
      | nil =>
        rw [hc] at hhead
        cases hhead
      | cons a tail => exact Nat.succ_pos _
    have hle := ih fun d hd => hw d (List.mem_cons_of_mem _ hd)
    rw [List.flatMap_cons, List.length_append, List.length_cons]
    omega

/-- A word is scanned character by character. -/
theorem scanQuotedWord_append {single : Bool} {write : Char → List Char} {w : List Char}
    (hw : ∀ c ∈ w, ScansAs single write c) (text rest : List Char) (m : Mark) {fuel : Nat}
    (hfuel : w.length ≤ fuel) :
    scanQuotedWord single text fuel ⟨w.flatMap write ++ rest, m⟩ =
      scanQuotedWord single (w.reverse ++ text) (fuel - w.length)
        ⟨rest, m.plus (w.flatMap write).length⟩ := by
  induction w generalizing text m fuel with
  | nil => rfl
  | cons c w ih =>
    rw [List.length_cons] at hfuel
    obtain ⟨fuel, rfl⟩ : ∃ f, fuel = f + 1 := ⟨fuel - 1, by omega⟩
    rw [List.flatMap_cons, List.append_assoc, (hw c List.mem_cons_self).step,
      ih (fun d hd => hw d (List.mem_cons_of_mem _ hd)) _ _ (by omega)]
    simp [Mark.plus_plus]

/-- Whether a word between quotes ends in front of some characters. -/
def endsQuotedWord (single : Bool) : List Char → Bool
  | [] => false
  | a :: rest => isGap a || (a = quote single && (!single || rest.head? != some '\''))

theorem scanQuotedWord_end {single : Bool} {rest : List Char}
    (h : endsQuotedWord single rest = true) (text : List Char) (m : Mark) (fuel : Nat) :
    scanQuotedWord single text (fuel + 1) ⟨rest, m⟩ = some (text.reverse, false, ⟨rest, m⟩) := by
  cases rest with
  | nil => cases h
  | cons a rest =>
    simp only [endsQuotedWord, Bool.or_eq_true, Bool.and_eq_true, decide_eq_true_eq] at h
    cases hgap : isGap a with
    | true => simp [scanQuotedWord, hgap]
    | false =>
      have ha := h.resolve_left (by rw [hgap]; simp)
      cases single with
      | true =>
        have hnext : rest.head? ≠ some '\'' := by simpa using ha.2
        simp [scanQuotedWord, ha.1, quote, hnext]
      | false => simp [scanQuotedWord, ha.1, quote]

/-! ## Gaps of separators -/

/-- The only gap that is written as it stands inside of a line is a space. -/
theorem eq_space_of_printable {c : Char} (hprintable : isPrintable c = true)
    (hbreak : isBreak c = false) (hgap : isGap c = true) : c = ' ' := by
  simp only [isGap, isBlank, hbreak, Bool.or_false, Bool.or_eq_true, decide_eq_true_eq] at hgap
  rcases hgap with rfl | rfl
  · rfl
  · cases hprintable

theorem isSeparator_cases {b : Char} (h : isSeparator b = true) : b = '\u2028' ∨ b = '\u2029' := by
  simpa [isSeparator] using h

/-- Separators in a gap that has a break already. -/
theorem scanGap_more {bs : List Char} (hbs : bs.all isSeparator = true) {rest : List Char}
    (hrest : rest.head?.all (!isGap ·) = true) {g : Gap} (hg : g.broken = true) (m : Mark)
    {fuel : Nat} (hfuel : bs.length + lineIndent.length < fuel) :
    ∃ m', m'.column ≠ 0 ∧ scanGap (fun _ => true) g fuel ⟨bs ++ (lineIndent ++ rest), m⟩ =
      some ({ g with more := g.more ++ bs }, ⟨rest, m'⟩) := by
  induction bs generalizing g m fuel with
  | nil =>
    refine ⟨m.plus 4, by simp, ?_⟩
    rw [List.append_nil]
    exact scanGap_indent _ hg 4 hrest m hfuel
  | cons b bs ih =>
    rw [List.all_cons, Bool.and_eq_true] at hbs
    rw [List.length_cons] at hfuel
    obtain ⟨fuel, rfl⟩ : ∃ f, fuel = f + 1 := ⟨fuel - 1, by omega⟩
    have hstep : scanGap (fun _ => true) g (fuel + 1) ⟨b :: bs ++ (lineIndent ++ rest), m⟩ =
        scanGap (fun _ => true) { g with more := g.more ++ [b] } fuel
          ⟨bs ++ (lineIndent ++ rest), m.nextLine 1⟩ := by
      rcases isSeparator_cases hbs.1 with rfl | rfl <;>
        simp [scanGap, Cursor.peek, isBlank, isBreak, Cursor.takeBreak, hg]
    have hrestFuel : bs.length + lineIndent.length < fuel := by omega
    obtain ⟨m', hcolumn, hscan⟩ := ih hbs.2 (g := { g with more := g.more ++ [b] }) hg
      (m.nextLine 1) hrestFuel
    refine ⟨m', hcolumn, ?_⟩
    rw [hstep, hscan, List.append_assoc]
    rfl

/-- Separators stay what they are, and the indentation after them is left out. -/
theorem scanGap_separators {b : Char} {bs : List Char} (hb : isSeparator b = true)
    (hbs : bs.all isSeparator = true) {rest : List Char}
    (hrest : rest.head?.all (!isGap ·) = true) (m : Mark) {fuel : Nat}
    (hfuel : (b :: bs).length + lineIndent.length < fuel) :
    ∃ m', m'.column ≠ 0 ∧ ∃ g : Gap, g.fold = b :: bs ∧
      scanGap (fun _ => true) {} fuel ⟨b :: bs ++ (lineIndent ++ rest), m⟩ =
        some (g, ⟨rest, m'⟩) := by
  rw [List.length_cons] at hfuel
  obtain ⟨fuel, rfl⟩ : ∃ f, fuel = f + 1 := ⟨fuel - 1, by omega⟩
  have hstep : scanGap (fun _ => true) {} (fuel + 1) ⟨b :: bs ++ (lineIndent ++ rest), m⟩ =
      scanGap (fun _ => true) { first := [b], broken := true } fuel
        ⟨bs ++ (lineIndent ++ rest), m.nextLine 1⟩ := by
    rcases isSeparator_cases hb with rfl | rfl <;> rfl
  have hrestFuel : bs.length + lineIndent.length < fuel := by omega
  obtain ⟨m', hcolumn, hscan⟩ := scanGap_more hbs hrest (g := { first := [b], broken := true }) rfl
    (m.nextLine 1) hrestFuel
  refine ⟨m', hcolumn, _, ?_, hstep.trans hscan⟩
  rcases isSeparator_cases hb with rfl | rfl <;> rfl

/-! ## Whole scalars -/

/-- The first word of a quoted scalar with the gap after it. -/
theorem scanQuoted_word {single : Bool} {write : Char → List Char} {w : List Char}
    (hw : ∀ c ∈ w, ScansAs single write c) {rest : List Char}
    (hends : endsQuotedWord single rest = true) (text : List Char) {m : Mark}
    (hcolumn : m.column ≠ 0) {fuel : Nat} (hfuel : w.length < fuel) :
    scanQuoted single text (fuel + 1) ⟨w.flatMap write ++ rest, m⟩ =
      if Cursor.sees ⟨rest, m.plus (w.flatMap write).length⟩ (quote single) then
        some ⟨text ++ w, ⟨rest.tail, (m.plus (w.flatMap write).length).next⟩, false⟩
      else
        (scanGap (fun _ => true) {} (fuel + 1) ⟨rest, m.plus (w.flatMap write).length⟩).bind
          fun (gap, c) => scanQuoted single (text ++ w ++ gap.fold) fuel c := by
  obtain ⟨a, tail, rfl⟩ : ∃ a tail, rest = a :: tail := by
    cases rest with
    | nil => cases hends
    | cons a tail => exact ⟨a, tail, rfl⟩
  have hword : scanQuotedWord single [] (fuel + 1) ⟨w.flatMap write ++ a :: tail, m⟩ =
      some (w, false, ⟨a :: tail, m.plus (w.flatMap write).length⟩) := by
    obtain ⟨k, hk⟩ : ∃ k, fuel + 1 - w.length = k + 1 := ⟨fuel - w.length, by omega⟩
    rw [scanQuotedWord_append hw _ _ _ (by omega), hk, scanQuotedWord_end hends]
    simp
  have hrule : Cursor.atDocumentRule ⟨w.flatMap write ++ a :: tail, m⟩ = false :=
    Cursor.atDocumentRule_of_column hcolumn
  have hne : (w.flatMap write ++ a :: tail).isEmpty = false := by simp
  rw [scanQuoted]
  simp only [hrule, hne, Bool.false_eq_true, if_false, hword, bind, Option.bind, pure, quote]
  rfl

/-- A gap does not start with a quote. -/
theorem quote_ne_of_isGap {a : Char} (h : isGap a = true) (single : Bool) : a ≠ quote single := by
  rintro rfl
  cases single <;> cases h

/-- A word in front of a gap is taken with what the gap stands for. -/
theorem scanQuoted_gap {single : Bool} {write : Char → List Char} {w : List Char}
    (hw : ∀ c ∈ w, ScansAs single write c) {a : Char} (ha : isGap a = true) {rest : List Char}
    (text : List Char) {m : Mark} (hcolumn : m.column ≠ 0) {fuel : Nat} (hfuel : w.length < fuel)
    {g : Gap} {c : Cursor} (hscan : scanGap (fun _ => true) {} (fuel + 1)
      ⟨a :: rest, m.plus (w.flatMap write).length⟩ = some (g, c)) :
    scanQuoted single text (fuel + 1) ⟨w.flatMap write ++ a :: rest, m⟩ =
      scanQuoted single (text ++ w ++ g.fold) fuel c := by
  have hquote : Cursor.sees ⟨a :: rest, m.plus (w.flatMap write).length⟩ (quote single) = false := by
    simp [Cursor.sees, Cursor.peek, quote_ne_of_isGap ha single]
  rw [scanQuoted_word hw (by simp [endsQuotedWord, ha]) text hcolumn hfuel, hquote,
    if_neg Bool.false_ne_true, hscan]
  rfl

/-- A quoted text is scanned up to the character after its closing quote. -/
theorem scanQuoted_text {single : Bool} {write : Char → List Char} {cs written : List Char}
    (h : QuotedText single write cs written) (text : List Char) {rest : List Char}
    (hrest : rest.head? ≠ some '\'') {m : Mark} (hcolumn : m.column ≠ 0) {fuel : Nat}
    (hfuel : (written ++ quote single :: rest).length < fuel) :
    ∃ m', scanQuoted single text fuel ⟨written ++ quote single :: rest, m⟩ =
      some ⟨text ++ cs, ⟨rest, m'⟩, false⟩ := by
  have hstop {written : List Char} (hhead : written.head?.all (!isGap ·) = true) :
      (written ++ quote single :: rest).head?.all (!isGap ·) = true := by
    cases written with
    | nil => cases single <;> rfl
    | cons a tail => exact hhead
  induction h generalizing text m fuel with
  | @word w hw =>
    have hle := length_le_written hw
    have hclose : endsQuotedWord single (quote single :: rest) = true := by
      cases single <;> simp [endsQuotedWord, hrest]
    rw [List.length_append, List.length_cons] at hfuel
    obtain ⟨fuel, rfl⟩ : ∃ f, fuel = f + 1 := ⟨fuel - 1, by omega⟩
    refine ⟨(m.plus (w.flatMap write).length).next, ?_⟩
    rw [scanQuoted_word hw hclose _ hcolumn (by omega), if_pos (by simp [Cursor.sees, Cursor.peek])]
    rfl
  | @spaced w hw n inner written hhead _ ih =>
    have hle := length_le_written hw
    simp only [List.length_append, List.length_cons, List.length_replicate] at hfuel
    obtain ⟨fuel, rfl⟩ : ∃ f, fuel = f + 1 := ⟨fuel - 1, by omega⟩
    have hword : w.length < fuel := by omega
    have hgap : n + 1 < fuel + 1 := by omega
    have hinner : (written ++ quote single :: rest).length < fuel := by
      rw [List.length_append, List.length_cons]
      omega
    have hscan := scanGap_spaces (fun _ => true) [] (n + 1) (hstop hhead)
      (m.plus (w.flatMap write).length) hgap
    obtain ⟨m', hrest⟩ := ih (text ++ w ++ List.replicate (n + 1) ' ')
      (m := (m.plus (w.flatMap write).length).plus (n + 1)) (by simp) hinner
    refine ⟨m', ?_⟩
    rw [List.append_assoc, List.append_assoc]
    refine (scanQuoted_gap hw (a := ' ') rfl text hcolumn hword hscan).trans ?_
    rw [← List.append_assoc text, ← List.append_assoc (text ++ w)]
    exact hrest
  | @separated w hw b bs hb hbs inner written hhead _ ih =>
    have hle := length_le_written hw
    simp only [List.length_append, List.length_cons] at hfuel
    obtain ⟨fuel, rfl⟩ : ∃ f, fuel = f + 1 := ⟨fuel - 1, by omega⟩
    have hword : w.length < fuel := by omega
    have hgap : (b :: bs).length + lineIndent.length < fuel + 1 := by
      rw [List.length_cons]
      omega
    have hinner : (written ++ quote single :: rest).length < fuel := by
      rw [List.length_append, List.length_cons]
      omega
    have hbreak : isGap b = true := by
      rcases isSeparator_cases hb with rfl | rfl <;> rfl
    obtain ⟨m', hcolumn', gap, hfold, hscan⟩ := scanGap_separators hb hbs (hstop hhead)
      (m.plus (w.flatMap write).length) hgap
    obtain ⟨m'', hrest⟩ := ih (text ++ w ++ (b :: bs)) hcolumn' hinner
    refine ⟨m'', ?_⟩
    rw [List.append_assoc, List.append_assoc, List.append_assoc]
    refine (scanQuoted_gap hw hbreak text hcolumn hword hscan).trans ?_
    rw [hfold, ← List.append_assoc text, ← List.append_assoc (text ++ w)]
    exact hrest

end ScatterPick.Yaml
