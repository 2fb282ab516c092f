import ScatterPick.Proofs.Text.Runs
import ScatterPick.Proofs.Yaml.Quoted

/-!
# Scanning literal blocks

A literal block keeps its lines and the breaks between them. Every line with text is indented as
deep as the writer indents it, and what is indented less does not belong to the block.
-/

namespace ScatterPick.Yaml

/-- Whether a character ends a line of a literal block and stays what it is. -/
def isKeptBreak (c : Char) : Bool := c = '\n' || isSeparator c

theorem isKeptBreak_cases {b : Char} (h : isKeptBreak b = true) :
    b = '\n' ∨ b = '\u2028' ∨ b = '\u2029' := by
  simpa [isKeptBreak, isSeparator] using h

theorem isBreak_of_kept {b : Char} (h : isKeptBreak b = true) : isBreak b = true := by
  rcases isKeptBreak_cases h with rfl | rfl | rfl <;> rfl

theorem takeBreak_kept {b : Char} (h : isKeptBreak b = true) (rest : List Char) (m : Mark) :
    Cursor.takeBreak ⟨b :: rest, m⟩ = ([b], ⟨rest, m.nextLine 1⟩) := by
  rcases isKeptBreak_cases h with rfl | rfl | rfl <;> rfl

/-! ## Between lines -/

/-- Some spaces at the start of a line of which the block takes all: either they are its
indentation, or the line is indented less and does not belong to it. -/
structure BlockIndent (j : Nat) (rest : List Char) : Prop where
  le : j ≤ 4
  outside : j < 4 → lineStart rest = true
  head : rest.head?.all (!isBreak ·) = true

theorem BlockIndent.outer {j : Nat} (hj : j < 4) {line : List Char} (h : lineStart line = true) :
    BlockIndent j line := by
  refine ⟨by omega, fun _ => h, ?_⟩
  cases line with
  | nil => rfl
  | cons a line =>
    have ha := lineStart_isGap h
    simp only [isGap, Bool.or_eq_false_iff] at ha
    simp [ha]

theorem takeWhile_indent {j : Nat} {rest : List Char} (h : BlockIndent j rest) :
    ((List.replicate j ' ' ++ rest).take 4).takeWhile (· = ' ') = List.replicate j ' ' := by
  obtain ⟨hle, houtside, -⟩ := h
  have htake :
      (List.replicate j ' ' ++ rest).take 4 = List.replicate j ' ' ++ rest.take (4 - j) := by
    rw [List.take_append, List.take_of_length_le (by simpa using hle), List.length_replicate]
  rw [htake, List.takeWhile_append_of_pos (by simp)]
  by_cases hj : j < 4
  · have hstart := houtside hj
    cases rest with
    | nil => simp
    | cons a rest =>
      have ha : a ≠ ' ' := by
        rintro rfl
        cases lineStart_isGap hstart
      obtain ⟨k, hk⟩ : ∃ k, 4 - j = k + 1 := ⟨3 - j, by omega⟩
      rw [hk, List.take_succ_cons, List.takeWhile_cons_of_neg (by simpa using ha), List.append_nil]
  · obtain rfl : j = 4 := by omega
    simp

/-- The indentation of a line is skipped. -/
theorem scanBlockBreaks_indent {j : Nat} {rest : List Char} (h : BlockIndent j rest) {m : Mark}
    (hcolumn : m.column = 0) (deepest : Nat) (breaks : List Char) (fuel : Nat) :
    scanBlockBreaks 4 deepest breaks (fuel + 1) ⟨List.replicate j ' ' ++ rest, m⟩ =
      some (breaks, max deepest j, ⟨rest, m.plus j⟩) := by
  have hskip := Cursor.skip_append (List.replicate j ' ') rest m
  rw [List.length_replicate] at hskip
  have htab : (decide (j < 4) && Cursor.sees ⟨rest, m.plus j⟩ '\t') = false := by
    by_cases hj : j < 4
    · have hstart := h.outside hj
      cases rest with
      | nil => simp [Cursor.sees, Cursor.peek]
      | cons a rest =>
        have ha : a ≠ '\t' := by
          rintro rfl
          cases lineStart_isGap hstart
        simp [Cursor.sees, Cursor.peek, ha]
    · simp [hj]
  have hbreak : Cursor.starts ⟨rest, m.plus j⟩ isBreak = false := Cursor.starts_eq_false h.head _
  have hknown : ¬ (4 : Nat) = 0 := by decide
  rw [scanBlockBreaks]
  simp only [hcolumn, Nat.sub_zero, hknown, if_false, takeWhile_indent h, List.length_replicate, hskip,
    Mark.plus_column, Nat.zero_add, decide_false, Bool.false_or, htab, Bool.false_eq_true, hbreak]

/-- Breaks in front of a line are collected. -/
theorem scanBlockBreaks_breaks {bs : List Char} (hbs : bs.all isKeptBreak = true) {j : Nat}
    {rest : List Char} (h : BlockIndent j rest) {m : Mark} (hcolumn : m.column = 0) (deepest : Nat)
    (breaks : List Char) {fuel : Nat} (hfuel : bs.length < fuel) :
    ∃ deepest' m', m'.column = j ∧
      scanBlockBreaks 4 deepest breaks fuel ⟨bs ++ (List.replicate j ' ' ++ rest), m⟩ =
        some (breaks ++ bs, deepest', ⟨rest, m'⟩) := by
  induction bs generalizing m deepest breaks fuel with
  | nil =>
    obtain ⟨fuel, rfl⟩ : ∃ f, fuel = f + 1 := ⟨fuel - 1, by simp at hfuel; omega⟩
    refine ⟨max deepest j, m.plus j, by simp [hcolumn], ?_⟩
    rw [List.append_nil]
    exact scanBlockBreaks_indent h hcolumn deepest breaks fuel
  | cons b bs ih =>
    rw [List.all_cons, Bool.and_eq_true] at hbs
    rw [List.length_cons] at hfuel
    obtain ⟨fuel, rfl⟩ : ∃ f, fuel = f + 1 := ⟨fuel - 1, by omega⟩
    have hrest : bs.length < fuel := by omega
    obtain ⟨deepest', m', hm', hscan⟩ := ih hbs.2 (m := m.nextLine 1) rfl (max deepest m.column)
      (breaks ++ [b]) hrest
    refine ⟨deepest', m', hm', ?_⟩
    have hstep : scanBlockBreaks 4 deepest breaks (fuel + 1)
        ⟨b :: bs ++ (List.replicate j ' ' ++ rest), m⟩ =
          scanBlockBreaks 4 (max deepest m.column) (breaks ++ [b]) fuel
            ⟨bs ++ (List.replicate j ' ' ++ rest), m.nextLine 1⟩ := by
      rcases isKeptBreak_cases hbs.1 with rfl | rfl | rfl <;>
        simp [scanBlockBreaks, hcolumn, Cursor.skip, Cursor.sees, Cursor.peek, Cursor.starts, isBreak,
          Cursor.takeBreak]
    rw [hstep, hscan, List.append_assoc, List.singleton_append]

/-- The first line shows the indentation of a block that does not say it. -/
theorem scanBlockBreaks_unknown {a : Char} (hgap : isGap a = false) (rest : List Char) {m : Mark}
    (hcolumn : m.column = 0) (fuel : Nat) :
    scanBlockBreaks 0 0 [] (fuel + 1) ⟨lineIndent ++ a :: rest, m⟩ =
      some ([], 4, ⟨a :: rest, m.plus 4⟩) := by
  have hhead : (a :: rest).head?.all (!isGap ·) = true := by simp [hgap]
  simp only [isGap, isBlank, Bool.or_eq_false_iff, decide_eq_false_iff_not] at hgap
  have hskip := Cursor.skip_append lineIndent (a :: rest) m
  have htake : ((lineIndent ++ a :: rest).take (lineIndent ++ a :: rest).length).takeWhile
      (· = ' ') = lineIndent := by
    rw [List.take_length, List.takeWhile_append_of_pos (by simp [lineIndent]),
      List.takeWhile_cons_of_neg (by simpa using hgap.1.1), List.append_nil]
  rw [scanBlockBreaks]
  simp only [if_true, htake, hskip]
  simp [Cursor.sees, Cursor.starts, Cursor.peek, hgap, hcolumn, lineIndent]

/-! ## Lines -/

/-- A text that starts and ends inside of a line: lines with breaks between them. -/
inductive Lined : List Char → Prop where
  | line {a : Char} {line : List Char} (hline : (a :: line).all (!isBreak ·) = true) :
    Lined (a :: line)
  | more {a : Char} {line : List Char} (hline : (a :: line).all (!isBreak ·) = true) {b : Char}
      {bs : List Char} (hbs : (b :: bs).all isKeptBreak = true) {rest : List Char}
      (hrest : Lined rest) : Lined (a :: line ++ (b :: bs ++ rest))

theorem Lined.head {cs : List Char} (h : Lined cs) :
    ∃ a rest, cs = a :: rest ∧ isBreak a = false := by
  cases h with
  | line hline =>
    rw [List.all_cons, Bool.and_eq_true, Bool.not_eq_true'] at hline
    exact ⟨_, _, rfl, hline.1⟩
  | more hline hbs hrest =>
    rw [List.all_cons, Bool.and_eq_true, Bool.not_eq_true'] at hline
    exact ⟨_, _, rfl, hline.1⟩

/-- What becomes of the first break after the last line, and of the breaks after that. -/
def Chomp.ending (chomp : Chomp) (first more : List Char) : List Char :=
  match chomp with
  | .strip => []
  | .clip => first
  | .keep => first ++ more

theorem writeLines_line {line : List Char} (h : line.all (!isBreak ·) = true) (rest : List Char) :
    writeLines false false (line ++ rest) = line ++ writeLines false false rest := by
  induction line with
  | nil => rfl
  | cons a line ih =>
    rw [List.all_cons, Bool.and_eq_true, Bool.not_eq_true'] at h
    rw [List.cons_append, writeLines, h.1, if_neg Bool.false_ne_true, ih h.2]
    rfl

theorem writeLines_breaks {bs : List Char} (h : bs.all isBreak = true) (hne : bs ≠ [])
    (quoted afterBreak : Bool) (rest : List Char) :
    writeLines quoted afterBreak (bs ++ rest) = bs ++ writeLines quoted true rest := by
  induction bs generalizing afterBreak with
  | nil => exact absurd rfl hne
  | cons b bs ih =>
    rw [List.all_cons, Bool.and_eq_true] at h
    rw [List.cons_append, writeLines, if_pos h.1]
    cases bs with
    | nil => rfl
    | cons c bs =>
      rw [ih h.2 (List.cons_ne_nil _ _)]
      rfl

theorem writeLines_lineBreaks {line : List Char} (hline : line.all (!isBreak ·) = true) {b : Char}
    {bs : List Char} (hbs : (b :: bs).all isKeptBreak = true) (rest : List Char) :
    writeLines false false (line ++ (b :: bs ++ rest)) =
      line ++ b :: (bs ++ writeLines false true rest) := by
  have hbreaks : (b :: bs).all isBreak = true :=
    List.all_eq_true.mpr fun c hc => isBreak_of_kept (List.all_eq_true.mp hbs c hc)
  rw [writeLines_line hline, writeLines_breaks hbreaks (List.cons_ne_nil _ _)]
  rfl

theorem writeLines_indent {a : Char} (h : isBreak a = false) (rest : List Char) :
    writeLines false true (a :: rest) = lineIndent ++ writeLines false false (a :: rest) := by
  simp [writeLines, h]

/-- A block ends in front of a line that is indented less. -/
theorem scanBlockLines_end {c : Cursor} (hcolumn : c.mark.column ≠ 4) (chomp : Chomp)
    (text first more : List Char) (blank : Bool) (fuel : Nat) :
    scanBlockLines true 4 chomp text first more blank (fuel + 1) c =
      some ⟨text ++ chomp.ending first more, c, false⟩ := by
  cases chomp <;> simp [scanBlockLines, hcolumn, Chomp.ending]

/-- A line of a block is taken with its break and the breaks after it. -/
theorem scanBlockLines_line {line : List Char} (hline : line.all (!isBreak ·) = true) {b : Char}
    (hb : isKeptBreak b = true) (tail : List Char) {m : Mark} (hcolumn : m.column = 4)
    (chomp : Chomp) (text first more : List Char) (blank : Bool) (fuel : Nat) :
    ∃ blank', scanBlockLines true 4 chomp text first more blank (fuel + 1) ⟨line ++ b :: tail, m⟩ =
      (scanBlockBreaks 4 0 [] (fuel + 1) ⟨tail, (m.plus line.length).nextLine 1⟩).bind
        fun (breaks, _, c) =>
          scanBlockLines true 4 chomp (text ++ first ++ more ++ line) [b] breaks blank' fuel c := by
  have hstop : (b :: tail).head?.all (!!isBreak ·) = true := by
    rcases isKeptBreak_cases hb with rfl | rfl | rfl <;> rfl
  have hspan := Cursor.span_append hline hstop m
  have hne : (line ++ b :: tail).isEmpty = false := by simp
  refine ⟨Cursor.starts ⟨line ++ b :: tail, m⟩ isBlank, ?_⟩
  rw [scanBlockLines.eq_def]
  simp only [hcolumn, hne, hspan, takeBreak_kept hb, Bool.not_false, Bool.not_true, Bool.and_true,
    Bool.false_and, decide_true, if_true, Bool.false_eq_true, if_false]
  cases scanBlockBreaks 4 0 [] (fuel + 1) ⟨tail, (m.plus line.length).nextLine 1⟩ <;> rfl

/-- A line of a block leads to what stands after the breaks and the indentation that follow it. -/
theorem scanBlockLines_step {line : List Char} (hline : line.all (!isBreak ·) = true) {b : Char}
    {bs : List Char} (hbs : (b :: bs).all isKeptBreak = true) {j : Nat} {rest : List Char}
    (hrest : BlockIndent j rest) {m : Mark} (hcolumn : m.column = 4) (chomp : Chomp)
    (text first more : List Char) (blank : Bool) {fuel : Nat} (hfuel : bs.length < fuel + 1) :
    ∃ m' blank', m'.column = j ∧ scanBlockLines true 4 chomp text first more blank (fuel + 1)
        ⟨line ++ b :: (bs ++ (List.replicate j ' ' ++ rest)), m⟩ =
      scanBlockLines true 4 chomp (text ++ first ++ more ++ line) [b] bs blank' fuel
        ⟨rest, m'⟩ := by
  rw [List.all_cons, Bool.and_eq_true] at hbs
  obtain ⟨blank', hstep⟩ := scanBlockLines_line hline hbs.1 (bs ++ (List.replicate j ' ' ++ rest))
    hcolumn chomp text first more blank fuel
  obtain ⟨deepest, m', hm', hscan⟩ := scanBlockBreaks_breaks hbs.2 hrest
    (m := (m.plus line.length).nextLine 1) rfl 0 [] hfuel
  refine ⟨m', blank', hm', ?_⟩
  rw [hstep, hscan]
  rfl

/-- What is written of some lines stands after an indentation. -/
theorem blockIndent_written {cs : List Char} (h : Lined cs) (more rest : List Char) :
    BlockIndent 4 (writeLines false false (cs ++ more) ++ rest) := by
  obtain ⟨a, tail, rfl, ha⟩ := h.head
  refine ⟨Nat.le_refl _, fun h => absurd h (Nat.lt_irrefl _), ?_⟩
  rw [List.cons_append, writeLines, ha]
  simp [ha]

/-- The lines of a block are scanned up to a line that is indented less. -/
theorem scanBlockLines_lined {cs : List Char} (h : Lined cs) {b : Char} {bs : List Char}
    (hbs : (b :: bs).all isKeptBreak = true) {j : Nat} (hj : j < 4) {next : List Char}
    (hnext : lineStart next = true) (chomp : Chomp) (text first more : List Char) (blank : Bool)
    {m : Mark} (hcolumn : m.column = 4) {fuel : Nat}
    (hfuel : (writeLines false false (cs ++ b :: bs) ++ (List.replicate j ' ' ++ next)).length <
      fuel) :
    ∃ m', m'.column = j ∧ scanBlockLines true 4 chomp text first more blank fuel
        ⟨writeLines false false (cs ++ b :: bs) ++ (List.replicate j ' ' ++ next), m⟩ =
      some ⟨text ++ first ++ more ++ cs ++ chomp.ending [b] bs, ⟨next, m'⟩, false⟩ := by
  induction h generalizing text first more blank m fuel with
  | @line a line hline =>
    have hwritten : writeLines false false (a :: line ++ b :: bs) ++ (List.replicate j ' ' ++ next) =
        a :: line ++ b :: (bs ++ (List.replicate j ' ' ++ next)) := by
      have hlines := writeLines_lineBreaks hline hbs []
      rw [List.append_nil] at hlines
      rw [hlines]
      simp [writeLines]
    rw [hwritten] at hfuel ⊢
    simp only [List.length_append, List.length_cons] at hfuel
    obtain ⟨fuel, rfl⟩ : ∃ f, fuel = f + 2 := ⟨fuel - 2, by omega⟩
    have hbsFuel : bs.length < fuel + 2 := by omega
    obtain ⟨m', blank', hm', hstep⟩ := scanBlockLines_step hline hbs (.outer hj hnext) hcolumn chomp
      text first more blank hbsFuel
    refine ⟨m', hm', hstep.trans (scanBlockLines_end ?_ chomp _ _ _ _ _)⟩
    simp only [hm']
    omega
  | @more a line hline c cs hcs rest hrest ih =>
    obtain ⟨d, tail, hrestCons, hd⟩ := hrest.head
    let written := writeLines false false (rest ++ b :: bs) ++ (List.replicate j ' ' ++ next)
    have hwritten : writeLines false false (a :: line ++ (c :: cs ++ rest) ++ b :: bs) ++
        (List.replicate j ' ' ++ next) =
          a :: line ++ c :: (cs ++ (List.replicate 4 ' ' ++ written)) := by
      have hindent : writeLines false true (rest ++ b :: bs) =
          List.replicate 4 ' ' ++ writeLines false false (rest ++ b :: bs) := by
        rw [hrestCons, List.cons_append, writeLines_indent hd]
        rfl
      rw [List.append_assoc, List.append_assoc, writeLines_lineBreaks hline hcs, hindent]
      simp [written]
    rw [hwritten] at hfuel ⊢
    simp only [List.length_append, List.length_cons] at hfuel
    obtain ⟨fuel, rfl⟩ : ∃ f, fuel = f + 1 := ⟨fuel - 1, by omega⟩
    have hcsFuel : cs.length < fuel + 1 := by omega
    obtain ⟨m', blank', hm', hstep⟩ := scanBlockLines_step hline hcs
      (blockIndent_written hrest _ _) hcolumn chomp text first more blank hcsFuel
    have hinner : written.length < fuel := by omega
    obtain ⟨m'', hm'', hrec⟩ := ih (text ++ first ++ more ++ a :: line) [c] cs blank' hm' hinner
    refine ⟨m'', hm'', ?_⟩
    rw [hstep, hrec]
    simp

/-! ## Blocks -/

/-- How a block says what becomes of the breaks at its end. -/
def Chomp.mark : Chomp → List Char
  | .strip => ['-']
  | .clip => []
  | .keep => ['+']

theorem scanHeader_plain (chomp : Chomp) (rest : List Char) (m : Mark) : ∃ m', m'.column = 0 ∧
    scanHeader ⟨chomp.mark ++ '\n' :: rest, m⟩ = some (⟨chomp, none⟩, ⟨rest, m'⟩) := by
  cases chomp with
  | strip => exact ⟨m.next.nextLine 1, rfl, rfl⟩
  | clip => exact ⟨m.nextLine 1, rfl, rfl⟩
  | keep => exact ⟨m.next.nextLine 1, rfl, rfl⟩

theorem scanHeader_indent (chomp : Chomp) (rest : List Char) (m : Mark) : ∃ m', m'.column = 0 ∧
    scanHeader ⟨'2' :: (chomp.mark ++ '\n' :: rest), m⟩ = some (⟨chomp, some 2⟩, ⟨rest, m'⟩) := by
  cases chomp with
  | strip => exact ⟨m.next.next.nextLine 1, rfl, rfl⟩
  | clip => exact ⟨m.next.nextLine 1, rfl, rfl⟩
  | keep => exact ⟨m.next.next.nextLine 1, rfl, rfl⟩

section Blocks

variable {j : Nat} (hj : j < 4) {next : List Char} (hnext : lineStart next = true)

include hj hnext

/-- A block of breaks. -/
theorem scanBlock_breaks {bs : List Char} (hbs : bs.all isKeptBreak = true) (m : Mark) {fuel : Nat}
    (hfuel : bs.length < fuel) :
    ∃ m', m'.column = j ∧ scanBlock true 2 fuel
        ⟨'2' :: (Chomp.keep.mark ++ '\n' :: (bs ++ (List.replicate j ' ' ++ next))), m⟩ =
      some ⟨bs, ⟨next, m'⟩, false⟩ := by
  obtain ⟨m₁, hm₁, hheader⟩ :=
    scanHeader_indent .keep (bs ++ (List.replicate j ' ' ++ next)) m
  obtain ⟨deepest, m₂, hm₂, hscan⟩ := scanBlockBreaks_breaks hbs (.outer hj hnext) hm₁ 0 [] hfuel
  obtain ⟨fuel, rfl⟩ : ∃ f, fuel = f + 1 := ⟨fuel - 1, by omega⟩
  have hend := scanBlockLines_end (c := ⟨next, m₂⟩) (by simp only [hm₂]; omega) .keep [] [] bs false
    fuel
  refine ⟨m₂, hm₂, ?_⟩
  have hgiven : (if (0 : Int) ≤ 2 then (2 : Int).toNat + 2 else 2) = 4 := rfl
  have hknown : ¬ (4 : Nat) = 0 := by decide
  rw [scanBlock, hheader]
  simp only [bind, Option.bind, hgiven, hscan, List.nil_append, hknown, if_false]
  exact hend

/-- A block that says how deep it is indented. -/
theorem scanBlock_indent {bs core bs' : List Char} {b : Char} (hbs : bs.all isKeptBreak = true)
    (hcore : Lined core) (hb : (b :: bs').all isKeptBreak = true) (chomp : Chomp) (m : Mark)
    {fuel : Nat} (hbsFuel : bs.length < fuel)
    (hfuel : (writeLines false false (core ++ b :: bs') ++
      (List.replicate j ' ' ++ next)).length < fuel) :
    ∃ m', m'.column = j ∧ scanBlock true 2 fuel
        ⟨'2' :: (chomp.mark ++ '\n' :: (bs ++ (lineIndent ++
          (writeLines false false (core ++ b :: bs') ++ (List.replicate j ' ' ++ next))))), m⟩ =
      some ⟨bs ++ core ++ chomp.ending [b] bs', ⟨next, m'⟩, false⟩ := by
  obtain ⟨m₁, hm₁, hheader⟩ := scanHeader_indent chomp (bs ++ (lineIndent ++
    (writeLines false false (core ++ b :: bs') ++ (List.replicate j ' ' ++ next)))) m
  obtain ⟨deepest, m₂, hm₂, hscan⟩ :=
    scanBlockBreaks_breaks hbs (blockIndent_written hcore _ _) hm₁ 0 [] hbsFuel
  obtain ⟨m₃, hm₃, hlines⟩ :=
    scanBlockLines_lined hcore hb hj hnext chomp [] [] bs false hm₂ hfuel
  refine ⟨m₃, hm₃, ?_⟩
  have hfour : List.replicate 4 ' ' = lineIndent := rfl
  have hgiven : (if (0 : Int) ≤ 2 then (2 : Int).toNat + 2 else 2) = 4 := rfl
  have hknown : ¬ (4 : Nat) = 0 := by decide
  rw [hfour] at hscan
  rw [scanBlock, hheader]
  simp only [bind, Option.bind, hgiven]
  rw [hscan]
  simp only [List.nil_append, hknown, if_false]
  exact hlines

/-- A block that does not say how deep it is indented. -/
theorem scanBlock_plain {core bs : List Char} {b : Char} (hcore : Lined core)
    (hhead : core.head?.all (!isGap ·) = true) (hb : (b :: bs).all isKeptBreak = true)
    (chomp : Chomp) (m : Mark) {fuel : Nat}
    (hfuel : (writeLines false false (core ++ b :: bs) ++
      (List.replicate j ' ' ++ next)).length < fuel) :
    ∃ m', m'.column = j ∧ scanBlock true 2 fuel
        ⟨chomp.mark ++ '\n' :: (lineIndent ++ (writeLines false false (core ++ b :: bs) ++
          (List.replicate j ' ' ++ next))), m⟩ =
      some ⟨core ++ chomp.ending [b] bs, ⟨next, m'⟩, false⟩ := by
  obtain ⟨m₁, hm₁, hheader⟩ := scanHeader_plain chomp (lineIndent ++
    (writeLines false false (core ++ b :: bs) ++ (List.replicate j ' ' ++ next))) m
  obtain ⟨m₂, hm₂, hlines⟩ :=
    scanBlockLines_lined hcore hb hj hnext chomp [] [] [] false (m := m₁.plus 4) (by simp [hm₁])
      hfuel
  obtain ⟨a, tail, rfl, ha⟩ := hcore.head
  have hgap : isGap a = false := by simpa using hhead
  have hscan : scanBlockBreaks 0 0 [] fuel ⟨lineIndent ++
      (writeLines false false (a :: tail ++ b :: bs) ++ (List.replicate j ' ' ++ next)), m₁⟩ =
        some ([], 4, ⟨writeLines false false (a :: tail ++ b :: bs) ++
          (List.replicate j ' ' ++ next), m₁.plus 4⟩) := by
    obtain ⟨fuel, rfl⟩ : ∃ f, fuel = f + 1 := ⟨fuel - 1, by omega⟩
    rw [List.cons_append, writeLines, ha]
    exact scanBlockBreaks_unknown hgap _ hm₁ fuel
  refine ⟨m₂, hm₂, ?_⟩
  have hdepth : max 4 (max ((2 : Int) + 1).toNat 1) = 4 := rfl
  rw [scanBlock, hheader]
  simp only [bind, Option.bind, hscan, if_true, hdepth]
  exact hlines

end Blocks

end ScatterPick.Yaml
