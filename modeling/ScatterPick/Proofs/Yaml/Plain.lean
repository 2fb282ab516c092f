import ScatterPick.Proofs.Yaml.Cursor
import ScatterPick.Yaml.Printer

/-!
# Scanning plain scalars

A plain scalar is scanned as it stands if its words are safe: a colon is inside of a word, and no
word starts like a comment.
-/

namespace ScatterPick.Yaml

/-- Whether characters are one word of a plain scalar. -/
def isWord (w : List Char) : Bool :=
  !w.isEmpty && w.all (!isGap ·) && w.getLast? != some ':' && w.head? != some '#'

/-- Whether a word ends in front of some characters. -/
def endsWord : List Char → Bool
  | [] => true
  | a :: rest => isGap a || (a = ':' && rest.head?.all isGap)

/-- The words of a plain scalar in one line, with spaces between them. -/
inductive PlainText : List Char → Prop where
  | word {w : List Char} (h : isWord w = true) : PlainText w
  | spaced {w rest : List Char} (h : isWord w = true) (n : Nat) (hrest : PlainText rest) :
    PlainText (w ++ (List.replicate (n + 1) ' ' ++ rest))

theorem isWord_cons {w : List Char} (h : isWord w = true) :
    ∃ a rest, w = a :: rest ∧ isGap a = false ∧ a ≠ '#' := by
  cases w with
  | nil => cases h
  | cons a rest =>
    simp only [isWord, List.all_cons, List.head?_cons, Bool.and_eq_true, Bool.not_eq_true',
      bne_iff_ne, ne_eq, Option.some.injEq] at h
    exact ⟨a, rest, rfl, h.1.1.2.1, h.2⟩

theorem PlainText.cons {cs : List Char} (h : PlainText cs) :
    ∃ a rest, cs = a :: rest ∧ isGap a = false ∧ a ≠ '#' := by
  cases h with
  | word h => exact isWord_cons h
  | spaced h n hrest =>
    obtain ⟨a, rest, rfl, ha⟩ := isWord_cons h
    exact ⟨a, _, rfl, ha⟩

/-- A plain scalar ends in a word. -/
theorem PlainText.concat {cs : List Char} (h : PlainText cs) :
    ∃ init z, cs = init ++ [z] ∧ isGap z = false := by
  induction h with
  | word h =>
    rename_i w
    obtain ⟨a, rest, rfl, -⟩ := isWord_cons h
    simp only [isWord, Bool.and_eq_true] at h
    have hlast := List.all_eq_true.mp h.1.1.2 _ (List.getLast_mem (List.cons_ne_nil a rest))
    exact ⟨_, _, (List.dropLast_concat_getLast (List.cons_ne_nil a rest)).symm, by simpa using hlast⟩
  | spaced h n hrest ih =>
    rename_i w rest
    obtain ⟨init, z, rfl, hz⟩ := ih
    exact ⟨w ++ (List.replicate (n + 1) ' ' ++ init), z, by simp, hz⟩

/-- A plain scalar that is no other token at its start. -/
structure PlainScalar (cs : List Char) : Prop where
  text : PlainText cs
  head : lineStart cs = true
  start : startsIndicator cs = false

/-! ## Words -/

/-- The characters of a word are scanned up to its end. -/
theorem scanWord_append {w : List Char} (hgap : w.all (!isGap ·) = true)
    (hlast : w.getLast? ≠ some ':') {rest : List Char} (hrest : endsWord rest = true) (m : Mark)
    {fuel : Nat} (hfuel : w.length < fuel) :
    scanWord false fuel ⟨w ++ rest, m⟩ = some (w, ⟨rest, m.plus w.length⟩) := by
  induction w generalizing m fuel with
  | nil =>
    obtain ⟨fuel, rfl⟩ : ∃ f, fuel = f + 1 := ⟨fuel - 1, by omega⟩
    cases rest with
    | nil => rfl
    | cons a rest =>
      simp only [endsWord, Bool.or_eq_true, Bool.and_eq_true, decide_eq_true_eq] at hrest
      rcases hrest with ha | ⟨rfl, hnext⟩
      · simp [scanWord, Cursor.peek, ha]
      · have hcolon : isGap ':' = false := by decide
        have hat : Cursor.gapAt ⟨':' :: rest, m⟩ 1 = true := by
          cases rest with
          | nil => rfl
          | cons b rest => simpa [Cursor.gapAt] using hnext
        simp [scanWord, Cursor.peek, hcolon, hat]
  | cons a w ih =>
    obtain ⟨fuel, rfl⟩ : ∃ f, fuel = f + 1 := ⟨fuel - 1, by omega⟩
    rw [List.all_cons, Bool.and_eq_true, Bool.not_eq_true'] at hgap
    obtain ⟨ha, hgap⟩ := hgap
    -- A colon inside a word stands in front of a character of the word.
    have hcolon : (a = ':' && Cursor.gapAt ⟨a :: w ++ rest, m⟩ 1) = false := by
      cases w with
      | nil =>
        have hne : a ≠ ':' := fun h => hlast (by rw [h]; rfl)
        simp [hne]
      | cons b w =>
        have hb : isGap b = false := by simpa using (List.all_eq_true.mp hgap) b (by simp)
        simp [Cursor.gapAt, hb]
    have hlast' : w.getLast? ≠ some ':' := by
      cases w with
      | nil => simp
      | cons b w => rwa [List.getLast?_cons_cons] at hlast
    have hstep : scanWord false (fuel + 1) ⟨a :: w ++ rest, m⟩ =
        (scanWord false fuel ⟨w ++ rest, m.next⟩).map fun p => (a :: p.1, p.2) := by
      rw [scanWord]
      simp only [Cursor.peek, List.cons_append, List.head?_cons, ha, Bool.false_eq_true, if_false,
        Bool.false_and, Bool.or_false, Cursor.advance, List.tail_cons]
      rw [List.cons_append] at hcolon
      rw [if_neg (by rw [hcolon]; simp)]
    rw [hstep, ih hgap hlast' _ (by simp only [List.length_cons] at hfuel; omega), Option.map_some,
      Mark.next_plus, List.length_cons]

/-- The first word of a plain scalar, with what the gap before it stands for. -/
theorem scanPlain_word {w : List Char} (hw : isWord w = true) {rest : List Char}
    (hrest : endsWord rest = true) {m : Mark} (hrule : Cursor.atDocumentRule ⟨w ++ rest, m⟩ = false)
    (indent : Int) (text : List Char) (gap : Gap) {fuel : Nat} (hfuel : w.length ≤ fuel) :
    scanPlain false indent text gap (fuel + 1) ⟨w ++ rest, m⟩ =
      if !Cursor.starts ⟨rest, m.plus w.length⟩ isGap then
        some ⟨text ++ gap.fold ++ w, ⟨rest, m.plus w.length⟩, false⟩
      else
        (scanGap (fun m => indent ≤ m.column) {} (fuel + 1) ⟨rest, m.plus w.length⟩).bind
          fun (gap', c) =>
            if (c.mark.column : Int) < indent then some ⟨text ++ gap.fold ++ w, c, gap'.broken⟩
            else scanPlain false indent (text ++ gap.fold ++ w) gap' fuel c := by
  obtain ⟨a, tail, rfl, -, hcomment⟩ := isWord_cons hw
  simp only [isWord, Bool.and_eq_true, bne_iff_ne, ne_eq] at hw
  have hword := scanWord_append hw.1.1.2 hw.1.2 hrest m (Nat.lt_succ_of_le hfuel)
  have hsees : Cursor.sees ⟨a :: tail ++ rest, m⟩ '#' = false := by
    simp [Cursor.sees, Cursor.peek, hcomment]
  rw [scanPlain]
  simp only [hrule, hsees, Bool.or_self, Bool.false_eq_true, if_false, hword, bind, Option.bind,
    List.isEmpty_cons, pure, Bool.not_false, Bool.true_and, decide_eq_true_eq]

/-! ## Names of fields -/

/-- Whether a character may stand in the name of a field. -/
def isFieldChar (c : Char) : Bool := c.isLower || c = '_'

/-- Whether characters are the name of a field. -/
def isFieldName (name : List Char) : Bool :=
  !name.isEmpty && name.all isFieldChar && name.length ≤ 1024

/-- A character that passes a test is none of those that do not. -/
theorem not_mem_of_test {test : Char → Bool} {c : Char} (h : test c = true) {others : List Char}
    (hothers : others.all (!test ·) = true) : c ∉ others := by
  intro hmem
  have hc := List.all_eq_true.mp hothers c hmem
  rw [h] at hc
  cases hc

/-- A character that passes a test is no gap, if no gap passes it. -/
theorem isGap_of_test {test : Char → Bool} {c : Char} (h : test c = true)
    (hgaps : [' ', '\t', '\n', '\r', '\u0085', '\u2028', '\u2029'].all (!test ·) = true) :
    isGap c = false := by
  rw [Bool.eq_false_iff]
  intro hgap
  refine not_mem_of_test h hgaps ?_
  simpa [isGap, isBlank, isBreak, or_assoc] using hgap

/-- No character of a name means anything else. -/
theorem fieldChar_plain {c : Char} (h : isFieldChar c = true) :
    isGap c = false ∧ isIndicator c = false ∧ c ≠ '.' ∧ c ≠ '\ufeff' := by
  have hindicator : isIndicator c = false := by
    rw [Bool.eq_false_iff]
    exact fun hc => not_mem_of_test h (by decide) (List.contains_iff_mem.mp hc)
  have hothers : c ∉ ['.', '\ufeff'] := not_mem_of_test h (by decide)
  simp only [List.mem_cons, List.not_mem_nil, or_false, not_or] at hothers
  exact ⟨isGap_of_test h (by decide), hindicator, hothers⟩

theorem isFieldName_cons {name : List Char} (h : isFieldName name = true) :
    ∃ a rest, name = a :: rest ∧
      isGap a = false ∧ isIndicator a = false ∧ a ≠ '.' ∧ a ≠ '\ufeff' := by
  cases name with
  | nil => cases h
  | cons a rest =>
    simp only [isFieldName, List.all_cons, Bool.and_eq_true] at h
    exact ⟨a, rest, rfl, fieldChar_plain h.1.2.1⟩

theorem isWord_of_isFieldName {name : List Char} (h : isFieldName name = true) :
    isWord name = true := by
  obtain ⟨a, rest, rfl, -, hindicator, -⟩ := isFieldName_cons h
  simp only [isFieldName, Bool.and_eq_true] at h
  have hall := List.all_eq_true.mp h.1.2
  have hgaps : (a :: rest).all (!isGap ·) = true := by
    rw [List.all_eq_true]
    intro c hc
    rw [(fieldChar_plain (hall c hc)).1]
    rfl
  have hlast : (a :: rest).getLast? ≠ some ':' := by
    intro h
    exact absurd (hall ':' (List.mem_of_getLast? h)) (by decide)
  have hcomment : a ≠ '#' := by
    rintro rfl
    cases hindicator
  simp only [isWord, hgaps, bne_iff_ne, ne_eq, hlast, not_false_eq_true, List.head?_cons,
    Option.some.injEq, hcomment, List.isEmpty_cons, Bool.and_eq_true, Bool.not_false, and_self]

/-! ## Whole scalars -/

/-- A word in front of a colon is a scalar of its own. -/
theorem scanPlain_key {w : List Char} (hw : isWord w = true) {rest : List Char}
    (hrest : rest.head?.all isGap = true) {m : Mark}
    (hrule : Cursor.atDocumentRule ⟨w ++ ':' :: rest, m⟩ = false) (indent : Int) {fuel : Nat}
    (hfuel : w.length < fuel) :
    scanPlain false indent [] {} fuel ⟨w ++ ':' :: rest, m⟩ =
      some ⟨w, ⟨':' :: rest, m.plus w.length⟩, false⟩ := by
  obtain ⟨fuel, rfl⟩ : ∃ f, fuel = f + 1 := ⟨fuel - 1, by omega⟩
  have hends : endsWord (':' :: rest) = true := by simp [endsWord, hrest]
  have hcolon : Cursor.starts ⟨':' :: rest, m.plus w.length⟩ isGap = false := by
    simp [Cursor.starts, Cursor.peek, isGap, isBlank, isBreak]
  rw [scanPlain_word hw hends hrule _ _ _ (by omega), hcolon]
  rfl

/-- A plain text is scanned as it stands, up to the text of the next line, which is indented less. -/
theorem scanPlain_text {cs : List Char} (h : PlainText cs) {indent : Int} {j : Nat}
    (hj : (j : Int) < indent) {line : List Char} (hline : lineStart line = true) {m : Mark}
    (hcolumn : m.column ≠ 0) (hindent : indent ≤ m.column) (text : List Char) (gap : Gap)
    {fuel : Nat} (hfuel : (cs ++ nextLine j line).length < fuel) :
    scanPlain false indent text gap fuel ⟨cs ++ nextLine j line, m⟩ =
      some ⟨text ++ gap.fold ++ cs, ⟨line, ((m.plus cs.length).nextLine 1).plus j⟩, true⟩ := by
  induction h generalizing m text gap fuel with
  | @word w hw =>
    obtain ⟨fuel, rfl⟩ : ∃ f, fuel = f + 1 := ⟨fuel - 1, by omega⟩
    have hlength : w.length + j + 1 < fuel + 1 := by
      simp only [nextLine, List.length_append, List.length_cons, List.length_replicate] at hfuel
      omega
    have hbreak : Cursor.starts ⟨nextLine j line, m.plus w.length⟩ isGap = true := rfl
    rw [scanPlain_word hw rfl (Cursor.atDocumentRule_of_column hcolumn) _ _ _ (by omega), hbreak,
      scanGap_nextLine _ _ hline _ (by omega)]
    have hless : ((((m.plus w.length).nextLine 1).plus j).column : Int) < indent := by
      simpa [Mark.nextLine] using hj
    simp only [Bool.not_true, Bool.false_eq_true, if_false, Option.bind_some, if_pos hless]
  | @spaced w rest hw n hrest ih =>
    obtain ⟨fuel, rfl⟩ : ∃ f, fuel = f + 1 := ⟨fuel - 1, by omega⟩
    obtain ⟨a, tail, hcons, ha, -⟩ := hrest.cons
    have hlength : w.length + (n + 1) + (rest ++ nextLine j line).length < fuel + 1 := by
      simp only [List.length_append, List.length_replicate] at hfuel ⊢
      omega
    have hpos : 0 < w.length := by
      obtain ⟨b, ws, rfl, -⟩ := isWord_cons hw
      simp
    rw [List.append_assoc, List.append_assoc]
    have hends : endsWord (List.replicate (n + 1) ' ' ++ (rest ++ nextLine j line)) = true := rfl
    have hspace : Cursor.starts ⟨List.replicate (n + 1) ' ' ++ (rest ++ nextLine j line),
        m.plus w.length⟩ isGap = true := rfl
    have hstop : (rest ++ nextLine j line).head?.all (!isGap ·) = true := by
      rw [hcons]
      simp [ha]
    have hinside : ¬ ((((m.plus w.length).plus (n + 1)).column : Int) < indent) := by
      simp only [Mark.plus_column]
      omega
    rw [scanPlain_word hw hends (Cursor.atDocumentRule_of_column hcolumn) _ _ _ (by omega), hspace,
      scanGap_spaces _ [] _ hstop _ (by omega)]
    simp only [Bool.not_true, Bool.false_eq_true, if_false, Option.bind_some, if_neg hinside]
    rw [ih (by simp) (by simp only [Mark.plus_column]; omega) _ _ (by omega)]
    simp [Gap.fold, Mark.plus_plus, Nat.add_assoc]

end ScatterPick.Yaml
