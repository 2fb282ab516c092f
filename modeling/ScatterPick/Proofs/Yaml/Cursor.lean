import ScatterPick.Yaml.Token.Scalar

/-!
# Moving over characters

What the steps of a cursor do in front of a text that starts with known characters: runs of
characters, spaces up to a word, and the break before the next line.
-/

namespace ScatterPick.Yaml

/-- The position some characters on in the same line. -/
def Mark.plus (m : Mark) (n : Nat) : Mark := ⟨m.index + n, m.line, m.column + n⟩

namespace Mark

@[simp] theorem plus_column (m : Mark) (n : Nat) : (m.plus n).column = m.column + n := rfl

@[simp] theorem plus_line (m : Mark) (n : Nat) : (m.plus n).line = m.line := rfl

@[simp] theorem plus_index (m : Mark) (n : Nat) : (m.plus n).index = m.index + n := rfl

@[simp] theorem plus_zero (m : Mark) : m.plus 0 = m := rfl

theorem plus_plus (m : Mark) (a b : Nat) : (m.plus a).plus b = m.plus (a + b) := by
  simp only [plus, Nat.add_assoc]

theorem next_plus (m : Mark) (n : Nat) : m.next.plus n = m.plus (n + 1) := by
  simp only [plus, next, Nat.add_assoc, Nat.add_comm 1]

end Mark

theorem isBreak_of_not_gap {c : Char} (h : isGap c = false) : isBreak c = false :=
  (Bool.or_eq_false_iff.mp h).2

/-- Whether a line, or the text, may go on here after its indentation: neither a gap nor a comment
nor a byte order mark starts here. -/
def lineStart (cs : List Char) : Bool := cs.head?.all fun a => !isGap a && a != '#' && a != '\ufeff'

theorem lineStart_isGap {a : Char} {cs : List Char} (h : lineStart (a :: cs) = true) :
    isGap a = false := by
  simp only [lineStart, List.head?_cons, Option.all_some, Bool.and_eq_true, Bool.not_eq_true'] at h
  exact h.1.1

/-- A line of some text after a break and some spaces. -/
def nextLine (indent : Nat) (line : List Char) : List Char :=
  '\n' :: (List.replicate indent ' ' ++ line)

namespace Cursor

theorem skip_append (front rest : List Char) (m : Mark) :
    skip ⟨front ++ rest, m⟩ front.length = ⟨rest, m.plus front.length⟩ := by
  induction front generalizing m with
  | nil => rfl
  | cons a front ih =>
    have hstep : skip ⟨a :: front ++ rest, m⟩ (a :: front).length =
        skip ⟨front ++ rest, m.next⟩ front.length := rfl
    rw [hstep, ih, Mark.next_plus, List.length_cons]

/-- The characters in front are those that satisfy the test. -/
theorem span_append {test : Char → Bool} {front : List Char} (hfront : front.all test = true)
    {rest : List Char} (hrest : rest.head?.all (!test ·) = true) (m : Mark) :
    span ⟨front ++ rest, m⟩ test = (front, ⟨rest, m.plus front.length⟩) := by
  have htake : (front ++ rest).takeWhile test = front := by
    rw [List.takeWhile_append_of_pos (List.all_eq_true.mp hfront)]
    cases rest with
    | nil => rw [List.takeWhile_nil, List.append_nil]
    | cons a rest =>
      have ha : ¬ test a = true := by simpa using hrest
      rw [List.takeWhile_cons_of_neg ha, List.append_nil]
  rw [span, htake, skip_append]

theorem skipWhile_append {test : Char → Bool} {front : List Char} (hfront : front.all test = true)
    {rest : List Char} (hrest : rest.head?.all (!test ·) = true) (m : Mark) :
    skipWhile ⟨front ++ rest, m⟩ test = ⟨rest, m.plus front.length⟩ := by
  rw [skipWhile, span_append hfront hrest]

theorem starts_eq_false {test : Char → Bool} {rest : List Char}
    (h : rest.head?.all (!test ·) = true) (m : Mark) : starts ⟨rest, m⟩ test = false := by
  cases rest with
  | nil => rfl
  | cons a rest => simpa [starts, peek] using h

theorem atDocumentRule_of_column {c : Cursor} (h : c.mark.column ≠ 0) :
    c.atDocumentRule = false := by
  simp [atDocumentRule, atRule, h]

end Cursor

/-! ## Gaps inside a scalar -/

theorem isBlank_of_lineStart {line : List Char} (h : lineStart line = true) :
    line.head?.all (!isGap ·) = true := by
  cases line with
  | nil => rfl
  | cons a line => simp [lineStart_isGap h]

/-- Spaces inside a line are a gap as they are. -/
theorem scanGap_spaces (allowed : Mark → Bool) (blanks : List Char) (n : Nat) {rest : List Char}
    (hrest : rest.head?.all (!isGap ·) = true) (m : Mark) {fuel : Nat} (hfuel : n < fuel) :
    scanGap allowed { blanks } fuel ⟨List.replicate n ' ' ++ rest, m⟩ =
      some ({ blanks := blanks ++ List.replicate n ' ' }, ⟨rest, m.plus n⟩) := by
  induction n generalizing blanks m fuel with
  | zero =>
    obtain ⟨fuel, rfl⟩ : ∃ f, fuel = f + 1 := ⟨fuel - 1, by omega⟩
    rw [List.replicate_zero, List.nil_append, List.append_nil, Mark.plus_zero]
    cases rest with
    | nil => rfl
    | cons a rest =>
      have ha : isGap a = false := by simpa using hrest
      simp only [isGap, Bool.or_eq_false_iff] at ha
      simp [scanGap, Cursor.peek, ha]
  | succ n ih =>
    obtain ⟨fuel, rfl⟩ : ∃ f, fuel = f + 1 := ⟨fuel - 1, by omega⟩
    have hstep : scanGap allowed { blanks } (fuel + 1) ⟨List.replicate (n + 1) ' ' ++ rest, m⟩ =
        scanGap allowed { blanks := blanks ++ [' '] } fuel
          ⟨List.replicate n ' ' ++ rest, m.next⟩ := rfl
    rw [hstep, ih _ _ (by omega), List.append_assoc, List.singleton_append, Mark.next_plus]
    rfl

/-- After a break, spaces belong to the gap and not to the text. -/
theorem scanGap_indent (allowed : Mark → Bool) {g : Gap} (hg : g.broken = true) (n : Nat)
    {rest : List Char} (hrest : rest.head?.all (!isGap ·) = true) (m : Mark) {fuel : Nat}
    (hfuel : n < fuel) :
    scanGap allowed g fuel ⟨List.replicate n ' ' ++ rest, m⟩ = some (g, ⟨rest, m.plus n⟩) := by
  induction n generalizing m fuel with
  | zero =>
    obtain ⟨fuel, rfl⟩ : ∃ f, fuel = f + 1 := ⟨fuel - 1, by omega⟩
    rw [List.replicate_zero, List.nil_append, Mark.plus_zero]
    cases rest with
    | nil => rfl
    | cons a rest =>
      have ha : isGap a = false := by simpa using hrest
      simp only [isGap, Bool.or_eq_false_iff] at ha
      simp [scanGap, Cursor.peek, ha]
  | succ n ih =>
    obtain ⟨fuel, rfl⟩ : ∃ f, fuel = f + 1 := ⟨fuel - 1, by omega⟩
    have hstep : scanGap allowed g (fuel + 1) ⟨List.replicate (n + 1) ' ' ++ rest, m⟩ =
        scanGap allowed g fuel ⟨List.replicate n ' ' ++ rest, m.next⟩ := by
      simp [scanGap, Cursor.peek, List.replicate_succ, isBlank, hg, Cursor.advance]
    rw [hstep, ih _ (by omega), Mark.next_plus]

/-- The gap that ends a line goes up to the text of the next line. -/
theorem scanGap_nextLine (allowed : Mark → Bool) (indent : Nat) {line : List Char}
    (hline : lineStart line = true) (m : Mark) {fuel : Nat} (hfuel : indent + 1 < fuel) :
    scanGap allowed {} fuel ⟨nextLine indent line, m⟩ =
      some ({ first := ['\n'], broken := true }, ⟨line, (m.nextLine 1).plus indent⟩) := by
  obtain ⟨fuel, rfl⟩ : ∃ f, fuel = f + 1 := ⟨fuel - 1, by omega⟩
  have hstep : scanGap allowed {} (fuel + 1) ⟨nextLine indent line, m⟩ =
      scanGap allowed { first := ['\n'], broken := true } fuel
        ⟨List.replicate indent ' ' ++ line, m.nextLine 1⟩ := rfl
  rw [hstep, scanGap_indent _ rfl _ (isBlank_of_lineStart hline) _ (by omega)]

end ScatterPick.Yaml
