import Mathlib.Data.List.Induction
import ScatterPick.Proofs.Yaml.Escape

/-!
# Characters of written texts

What is written consists of characters that may occur in a text: those that are not printable stand
as escapes between double quotes, and there are none of them in any other form.
-/

namespace ScatterPick.Yaml

theorem isAllowed_of_isPrintable {c : Char} (h : isPrintable c = true) : isAllowed c = true := by
  simp only [isPrintable, isAllowed, Bool.or_eq_true, Bool.and_eq_true, beq_iff_eq,
    decide_eq_true_eq] at h ⊢
  omega

theorem isAllowed_of_ascii {c : Char} (hlow : 0x20 ≤ c.toNat) (hhigh : c.toNat ≤ 0x7E) :
    isAllowed c = true := by
  simp [isAllowed, hlow, hhigh]

theorem isAllowed_of_isDigit {c : Char} (h : c.isDigit = true) : isAllowed c = true := by
  obtain ⟨hleast, hgreatest⟩ := Char.isDigit_iff_toNat.mp h
  exact isAllowed_of_ascii (Nat.le_trans (by decide) hleast) (Nat.le_trans hgreatest (by decide))

theorem isAllowed_of_hexDigit {c : Char} {d : Nat} (h : Text.hexDigit? c = some d) :
    isAllowed c = true := by
  unfold Text.hexDigit? at h
  split at h
  · exact isAllowed_of_isDigit ‹_›
  split at h
  · rename_i hlower
    exact isAllowed_of_ascii (Nat.le_trans (by decide) hlower.1) (Nat.le_trans hlower.2 (by decide))
  split at h
  · rename_i hupper
    exact isAllowed_of_ascii (Nat.le_trans (by decide) hupper.1) (Nat.le_trans hupper.2 (by decide))
  · cases h

theorem all_isAllowed_paddedHex (width n : Nat) : (paddedHex width n).all isAllowed = true := by
  refine List.all_eq_true.mpr fun c hc => ?_
  obtain ⟨d, hd⟩ := Text.exists_hexDigit?_of_mem (hexValue?_paddedHex width n) hc
  exact isAllowed_of_hexDigit hd

theorem isAllowed_shortEscape {c letter : Char} (h : shortEscape? c = some letter) :
    isAllowed letter = true := by
  unfold shortEscape? at h
  split at h <;> first | (obtain rfl := Option.some.inj h; rfl) | cases h

theorem all_isAllowed_escape (c : Char) : (escape c).all isAllowed = true := by
  rw [escape]
  cases hshort : shortEscape? c with
  | some letter =>
    rw [List.all_cons, List.all_cons, isAllowed_shortEscape hshort]
    rfl
  | none =>
    dsimp only
    split
    · exact all_isAllowed_paddedHex 2 c.toNat
    · split
      · exact all_isAllowed_paddedHex 4 c.toNat
      · exact all_isAllowed_paddedHex 8 c.toNat

theorem all_isAllowed_writeDouble (cs : List Char) : (writeDouble cs).all isAllowed = true := by
  have hchars : (cs.flatMap doubleChar).all isAllowed = true := by
    rw [List.all_flatMap]
    refine List.all_eq_true.mpr fun c _ => ?_
    rw [doubleChar]
    split
    · exact all_isAllowed_escape c
    · rename_i hplain
      simp only [Bool.or_eq_true, not_or, Bool.not_eq_true', Bool.not_eq_false] at hplain
      rw [List.all_cons, isAllowed_of_isPrintable hplain.1.1.1]
      rfl
  rw [writeDouble_eq, List.all_append, List.all_cons, hchars]
  rfl

theorem all_isAllowed_writeLines {cs : List Char} (h : cs.all isAllowed = true)
    (quoted afterBreak : Bool) : (writeLines quoted afterBreak cs).all isAllowed = true := by
  have hindent (b : Bool) : (if b then lineIndent else []).all isAllowed = true := by
    cases b <;> rfl
  induction cs generalizing afterBreak with
  | nil => exact hindent _
  | cons c cs ih =>
    rw [List.all_cons, Bool.and_eq_true] at h
    obtain ⟨hc, hcs⟩ := h
    rw [writeLines]
    split
    · rw [List.all_cons, hc, ih hcs true]
      rfl
    · have hchar : (if quoted && c = '\'' then ['\'', '\''] else [c]).all isAllowed = true := by
        split
        · rfl
        · rw [List.all_cons, hc]
          rfl
      rw [List.all_append, List.all_append, hindent, hchar, ih hcs false]
      rfl

theorem all_isAllowed_of_not_special {cs : List Char} (h : hasSpecial cs = false) :
    cs.all isAllowed = true := by
  rw [hasSpecial, List.any_eq_false] at h
  refine List.all_eq_true.mpr fun c hc => isAllowed_of_isPrintable ?_
  simpa using h c hc

theorem all_isAllowed_writeSingle {cs : List Char} (h : cs.all isAllowed = true) :
    (writeSingle cs).all isAllowed = true := by
  rw [writeSingle, List.all_append, List.all_cons, all_isAllowed_writeLines h]
  rfl

theorem all_isAllowed_writeLiteral {cs : List Char} (h : cs.all isAllowed = true) :
    (writeLiteral cs).all isAllowed = true := by
  have hindent (b : Bool) : (if b then ['2'] else []).all isAllowed = true := by
    cases b <;> rfl
  have hchomp : (chompMark cs).all isAllowed = true := by
    rw [chompMark]
    split
    · rfl
    · split
      · rfl
      · split <;> rfl
  rw [writeLiteral, List.all_append, List.all_append, List.all_cons, List.all_cons, hindent, hchomp,
    all_isAllowed_writeLines h]
  rfl

/-- The writer's form of a text consists of characters that may occur in a text. -/
theorem all_isAllowed_writeText (s : String) : (writeText s).all isAllowed = true := by
  rw [writeText]
  split
  · split
    · rename_i hblock
      simp only [allowsBlock, Bool.and_eq_true, Bool.not_eq_true'] at hblock
      exact all_isAllowed_writeLiteral (all_isAllowed_of_not_special hblock.2)
    · exact all_isAllowed_writeDouble s.toList
  · split
    · rename_i hplain
      simp only [allowsPlain, allowsQuotes, Bool.and_eq_true, Bool.not_eq_true'] at hplain
      exact all_isAllowed_of_not_special hplain.2.1.1.1.1.1.2
    · split
      · rename_i hquotes
        simp only [allowsQuotes, Bool.and_eq_true, Bool.not_eq_true'] at hquotes
        exact all_isAllowed_writeSingle (all_isAllowed_of_not_special hquotes.2)
      · exact all_isAllowed_writeDouble s.toList

end ScatterPick.Yaml
