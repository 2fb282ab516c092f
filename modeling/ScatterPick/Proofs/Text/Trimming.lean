import Mathlib.Data.List.TakeWhile
import ScatterPick.Text.Blank

/-!
# Trimming

A text is blanks, then what trimming leaves of it, then blanks again. What is left has no blank at
either end, and there is only one way to take a text apart like this.
-/

namespace ScatterPick.Text

/-- All characters are blanks. -/
def IsBlank (cs : List Char) : Prop := ∀ c ∈ cs, isBlank c = true

instance : DecidablePred IsBlank := fun _ => decidable_of_iff _ List.all_eq_true

/-- No blank stands at either end. -/
structure IsTrimmed (cs : List Char) : Prop where
  first : ∀ c ∈ cs.head?, isBlank c = false
  last : ∀ c ∈ cs.getLast?, isBlank c = false

/-- What is left behind leading blanks. -/
theorem dropWhile_blanks {before cs : List Char} (hbefore : IsBlank before)
    (hfirst : ∀ c ∈ cs.head?, isBlank c = false) : (before ++ cs).dropWhile isBlank = cs := by
  rw [List.dropWhile_append_of_pos hbefore]
  cases cs with
  | nil => rfl
  | cons c rest => exact List.dropWhile_cons_of_neg (by simp [hfirst c rfl])

/-- Trimming leaves what stands between the blanks at both ends. -/
theorem trimChars_eq {before cs after : List Char} (hbefore : IsBlank before) (hcs : IsTrimmed cs)
    (hafter : IsBlank after) : trimChars (before ++ (cs ++ after)) = cs := by
  have hback : IsBlank after.reverse := fun c hc => hafter c (List.mem_reverse.mp hc)
  cases cs with
  | nil =>
    have hall : IsBlank (before ++ ([] ++ after)) := by
      intro c hc
      rcases List.mem_append.mp hc with hc | hc
      · exact hbefore c hc
      · exact hafter c hc
    rw [trimChars, List.dropWhile_eq_nil_iff.mpr hall]
    rfl
  | cons c rest =>
    have hfront : (before ++ (c :: rest ++ after)).dropWhile isBlank = c :: rest ++ after :=
      dropWhile_blanks hbefore hcs.first
    rw [trimChars, hfront, List.reverse_append, dropWhile_blanks hback, List.reverse_reverse]
    intro d hd
    rw [List.head?_reverse] at hd
    exact hcs.last d hd

/-- Behind leading blanks there is no blank. -/
theorem head?_dropWhile_blanks {cs : List Char} {c : Char}
    (h : c ∈ (cs.dropWhile isBlank).head?) : isBlank c = false := by
  have hnot := List.head?_dropWhile_not isBlank cs
  rw [Option.mem_def.mp h] at hnot
  simpa using hnot

/-- Trimming takes the trailing blanks off what stands behind the leading ones. -/
theorem trimChars_append_blanks (cs : List Char) :
    trimChars cs ++ ((cs.dropWhile isBlank).reverse.takeWhile isBlank).reverse =
      cs.dropWhile isBlank := by
  rw [trimChars, ← List.reverse_append, List.takeWhile_append_dropWhile, List.reverse_reverse]

/-- A text is what trimming leaves of it, with blanks before and after. -/
theorem exists_blanks (cs : List Char) :
    ∃ before after, cs = before ++ (trimChars cs ++ after) ∧ IsBlank before ∧ IsBlank after := by
  let before := cs.takeWhile isBlank
  let after := ((cs.dropWhile isBlank).reverse.takeWhile isBlank).reverse
  have hbefore : IsBlank before := fun c hc => List.mem_takeWhile_imp hc
  have hafter : IsBlank after := fun c hc => List.mem_takeWhile_imp (List.mem_reverse.mp hc)
  refine ⟨before, after, ?_, hbefore, hafter⟩
  rw [trimChars_append_blanks, List.takeWhile_append_dropWhile]

/-- What trimming leaves has no blank at either end. -/
theorem isTrimmed_trimChars (cs : List Char) : IsTrimmed (trimChars cs) where
  first c hc := by
    have hfirst : c ∈ (cs.dropWhile isBlank).head? := by
      rw [← trimChars_append_blanks, List.head?_append, Option.mem_def.mp hc]
      rfl
    exact head?_dropWhile_blanks hfirst
  last c hc := by
    rw [trimChars, List.getLast?_reverse] at hc
    exact head?_dropWhile_blanks hc

/-- Trimming twice is trimming once. -/
theorem trimChars_trimChars (cs : List Char) : trimChars (trimChars cs) = trimChars cs := by
  have htrim : trimChars ([] ++ (trimChars cs ++ [])) = trimChars cs :=
    trimChars_eq nofun (isTrimmed_trimChars cs) nofun
  rwa [List.append_nil, List.nil_append] at htrim

/-- Blanks around a text are trimmed with those at its ends. -/
theorem trimChars_surrounded {before after : List Char} (hbefore : IsBlank before)
    (hafter : IsBlank after) (cs : List Char) :
    trimChars (before ++ (cs ++ after)) = trimChars cs := by
  obtain ⟨front, back, hcs, hfront, hback⟩ := exists_blanks cs
  have hsplit : before ++ (cs ++ after) = before ++ front ++ (trimChars cs ++ (back ++ after)) :=
    calc before ++ (cs ++ after) = before ++ (front ++ (trimChars cs ++ back) ++ after) := by
          rw [← hcs]
      _ = before ++ front ++ (trimChars cs ++ (back ++ after)) := by simp only [List.append_assoc]
  rw [hsplit]
  exact trimChars_eq (List.forall_mem_append.mpr ⟨hbefore, hfront⟩) (isTrimmed_trimChars cs)
    (List.forall_mem_append.mpr ⟨hback, hafter⟩)

/-- Nothing is left of blanks, and of nothing else. -/
theorem trimChars_eq_nil_iff {cs : List Char} : trimChars cs = [] ↔ IsBlank cs := by
  constructor
  · intro h
    obtain ⟨before, after, hcs, hbefore, hafter⟩ := exists_blanks cs
    rw [h, List.nil_append] at hcs
    rw [hcs]
    exact List.forall_mem_append.mpr ⟨hbefore, hafter⟩
  · intro h
    rw [trimChars, List.dropWhile_eq_nil_iff.mpr h]
    rfl

/-! ## Texts -/

theorem toList_trim (s : String) : (trim s).toList = trimChars s.toList := String.toList_ofList

theorem trim_trim (s : String) : trim (trim s) = trim s := by
  rw [trim, toList_trim, trimChars_trimChars]
  rfl

theorem trim_surrounded {before after : String} (hbefore : IsBlank before.toList)
    (hafter : IsBlank after.toList) (s : String) : trim (before ++ s ++ after) = trim s := by
  rw [trim, String.toList_append, String.toList_append, List.append_assoc,
    trimChars_surrounded hbefore hafter]
  rfl

theorem trim_eq_empty_iff {s : String} : trim s = "" ↔ IsBlank s.toList := by
  rw [← String.toList_inj, toList_trim]
  exact trimChars_eq_nil_iff

end ScatterPick.Text
