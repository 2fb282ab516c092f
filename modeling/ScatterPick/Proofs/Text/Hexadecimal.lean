import Mathlib.Data.List.Induction
import ScatterPick.Text.Hexadecimal

/-!
# Numbers from hexadecimal digits

The digits of a number spell the number, in lower and in upper case.
-/

namespace ScatterPick.Text

theorem hexValue?_concat (cs : List Char) (c : Char) :
    hexValue? (cs ++ [c]) = (hexValue? cs).bind fun n => (hexDigit? c).map (16 * n + ·) := by
  rw [hexValue?, List.foldl_append]
  rfl

/-- What spells a number consists of digits. -/
theorem exists_hexDigit?_of_mem {cs : List Char} {n : Nat} (h : hexValue? cs = some n) {c : Char}
    (hc : c ∈ cs) : ∃ d, hexDigit? c = some d := by
  induction cs using List.reverseRecOn generalizing n with
  | nil => cases hc
  | append_singleton cs last ih =>
    rw [hexValue?_concat] at h
    obtain ⟨front, hfront, hlast⟩ := Option.bind_eq_some_iff.mp h
    obtain ⟨d, hd, -⟩ := Option.map_eq_some_iff.mp hlast
    rcases List.mem_append.mp hc with hc | hc
    · exact ih hfront hc
    · obtain rfl := List.mem_singleton.mp hc
      exact ⟨d, hd⟩

/-- The digits of a number spell the number, if the case in which they are written is that of
digits. -/
theorem hexValue?_map_toDigits {cased : Char → Char}
    (hcased : ∀ d : Fin 16, hexDigit? (cased (Nat.digitChar d.val)) = some d.val) (n : Nat) :
    hexValue? ((Nat.toDigits 16 n).map cased) = some n := by
  have hdigit {d : Nat} (h : d < 16) : hexDigit? (cased (Nat.digitChar d)) = some d :=
    hcased ⟨d, h⟩
  induction n using Nat.strongRecOn with
  | ind n ih =>
    by_cases h : n < 16
    · have hsingle : hexValue? [cased n.digitChar] =
          (hexDigit? (cased n.digitChar)).map (16 * 0 + ·) := rfl
      rw [Nat.toDigits_of_lt_base h, List.map_singleton, hsingle, hdigit h]
      simp
    · rw [Nat.toDigits_of_base_le (by decide) (by omega), List.map_append, List.map_singleton,
        hexValue?_concat, ih (n / 16) (by omega), Option.bind_some, hdigit (by omega),
        Option.map_some]
      congr 1
      omega

/-- The digits of a number in lower case spell the number. -/
theorem hexValue?_toDigits (n : Nat) : hexValue? (Nat.toDigits 16 n) = some n := by
  have hspelled : hexValue? ((Nat.toDigits 16 n).map id) = some n :=
    hexValue?_map_toDigits (by decide) n
  rwa [List.map_id] at hspelled

end ScatterPick.Text
