/-!
# Words and gaps

Lists as words with gaps between them, where a test tells which of the two an entry belongs to.
-/

namespace ScatterPick.Text

/-- A list is a word, or a word with a gap after it in front of the next word. -/
theorem runs_induction {α : Type} {motive : List α → Prop} (test : α → Bool)
    (word : ∀ w, w.all (!test ·) = true → motive w)
    (gap : ∀ w g rest, w.all (!test ·) = true → g ≠ [] → g.all test = true →
      rest.head?.all (!test ·) = true → motive rest → motive (w ++ (g ++ rest)))
    (cs : List α) : motive cs := by
  obtain ⟨n, hn⟩ : ∃ n, cs.length ≤ n := ⟨cs.length, Nat.le_refl _⟩
  induction n generalizing cs with
  | zero =>
    obtain rfl : cs = [] := List.eq_nil_of_length_eq_zero (Nat.le_zero.mp hn)
    exact word [] rfl
  | succ n ih =>
    have hword : (cs.takeWhile (!test ·)).all (!test ·) = true := List.all_takeWhile
    have hsplit := List.takeWhile_append_dropWhile (p := (!test ·)) (l := cs)
    cases hrest : cs.dropWhile (!test ·) with
    | nil =>
      rw [hrest, List.append_nil] at hsplit
      rw [← hsplit]
      exact word _ hword
    | cons a tail =>
      have ha : test a = true := by
        have hhead := List.head?_dropWhile_not (!test ·) cs
        rw [hrest] at hhead
        simpa using hhead
      let g := (a :: tail).takeWhile test
      let rest := (a :: tail).dropWhile test
      have hg : g = a :: tail.takeWhile test := List.takeWhile_cons_of_pos ha
      have hgap : g ++ rest = a :: tail := List.takeWhile_append_dropWhile
      have hlength : rest.length ≤ n := by
        have hparts := congrArg List.length hgap
        have hwhole := congrArg List.length hsplit
        rw [hg, List.length_append, List.length_cons] at hparts
        rw [hrest, List.length_append] at hwhole
        omega
      have hnext : rest.head?.all (!test ·) = true := by
        have hhead := List.head?_dropWhile_not test (a :: tail)
        cases hcons : rest with
        | nil => rfl
        | cons b bs =>
          simp only [rest] at hcons
          rw [hcons] at hhead
          simpa using hhead
      rw [← hsplit, hrest, ← hgap]
      exact gap _ g rest hword (by rw [hg]; exact List.cons_ne_nil _ _) List.all_takeWhile hnext
        (ih rest hlength)

end ScatterPick.Text
