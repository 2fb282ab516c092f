import Mathlib.Data.List.Destutter
import Mathlib.Data.List.Induction
import ScatterPick.Frame.Recorder

/-!
# Trails and the input that draws them

The recorder holds one trail at most, and the frames so far tell which: the place of the last press
that counts, with what the pointer drew since, unless the button went up in between. A trail that
ends was drawn in this way, and a press that counts comes to one end at most.
-/

namespace ScatterPick.Recorder

/-- Two vertices that are not the same place. -/
def Apart (p q : Point Float) : Prop := samePlace p q = false

instance : DecidableRel Apart := fun p q => inferInstanceAs (Decidable (samePlace p q = false))

/-- The places on a way, without those where the pointer rested. -/
def collapse (places : List (Point Float)) : List (Point Float) := places.destutter Apart

/-- Where the pointer draws in a frame. -/
def drawn (i : Input) : Option (Point Float) := if i.down then i.place else none

/-- `vertices` are drawn by `press`, the last press that counts among some inputs, and by what came
later: the place of the press comes first, then every place where the button was down. -/
structure Draws (inputs : List Input) (press : Input) (later : List Input)
    (vertices : List (Point Float)) : Prop where
  since : press :: later <:+ inputs
  accepted : press.accepted = true
  quiet : ∀ i ∈ later, i.accepted = false
  vertices_eq : ∃ place, press.place = some place ∧
    vertices = collapse (place :: (press :: later).filterMap drawn)

/-- `vertices` are what was drawn last, and the button did not go up since. -/
def Holds (inputs : List Input) (vertices : List (Point Float)) : Prop :=
  ∃ press later, Draws inputs press later vertices ∧ ∀ i ∈ press :: later, i.released = false

/-- `vertices` are what was drawn last, and the button did not go up before the last frame. -/
def Ends (inputs : List Input) (vertices : List (Point Float)) : Prop :=
  ∃ press later, Draws inputs press later vertices ∧
    ∀ i ∈ (press :: later).dropLast, i.released = false

/-! ## Vertices -/

theorem extend_concat (trail : List (Point Float)) (last p : Point Float) :
    extend (trail ++ [last]) p =
      if Apart last p then trail ++ [last] ++ [p] else trail ++ [last] := by
  simp only [extend, List.getLast?_concat]
  cases h : samePlace last p with
  | true =>
    have hnear : ¬ Apart last p := fun hapart => Bool.noConfusion (h.symm.trans hapart)
    rw [if_neg hnear, if_pos rfl]
  | false =>
    have hapart : Apart last p := h
    rw [if_pos hapart, if_neg Bool.false_ne_true]

/-- Appending one place after the other leaves those apart from the last vertex. -/
theorem foldl_extend (trail : List (Point Float)) (last : Point Float)
    (places : List (Point Float)) :
    places.foldl extend (trail ++ [last]) = trail ++ places.destutter' Apart last := by
  induction places generalizing trail last with
  | nil => rfl
  | cons p rest ih =>
    rw [List.foldl_cons, extend_concat, List.destutter'_cons]
    by_cases h : Apart last p
    · rw [if_pos h, if_pos h, ih, List.append_assoc, List.singleton_append]
    · rw [if_neg h, if_neg h, ih]

theorem collapse_cons (place : Point Float) (places : List (Point Float)) :
    collapse (place :: places) = places.foldl extend [place] := (foldl_extend [] place places).symm

theorem collapse_concat (place p : Point Float) (places : List (Point Float)) :
    collapse (place :: (places ++ [p])) = extend (collapse (place :: places)) p := by
  rw [collapse_cons, collapse_cons, List.foldl_append]
  rfl

theorem Draws.ne_nil {inputs later : List Input} {press : Input} {vertices : List (Point Float)}
    (h : Draws inputs press later vertices) : vertices ≠ [] := by
  obtain ⟨place, -, rfl⟩ := h.vertices_eq
  exact List.destutter'_ne_nil _ _

/-! ## One more frame -/

section Concat

variable {inputs : List Input} {i press : Input} {later : List Input}
  {vertices : List (Point Float)}

/-- A movement with the button down draws on. -/
theorem follow_some (i : Input) (vertices : List (Point Float)) :
    follow i (some vertices) = some ((drawn i).elim vertices (extend vertices)) := by
  unfold follow drawn
  cases i.down with
  | false => rfl
  | true =>
    cases i.place with
    | none => rfl
    | some p => rfl

/-- Without a press nothing is drawn. -/
theorem follow_none (i : Input) : follow i none = none := by
  unfold follow
  cases i.down with
  | false => rfl
  | true => rfl

/-- What a press draws in its own frame. -/
theorem draws_concat_of_accepted (hi : i.accepted = true) :
    Draws (inputs ++ [i]) press later vertices ↔ press = i ∧ later = [] ∧
      ∃ place, i.place = some place ∧ vertices = (drawn i).elim [place] (extend [place]) := by
  have hown (place : Point Float) :
      collapse (place :: [i].filterMap drawn) = (drawn i).elim [place] (extend [place]) := by
    rw [collapse_cons]
    cases h : drawn i with
    | none => rw [List.filterMap_cons_none h]; rfl
    | some p => rw [List.filterMap_cons_some h]; rfl
  constructor
  · intro h
    have hlast : later = [] := by
      cases later using List.reverseRecOn with
      | nil => rfl
      | append_singleton sofar j =>
        obtain ⟨earlier, hsplit⟩ := h.since
        rw [← List.cons_append, ← List.append_assoc] at hsplit
        obtain ⟨-, rfl⟩ := List.append_singleton_inj.mp hsplit
        have hquiet := h.quiet j (by simp)
        rw [hi] at hquiet
        cases hquiet
    subst hlast
    obtain ⟨earlier, hsplit⟩ := h.since
    obtain ⟨-, rfl⟩ := List.append_singleton_inj.mp hsplit
    obtain ⟨place, hplace, hvertices⟩ := h.vertices_eq
    exact ⟨rfl, rfl, place, hplace, hvertices.trans (hown place)⟩
  · rintro ⟨rfl, rfl, place, hplace, hvertices⟩
    exact ⟨List.suffix_append .., hi, by simp, place, hplace, hvertices.trans (hown place).symm⟩

/-- What is drawn on in a frame without a press that counts. -/
theorem draws_concat_of_quiet (hi : i.accepted = false) :
    Draws (inputs ++ [i]) press later vertices ↔ ∃ sofar before, later = sofar ++ [i] ∧
      Draws inputs press sofar before ∧ vertices = (drawn i).elim before (extend before) := by
  have hon (place : Point Float) (sofar : List Input) :
      collapse (place :: (press :: (sofar ++ [i])).filterMap drawn) =
        (drawn i).elim (collapse (place :: (press :: sofar).filterMap drawn))
          (extend (collapse (place :: (press :: sofar).filterMap drawn))) := by
    rw [← List.cons_append, List.filterMap_append]
    cases h : drawn i with
    | none => rw [List.filterMap_cons_none h, List.filterMap_nil, List.append_nil]; rfl
    | some p => rw [List.filterMap_cons_some h, List.filterMap_nil, collapse_concat]; rfl
  constructor
  · intro h
    obtain ⟨earlier, hsplit⟩ := h.since
    cases later using List.reverseRecOn with
    | nil =>
      obtain ⟨-, rfl⟩ := List.append_singleton_inj.mp hsplit
      have haccepted := h.accepted
      rw [hi] at haccepted
      cases haccepted
    | append_singleton sofar j =>
      rw [← List.cons_append, ← List.append_assoc] at hsplit
      obtain ⟨hinputs, rfl⟩ := List.append_singleton_inj.mp hsplit
      obtain ⟨place, hplace, hvertices⟩ := h.vertices_eq
      exact ⟨sofar, _, rfl, ⟨⟨earlier, hinputs⟩, h.accepted,
        fun k hk => h.quiet k (List.mem_append_left _ hk), place, hplace, rfl⟩,
        hvertices.trans (hon place sofar)⟩
  · rintro ⟨sofar, before, rfl, h, hvertices⟩
    obtain ⟨place, hplace, rfl⟩ := h.vertices_eq
    obtain ⟨earlier, hsplit⟩ := h.since
    refine ⟨⟨earlier, ?_⟩, h.accepted, fun k hk => ?_, place, hplace,
      hvertices.trans (hon place sofar).symm⟩
    · rw [← List.cons_append, ← List.append_assoc, hsplit]
    · rcases List.mem_append.mp hk with hk | hk
      · exact h.quiet k hk
      · rw [List.mem_singleton.mp hk, hi]

/-- A trail goes on after a frame if it was drawn up to the end of the frame and the button did not
go up. -/
theorem holds_concat :
    Holds (inputs ++ [i]) vertices ↔ Ends (inputs ++ [i]) vertices ∧ i.released = false := by
  have hlast {press : Input} {later : List Input} (h : press :: later <:+ inputs ++ [i]) :
      ∃ before, press :: later = before ++ [i] := by
    rcases List.suffix_concat_iff.mp h with hnil | ⟨before, hbefore, -⟩
    · cases hnil
    · exact ⟨before, hbefore⟩
  constructor
  · rintro ⟨press, later, h, hheld⟩
    obtain ⟨before, hbefore⟩ := hlast h.since
    exact ⟨⟨press, later, h, fun j hj => hheld j (List.dropLast_subset _ hj)⟩,
      hheld i (by simp [hbefore])⟩
  · rintro ⟨⟨press, later, h, hheld⟩, hi⟩
    obtain ⟨before, hbefore⟩ := hlast h.since
    refine ⟨press, later, h, fun j hj => ?_⟩
    rw [hbefore, List.dropLast_concat] at hheld
    rw [hbefore] at hj
    rcases List.mem_append.mp hj with hj | hj
    · exact hheld j hj
    · rw [List.mem_singleton.mp hj, hi]

/-- If the recorder holds what was drawn before a frame, then within the frame it holds what was
drawn up to its end. -/
theorem follow_start_eq_some {trail : Option (List (Point Float))}
    (htrail : ∀ before, trail = some before ↔ Holds inputs before) :
    follow i (start i trail) = some vertices ↔ Ends (inputs ++ [i]) vertices := by
  unfold Ends
  cases hi : i.accepted with
  | true =>
    simp only [draws_concat_of_accepted hi, start, hi, if_true]
    constructor
    · intro h
      cases hplace : i.place with
      | none =>
        rw [hplace, Option.map_none, follow_none] at h
        cases h
      | some place =>
        rw [hplace, Option.map_some, follow_some] at h
        exact ⟨i, [], ⟨rfl, rfl, place, rfl, (Option.some.inj h).symm⟩, by simp⟩
    · rintro ⟨press, later, ⟨rfl, rfl, place, hplace, rfl⟩, -⟩
      rw [hplace, Option.map_some, follow_some]
  | false =>
    simp only [draws_concat_of_quiet hi, start, hi, Bool.false_eq_true, if_false]
    constructor
    · intro h
      cases hsome : trail with
      | none =>
        rw [hsome, follow_none] at h
        cases h
      | some before =>
        rw [hsome, follow_some] at h
        obtain ⟨press, sofar, hdraws, hheld⟩ := (htrail before).mp hsome
        refine ⟨press, sofar ++ [i], ⟨sofar, before, rfl, hdraws, (Option.some.inj h).symm⟩, ?_⟩
        rwa [← List.cons_append, List.dropLast_concat]
    · rintro ⟨press, later, ⟨sofar, before, rfl, hdraws, rfl⟩, hheld⟩
      rw [← List.cons_append, List.dropLast_concat] at hheld
      rw [(htrail before).mpr ⟨press, sofar, hdraws, hheld⟩, follow_some]

end Concat

/-! ## Runs of frames -/

/-- The trail that goes on after some frames. -/
def trailAfter (inputs : List Input) : Option (List (Point Float)) :=
  inputs.foldl (fun trail i => (step i trail).1) none

theorem trailAfter_concat (inputs : List Input) (i : Input) :
    trailAfter (inputs ++ [i]) = (step i (trailAfter inputs)).1 := by
  simp [trailAfter]

/-- The recorder holds what was drawn and not let go. -/
theorem trailAfter_eq_some {inputs : List Input} {vertices : List (Point Float)} :
    trailAfter inputs = some vertices ↔ Holds inputs vertices := by
  induction inputs using List.reverseRecOn generalizing vertices with
  | nil =>
    refine iff_of_false nofun ?_
    rintro ⟨press, later, h, -⟩
    exact List.cons_ne_nil _ _ (List.suffix_nil.mp h.since)
  | append_singleton inputs i ih =>
    rw [trailAfter_concat, holds_concat, ← follow_start_eq_some fun before => ih, step]
    cases i.released with
    | true => simp
    | false => simp

/-- The trail that ends in a frame is what was drawn up to its end. -/
theorem ended_eq_some {inputs : List Input} {i : Input} {vertices : List (Point Float)} :
    (step i (trailAfter inputs)).2 = some vertices ↔
      i.released = true ∧ Ends (inputs ++ [i]) vertices := by
  rw [← follow_start_eq_some fun before => trailAfter_eq_some, step]
  cases i.released with
  | true => simp
  | false => simp

/-- A release leaves no trail. -/
theorem step_of_released {i : Input} (hi : i.released = true)
    (trail : Option (List (Point Float))) : (step i trail).1 = none := by
  rw [step, if_pos hi]

/-- The trails that end in some frames. -/
def endings (trail : Option (List (Point Float))) : List Input → List (List (Point Float))
  | [] => []
  | i :: rest => (step i trail).2.toList ++ endings (step i trail).1 rest

/-- Without a trail and a press nothing comes to an end. -/
theorem endings_of_quiet {inputs : List Input} (h : ∀ i ∈ inputs, i.accepted = false) :
    endings none inputs = [] := by
  induction inputs with
  | nil => rfl
  | cons i rest ih =>
    have hstep : step i none = (none, none) := by
      simp only [step, start, h i (by simp), Bool.false_eq_true, if_false, follow_none, ite_self]
    rw [endings, hstep, ih fun j hj => h j (List.mem_cons_of_mem _ hj)]
    rfl

/-- From a press on to the next one that counts, one trail ends at most. -/
theorem length_endings_le (trail : Option (List (Point Float))) {inputs : List Input}
    (h : ∀ i ∈ inputs.tail, i.accepted = false) : (endings trail inputs).length ≤ 1 := by
  induction inputs generalizing trail with
  | nil => exact Nat.zero_le 1
  | cons i rest ih =>
    rw [endings, List.length_append]
    cases hi : i.released with
    | true =>
      have hrest : endings none rest = [] := endings_of_quiet h
      rw [step_of_released hi, hrest]
      cases (step i trail).2 with
      | none => exact Nat.zero_le 1
      | some vertices => exact Nat.le_refl 1
    | false =>
      have hnone : (step i trail).2 = none := by
        rw [step, hi]
        rfl
      rw [hnone, Option.toList_none, List.length_nil, Nat.zero_add]
      exact ih _ fun j hj => h j (List.mem_of_mem_tail hj)

end ScatterPick.Recorder
