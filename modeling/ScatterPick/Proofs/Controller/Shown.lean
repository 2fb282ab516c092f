import ScatterPick.Proofs.Controller.Display

/-!
# The selection and its picture in every run

However a run goes, what is selected are points, in ascending order and once each, and the picture
is that of the last selection that was shown: no earlier step leaves a mark on it.
-/

namespace ScatterPick.Controller

variable {C : Type} [Canvas C]

/-! ## Only points are selected -/

/-- Every selected index belongs to a point. -/
def SelectsPoints (c : Controller C) : Prop := ∀ i ∈ c.selection.indices, i < c.points.length

omit [Canvas C] in
theorem kept_lt {c : Controller C} {indices : List Nat} {i : Nat}
    (h : i ∈ (c.kept indices).indices) : i < c.points.length :=
  (Selection.mem_bounded.mp h).2

/-- A gesture leads to points only: the merge has no members but those of the selection before and
those that were hit. -/
theorem merged_lt {c : Controller C} {vertices : List (Point Float)} (hc : c.SelectsPoints)
    {i : Nat} (h : i ∈ (c.merged vertices).indices) : i < c.points.length := by
  rcases Selection.mem_of_mem_merge h with hold | hhit
  · exact hc i hold
  · exact interpret_hits_lt hhit

/-- An event shows points only. -/
theorem shownBy_lt {c : Controller C} {event : UserEvent} {s : Selection} (hc : c.SelectsPoints)
    (h : c.shownBy event = some s) {i : Nat} (hi : i ∈ s.indices) : i < c.points.length := by
  cases event with
  | gesture vertices =>
    rw [shownBy] at h
    split at h
    · cases h
    · obtain rfl := Option.some.inj h
      exact merged_lt hc hi
  | buttonClick index =>
    rw [shownBy] at h
    split at h
    · obtain rfl := Option.some.inj h
      cases hi
    · cases h
  | _ => cases h

/-- A step shows points only. -/
theorem shown_lt {c : Controller C} {s : Step} {sel : Selection} (hc : c.SelectsPoints)
    (h : c.shown s = some sel) {i : Nat} (hi : i ∈ sel.indices) : i < c.points.length := by
  cases s with
  | clear =>
    obtain rfl := Option.some.inj h
    cases hi
  | select indices =>
    obtain rfl := Option.some.inj h
    exact kept_lt hi
  | dispatch event => exact shownBy_lt hc h hi
  | handle event =>
    obtain ⟨e, -, he⟩ := Option.bind_eq_some_iff.mp h
    exact shownBy_lt hc he hi
  | _ => cases h

theorem step_selectsPoints {c : Controller C} (hc : c.SelectsPoints) (s : Step) :
    (c.step s).SelectsPoints := by
  intro i hi
  rw [step_selection] at hi
  rw [step_points]
  cases hshown : c.shown s with
  | none =>
    rw [hshown] at hi
    exact hc i hi
  | some sel =>
    rw [hshown] at hi
    exact shown_lt hc hshown hi

/-- In every state that a run reaches the selection is a strictly ascending list of indices of
points, in which binary search decides membership. -/
theorem run_selection_ascending_within (canvas : C) (points : List (Point Float))
    (settings : SelectionSettings) (layout : HudSettings) (publishes : Bool)
    (steps : List Step) :
    let c := (new canvas points settings layout publishes).run steps
    c.points = points ∧
      c.selection.indices.Pairwise (· < ·) ∧
      (∀ i ∈ c.selection.indices, i < points.length) ∧
      (∀ i, c.selection.contains i = true ↔ i ∈ c.selection.indices) ∧
      (c.hasSelection = true ↔ c.selection.indices ≠ []) := by
  intro c
  have hpoints : c.points = points := run_points canvas points settings layout publishes steps
  have hinv : c.SelectsPoints := by
    refine run_invariant (P := SelectsPoints) ?_ (fun c s hc => step_selectsPoints hc s) steps
    exact fun i hi => by cases hi
  refine ⟨hpoints, c.selection.ascending, ?_, fun i => Selection.contains_iff, ?_⟩
  · intro i hi
    rw [← hpoints]
    exact hinv i hi
  · simp [hasSelection, Selection.isEmpty]

/-! ## Only the last selection shows -/

/-- The picture on the canvas is that of a selection over the styles that the canvas started with,
or still these styles if nothing was shown. -/
structure Pictures (points : Nat) (start : CanvasStyle) (e : Emphasis) (c : Controller C)
    (last : Option Selection) : Prop where
  emphasis : c.settings.emphasis = e
  grown : c.styles.Grown points start e
  synced : Canvas.style c.canvas = c.canvasStyle
  selection : c.selection = last.getD .empty
  picture : c.canvasStyle = last.elim start (CanvasStyle.showing points start e)

/-- A step leaves the picture alone or replaces it by that of the selection it shows. -/
theorem Pictures.step [LawfulCanvas C] {points : Nat} {start : CanvasStyle} {e : Emphasis}
    {c : Controller C} {last : Option Selection} (h : Pictures points start e c last) {s : Step}
    (hs : s.setsStyle = false) : Pictures points start e (c.step s) ((c.shown s).or last) := by
  obtain ⟨hpoints, hsettings, hselection, hstyles, hcanvas⟩ := step_displays c hs
  have hcanvas := hcanvas ‹_›
  cases hshown : c.shown s with
  | none =>
    rw [hshown] at hselection hstyles hcanvas
    have hsame : (c.step s).canvasStyle = c.canvasStyle := by
      rw [canvasStyle, canvasStyle, hstyles, Option.elim_none]
    refine ⟨?_, ?_, ?_, ?_, ?_⟩
    · rw [hsettings, h.emphasis]
    · rw [hstyles]
      exact h.grown
    · rw [hcanvas, hsame]
      exact h.synced
    · rw [hselection]
      exact h.selection
    · rw [hsame]
      exact h.picture
  | some sel =>
    rw [hshown, Option.elim_some] at hstyles
    rw [hshown] at hselection hcanvas
    rw [h.emphasis] at hstyles
    refine ⟨?_, ?_, hcanvas, hselection, ?_⟩
    · rw [hsettings, h.emphasis]
    · rw [hstyles]
      exact h.grown.apply sel
    · rw [canvasStyle, hstyles]
      exact CanvasStyle.apply_eq_showing h.grown sel

/-- The selection that a step of a history shows. -/
def shownMark (p : Controller C × Step) : Option Selection := p.1.shown p.2

/-- A run that leaves the styles of the canvas to the controller ends with the picture of the last
selection that it showed. -/
theorem run_pictures [LawfulCanvas C] (canvas : C) (points : List (Point Float))
    (settings : SelectionSettings) (layout : HudSettings) (publishes : Bool) {steps : List Step}
    (hsteps : ∀ s ∈ steps, s.setsStyle = false) :
    Pictures points.length (Canvas.style canvas) settings.sanitized.emphasis
      ((new canvas points settings layout publishes).run steps)
      (lastMark shownMark ((new canvas points settings layout publishes).history steps)) := by
  refine run_induction (P := fun c past => Pictures points.length (Canvas.style canvas)
    settings.sanitized.emphasis c (lastMark shownMark past)) ?_ ?_ hsteps
  · exact ⟨rfl, MarkerStyles.grown_ofCanvas _ _ _, Canvas.style_subscribe canvas .close, rfl, rfl⟩
  · intro c past s hs hc
    rw [lastMark_concat]
    exact hc.step hs

/-- On a canvas without a screen the buffers of controller and canvas always agree. As long as no
selection was shown nothing is selected and they are those that the canvas started with. From then
on they are a function of the selection alone. -/
theorem run_buffers_show_selection (canvas : Headless) (points : List (Point Float))
    (settings : SelectionSettings) (layout : HudSettings) (publishes : Bool) (steps : List Step)
    (hsteps : ∀ s ∈ steps, s.setsStyle = false) :
    let start := new canvas points settings layout publishes
    let c := start.run steps
    let last := lastMark shownMark (start.history steps)
    c.canvasStyle = c.canvas.style ∧
      (last = none → c.selection = .empty ∧ c.canvas.style = canvas.style) ∧
      (last ≠ none → last = some c.selection ∧ c.canvas.style =
        .showing points.length canvas.style settings.sanitized.emphasis c.selection) := by
  intro start c last
  have h : Pictures points.length canvas.style settings.sanitized.emphasis c last :=
    run_pictures canvas points settings layout publishes hsteps
  have hsynced : c.canvas.style = c.canvasStyle := h.synced
  refine ⟨hsynced.symm, fun hnone => ?_, fun hsome => ?_⟩
  · have hselection := h.selection
    have hpicture := h.picture
    rw [hnone] at hselection hpicture
    exact ⟨hselection, hsynced.trans hpicture⟩
  · obtain ⟨sel, hsel⟩ := Option.ne_none_iff_exists'.mp hsome
    have hselection := h.selection
    have hpicture := h.picture
    rw [hsel] at hselection hpicture
    obtain rfl : c.selection = sel := hselection
    exact ⟨hsel, hsynced.trans hpicture⟩

/-- Selecting one of two points on a canvas with a single shared entry widens both buffers, and a
second selection multiplies the size it started with, not the one that was shown. -/
theorem buffers_show_second_selection :
    let canvas := Headless.ofView .unit ⟨[0.5], [2.0]⟩
    let points : List (Point Float) := [⟨0.0, 0.0⟩, ⟨1.0, 1.0⟩]
    let steps : List Step := [.connect, .select [0, 7], .select [1]]
    (∀ s ∈ steps, s.setsStyle = false) ∧
      ((new canvas points {}).run steps).canvas.style = ⟨[0.25, 1.0], [2.0, 6.0]⟩ := by
  intro canvas points steps
  have hsteps : ∀ s ∈ steps, s.setsStyle = false := by simp [steps, Step.setsStyle]
  have h := (run_buffers_show_selection canvas points {} {} true steps hsteps).2.2 (by decide)
  exact ⟨hsteps, h.2.trans (by decide)⟩

end ScatterPick.Controller
