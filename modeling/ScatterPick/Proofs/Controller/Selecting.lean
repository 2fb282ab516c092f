import ScatterPick.Proofs.Controller.Callbacks
import ScatterPick.Proofs.Controller.Shown
import ScatterPick.Proofs.Selection.FiniteSet

/-!
# Selecting by the host program

What a host program selects replaces the selection, whatever was selected before. The indices may
come in any order, repeated and out of range; those of points are selected, the others are counted
in a warning. Since styles keep nothing of the selections before, every state of a plot leads to the
same picture.
-/

namespace ScatterPick.Controller

variable {C : Type}

/-! ## Indices in and out of range -/

/-- The selected points are those of the list. -/
theorem indices_kept (c : Controller C) (indices : List Nat) :
    (c.kept indices).indices = {i ∈ indices.toFinset | i < c.points.length}.sort := by
  rw [kept, ← Selection.sort_members, Selection.members_bounded, Selection.members_ofList]

/-- Of a list nothing counts but which points it names. -/
theorem kept_congr {D : Type} {c : Controller C} {d : Controller D} {indices others : List Nat}
    (hpoints : d.points = c.points) (hsame : ∀ i < c.points.length, i ∈ others ↔ i ∈ indices) :
    d.kept others = c.kept indices := by
  rw [← Selection.members_inj]
  ext i
  simp only [kept, Selection.mem_members, Selection.mem_bounded, Selection.mem_ofList, hpoints]
  exact and_congr_left (hsame i)

/-- Indices out of range are counted once each. -/
theorem ignored_eq (c : Controller C) (indices : List Nat) :
    c.ignored indices = {i ∈ indices.toFinset | c.points.length ≤ i}.card := by
  rw [ignored, Selection.bounded_dropped, Selection.members_ofList]

/-- There is nothing to warn of if every index is in range. -/
theorem ignored_eq_zero_iff {c : Controller C} {indices : List Nat} :
    c.ignored indices = 0 ↔ ¬∃ i ∈ indices, c.points.length ≤ i := by
  rw [ignored_eq, Finset.card_eq_zero, Finset.filter_eq_empty_iff]
  simp only [List.mem_toFinset, not_exists, not_and]

/-! ## Replacing the selection -/

variable [Canvas C]

/-- `c'` comes from `c` by selecting those of the given indices that belong to points, restyling and
telling the subscribers once. -/
structure Replaces (c : Controller C) (indices : List Nat) (c' : Controller C) : Prop where
  selected : c'.selection.indices = {i ∈ indices.toFinset | i < c.points.length}.sort
  /-- The canvas gets the new styles and one request for a repaint. -/
  state : c' = { c with
    selection := c'.selection
    styles := c.styles.apply c'.selection c.settings.emphasis
    canvas := Canvas.requestRedraw (Canvas.setStyle c.canvas c'.canvasStyle)
    trace := c'.trace
    bus := c'.bus }
  style : Canvas.style c'.canvas = c'.canvasStyle
  /-- A warning counts the different indices out of range, then the notice goes out. -/
  trace : c'.trace = c.trace ++
    (if ∃ i ∈ indices, c.points.length ≤ i then
      [.logged (.indicesIgnored {i ∈ indices.toFinset | c.points.length ≤ i}.card c.points.length)]
    else []) ++
    if c.publishes then
      [.notified { kinds := .selectionSet, selection := some c'.selection.indices }]
    else []
  bus : c'.bus = if c.publishes then
    c.bus.emit { kinds := .selectionSet, selection := some c'.selection.indices } else c.bus
  /-- No selection callback runs. -/
  called : c'.called = c.called

/-- Selecting replaces the selection in every state. -/
theorem replaces_select [LawfulCanvas C] (c : Controller C) (indices : List Nat) :
    Replaces c indices (c.select indices) := by
  have hcalled : (c.select indices).called = c.called :=
    (calls_select c indices).called.trans (List.append_nil _)
  have hstyle := (displays_select c indices).canvas inferInstance
  rw [select_eq] at hcalled hstyle ⊢
  refine ⟨indices_kept c indices, rfl, hstyle, ?_, rfl, hcalled⟩
  change c.trace ++ (if c.ignored indices = 0 then [] else _) ++ _ = _
  rw [← ignored_eq]
  by_cases h : c.ignored indices = 0
  · rw [if_pos h, if_neg (ignored_eq_zero_iff.mp h)]
    rfl
  · rw [if_neg h, if_pos (not_not.mp (mt ignored_eq_zero_iff.mpr h))]
    rfl

/-! ## Forgetting the history -/

/-- In every state of a run the styles have grown out of those that the canvas started with, even if
the host program has handed other styles to the canvas since. -/
theorem run_grown (canvas : C) (points : List (Point Float)) (settings : SelectionSettings)
    (layout : HudSettings) (publishes : Bool) (steps : List Step) :
    ((new canvas points settings layout publishes).run steps).styles.Grown points.length
      (Canvas.style canvas) settings.sanitized.emphasis := by
  -- The settings belong to the invariant, since a step applies the emphasis that they give.
  refine (run_invariant (P := fun c => c.settings = settings.sanitized ∧
    c.styles.Grown points.length (Canvas.style canvas) settings.sanitized.emphasis)
    ⟨rfl, MarkerStyles.grown_ofCanvas ..⟩ (fun c s ⟨hsettings, hgrown⟩ => ?_) steps).2
  refine ⟨(step_settings c s).trans hsettings, ?_⟩
  rw [step_styles, hsettings]
  cases c.shown s with
  | none => exact hgrown
  | some sel => exact hgrown.apply sel

/-- After any run a selection is shown as if it were the first. -/
theorem run_select_styles (canvas : C) (points : List (Point Float))
    (settings : SelectionSettings) (layout : HudSettings) (publishes : Bool) (steps : List Step)
    (indices : List Nat) :
    let c := (new canvas points settings layout publishes).run steps
    let start := Canvas.style canvas
    (c.select indices).styles = (MarkerStyles.ofCanvas points.length start.alphas start.sizes).apply
      (c.kept indices) settings.sanitized.emphasis := by
  intro c start
  have hgrown : c.styles.Grown points.length start settings.sanitized.emphasis :=
    run_grown canvas points settings layout publishes steps
  have hsettings : c.settings = settings.sanitized :=
    run_settings canvas points settings layout publishes steps
  rw [(displays_select c indices).styles, hsettings]
  exact hgrown.apply_eq_first (c.kept indices)

/-- In every state that a run reaches, selecting leaves the points of the list selected in ascending
order, once each. The other indices are warned of. The styles are shown, one repaint is asked for
and one notice goes out, even if nothing changed, but no selection callback runs. The selection and
the buffers of controller and canvas are the same from every state that is ever reached from the
same points, settings and styles, for every list with the same points. -/
theorem run_select_canonical [LawfulCanvas C] (canvas : C) (points : List (Point Float))
    (settings : SelectionSettings) (layout : HudSettings) (publishes : Bool) (steps : List Step)
    (indices : List Nat) :
    let c := (new canvas points settings layout publishes).run steps
    c.points = points ∧ Replaces c indices (c.select indices) ∧
      ∀ {D : Type} [Canvas D] [LawfulCanvas D] (canvas' : D) (layout' : HudSettings)
        (publishes' : Bool) (steps' : List Step) (indices' : List Nat),
        Canvas.style canvas' = Canvas.style canvas →
        (∀ i < points.length, i ∈ indices' ↔ i ∈ indices) →
        let d := (new canvas' points settings layout' publishes').run steps'
        (d.select indices').selection = (c.select indices).selection ∧
          (d.select indices').styles = (c.select indices).styles ∧
          Canvas.style (d.select indices').canvas = Canvas.style (c.select indices).canvas := by
  intro c
  have hpoints : c.points = points := run_points canvas points settings layout publishes steps
  refine ⟨hpoints, replaces_select c indices, ?_⟩
  intro D _ _ canvas' layout' publishes' steps' indices' hstyle hsame d
  have hpoints' : d.points = points := run_points canvas' points settings layout' publishes' steps'
  have hkept : d.kept indices' = c.kept indices := by
    rw [← hpoints] at hsame hpoints'
    exact kept_congr hpoints' hsame
  have hstyles : (d.select indices').styles = (c.select indices).styles := by
    rw [run_select_styles canvas points, run_select_styles canvas' points, hstyle, hkept]
  refine ⟨?_, hstyles, ?_⟩
  · rw [(displays_select d indices').selection, hkept, (displays_select c indices).selection]
    rfl
  · rw [(replaces_select d indices').style, (replaces_select c indices).style, canvasStyle,
      canvasStyle, hstyles]

/-- A list with repeats and two indices out of range, given after two other selections, and the bare
index of a point, given to a controller that is still disconnected, lead to the same picture. -/
theorem selection_forgets_history :
    let canvas := Headless.ofView .unit ⟨[0.5], [2.0]⟩
    let points : List (Point Float) := [⟨0.0, 0.0⟩, ⟨1.0, 1.0⟩]
    let c := (new canvas points {}).run [.connect, .select [0, 1], .select [0]]
    let d := (new (Headless.ofView ⟨⟨2.0, 3.0⟩, ⟨2.0, 3.0⟩⟩ canvas.style) points {}).run []
    (∀ i < points.length, i ∈ [1] ↔ i ∈ [9, 1, 7, 9, 1]) ∧
      Replaces c [9, 1, 7, 9, 1] (c.select [9, 1, 7, 9, 1]) ∧
      (d.select [1]).selection = (c.select [9, 1, 7, 9, 1]).selection ∧
      Canvas.style (d.select [1]).canvas = Canvas.style (c.select [9, 1, 7, 9, 1]).canvas ∧
      (c.select [9, 1, 7, 9, 1]).canvas.style = ⟨[0.25, 1.0], [2.0, 6.0]⟩ := by
  intro canvas points c d
  have hsame : ∀ i < points.length, i ∈ [1] ↔ i ∈ [9, 1, 7, 9, 1] := by decide
  obtain ⟨-, hreplaces, hcanonical⟩ := run_select_canonical canvas points {} {} true
    [.connect, .select [0, 1], .select [0]] [9, 1, 7, 9, 1]
  obtain ⟨hselection, -, hstyle⟩ := hcanonical
    (Headless.ofView ⟨⟨2.0, 3.0⟩, ⟨2.0, 3.0⟩⟩ canvas.style) {} true [] [1] rfl hsame
  refine ⟨hsame, hreplaces, hselection, ?_, by decide +kernel⟩
  -- With the two states written out the sides agree as they stand, and neither run is evaluated.
  simp only [c, d]
  exact hstyle

end ScatterPick.Controller
