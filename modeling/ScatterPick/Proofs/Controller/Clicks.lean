import ScatterPick.Proofs.Controller.Gestures
import ScatterPick.Proofs.Geometry.Interpretation
import ScatterPick.Proofs.Selection.Toggling

/-!
# Clicks in additive mode

Gestures leave the mode, the points and the view alone, so what a gesture will hit does not depend
on the gestures before it. While the additive key is down they merge their hits one after the other,
and clicks, which hit one point at most, toggle.
-/

namespace ScatterPick.Controller

variable {C : Type} [Canvas C]

/-- A gesture selects what it leads to, whether that is new or not. -/
theorem selection_gestureFinished (c : Controller C) (vertices : List (Point Float)) :
    (c.gestureFinished vertices).selection = c.merged vertices := by
  by_cases h : c.merged vertices = c.selection
  · rw [gestureFinished_unchanged h, h]
  · rw [gestureFinished_changed h]
    rfl

/-- What a gesture hits does not depend on the gestures before it. -/
theorem outcome_gestureFinished [LawfulCanvas C] (c : Controller C)
    (vertices others : List (Point Float)) :
    (c.gestureFinished vertices).outcome others = c.outcome others := by
  have hview : Canvas.view (c.gestureFinished vertices).canvas = Canvas.view c.canvas := by
    by_cases h : c.merged vertices = c.selection
    · rw [gestureFinished_unchanged h]
      exact LawfulCanvas.view_requestRedraw c.canvas
    · rw [gestureFinished_changed h, showSelection_eq]
      simp
  have hshown := displays_gestureFinished c vertices
  rw [outcome, outcome, hview, hshown.points, hshown.settings]

/-- A click hits one point at most. -/
theorem size_hits_le_one {c : Controller C} {vertices : List (Point Float)}
    (h : (c.outcome vertices).kind = .click) : (c.outcome vertices).hits.size ≤ 1 :=
  have hrules := reads_interpret Number.hypot c.points vertices (Canvas.view c.canvas)
    c.settings.clickTolerance
  hrules.size_le_one h

/-- A connected controller in additive mode merges what the gestures hit, one after the other. -/
theorem selection_run_gestures [LawfulCanvas C] {c : Controller C} (hmode : c.mode.AllOrNone)
    (hconnected : c.isConnected = true) (hadditive : c.additive = true)
    (strokes : List (List (Point Float))) :
    (c.run (strokes.map fun vertices => .handle (.gesture vertices))).selection =
      c.selection.mergeAll (strokes.map fun vertices => (c.outcome vertices).hits) := by
  induction strokes generalizing c with
  | nil => rfl
  | cons vertices rest ih =>
    have hstep : c.step (.handle (.gesture vertices)) = c.gestureFinished vertices :=
      handle_gesture hmode hconnected vertices
    have hsame := mode_gestureFinished c vertices
    have hmode' : (c.gestureFinished vertices).mode.AllOrNone := hsame ▸ hmode
    have hconnected' : (c.gestureFinished vertices).isConnected = true := by
      rwa [isConnected_iff_listening, hsame, ← isConnected_iff_listening]
    have hadditive' : (c.gestureFinished vertices).additive = true :=
      (congrArg Mode.additive hsame).trans hadditive
    have hrest := ih hmode' hconnected' hadditive'
    simp only [outcome_gestureFinished] at hrest
    rw [List.map_cons, List.map_cons, run, List.foldl_cons, hstep]
    rw [← run, hrest, Selection.mergeAll_cons, selection_gestureFinished, merged, hadditive]

/-- Gestures in additive mode that hit one point at most toggle it, in any order: an index ends up
selected if it was before or was hit an odd number of times, but not both. Making them twice takes
them back. Clicks on a connected controller in additive mode are such gestures. -/
theorem additive_clicks_toggle [LawfulCanvas C] :
    (∀ (s : Selection) (clicks : List Selection), (∀ hits ∈ clicks, hits.size ≤ 1) →
      (∀ i, i ∈ (s.mergeAll clicks).members ↔
        Xor (i ∈ s.members) (Odd (clicks.countP (i ∈ ·.members)))) ∧
      (∀ others, others.Perm clicks → s.mergeAll others = s.mergeAll clicks) ∧
      s.mergeAll (clicks ++ clicks) = s) ∧
    ∀ (canvas : C) (points : List (Point Float)) (settings : SelectionSettings)
      (layout : HudSettings) (publishes : Bool) (steps : List Step)
      (strokes : List (List (Point Float))),
      let c := (new canvas points settings layout publishes).run steps
      let hits := strokes.map fun vertices => (c.outcome vertices).hits
      c.isConnected = true → c.additive = true →
      (∀ vertices ∈ strokes, (c.outcome vertices).kind = .click) →
      (∀ h ∈ hits, h.size ≤ 1) ∧
        (c.run (strokes.map fun vertices => .handle (.gesture vertices))).selection =
          c.selection.mergeAll hits := by
  refine ⟨fun s clicks hclicks => ⟨?_, fun others => ?_, ?_⟩, ?_⟩
  · exact Selection.mem_mergeAll hclicks
  · exact Selection.mergeAll_perm s hclicks
  · exact Selection.mergeAll_twice s hclicks
  · intro canvas points settings layout publishes steps strokes c hits hconnected hadditive hkinds
    refine ⟨fun h hmem => ?_, ?_⟩
    · obtain ⟨vertices, hvertices, rfl⟩ := List.mem_map.mp hmem
      exact size_hits_le_one (hkinds vertices hvertices)
    · have hmode := run_allOrNone canvas points settings layout publishes steps
      exact selection_run_gestures hmode hconnected hadditive strokes

/-- With the second of two points selected, three clicks on the first and one on the second select
the first alone, also in the opposite order. -/
theorem clicks_toggle_two_points :
    let c := (new (Headless.ofView .unit) [⟨0.25, 0.25⟩, ⟨0.75, 0.75⟩] {}).run
      [.connect, .handle (.keyDown .shift), .select [1]]
    let strokes : List (List (Point Float)) :=
      [[⟨0.25, 0.25⟩], [⟨0.75, 0.75⟩], [⟨0.25, 0.25⟩], [⟨0.25, 0.25⟩]]
    let hits := strokes.map fun vertices => (c.outcome vertices).hits
    (c.isConnected = true ∧ c.additive = true ∧
      ∀ vertices ∈ strokes, (c.outcome vertices).kind = .click) ∧
      (∀ h ∈ hits, h.size ≤ 1) ∧
      (c.run (strokes.map fun vertices => .handle (.gesture vertices))).selection.indices = [0] ∧
      c.selection.mergeAll hits.reverse = c.selection.mergeAll hits := by
  intro c strokes hits
  have hconnected : c.isConnected = true := by decide +kernel
  have hadditive : c.additive = true := by decide +kernel
  have hkinds : ∀ vertices ∈ strokes, (c.outcome vertices).kind = .click := by decide +kernel
  obtain ⟨hsizes, hrun⟩ := additive_clicks_toggle.2 (Headless.ofView .unit) _ {} {} true _ strokes
    hconnected hadditive hkinds
  have hperm := (additive_clicks_toggle (C := Headless)).1 c.selection hits hsizes
  refine ⟨⟨hconnected, hadditive, hkinds⟩, hsizes, ?_, hperm.2.1 _ hits.reverse_perm⟩
  rw [hrun]
  decide +kernel

end ScatterPick.Controller
