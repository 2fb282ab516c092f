import ScatterPick.Canvas.Lawful
import ScatterPick.Proofs.Controller.History
import ScatterPick.Proofs.Controller.Operations
import ScatterPick.Proofs.Geometry.Hits
import ScatterPick.Proofs.Style.Marker

/-!
# What is selected and how it is shown

A step shows at most one selection, and `shown` says which. Everything else a step does leaves the
selection and its styles alone. So the selection stays a set of points, and the buffers of the
controller and of its canvas are those of the last selection that was shown.
-/

namespace ScatterPick

/-- Whether the host program hands styles to the canvas in a step, past the controller. -/
def Step.setsStyle : Step → Bool
  | .setStyle _ => true
  | _ => false

namespace Controller

variable {C : Type} [Canvas C]

/-- The selection that an event shows: a gesture shows what it leads to unless that is shown
already, and a button whose callback asks for it shows the empty selection. -/
def shownBy (c : Controller C) : UserEvent → Option Selection
  | .gesture vertices => if c.merged vertices = c.selection then none else some (c.merged vertices)
  | .buttonClick index => if .clearSelection ∈ c.requestsOf index then some .empty else none
  | _ => none

/-- The selection that a step shows. -/
def shown (c : Controller C) : Step → Option Selection
  | .clear => some .empty
  | .select indices => some (c.kept indices)
  | s => (c.arriving s).bind c.shownBy

/-- `c'` comes from `c` by showing a selection, or by nothing that concerns selection and styles. -/
structure Displays (c : Controller C) (shown : Option Selection) (c' : Controller C) : Prop where
  points : c'.points = c.points
  settings : c'.settings = c.settings
  selection : c'.selection = shown.getD c.selection
  styles : c'.styles = shown.elim c.styles fun s => c.styles.apply s c.settings.emphasis
  /-- A canvas that keeps what it is given gets the new styles and no others. -/
  canvas : LawfulCanvas C →
    Canvas.style c'.canvas = shown.elim (Canvas.style c.canvas) fun _ => c'.canvasStyle

namespace Displays

theorem refl (c : Controller C) : Displays c none c := ⟨rfl, rfl, rfl, rfl, fun _ => rfl⟩

/-- Showing nothing first does not matter. -/
theorem of_quiet {c c' c'' : Controller C} {shown : Option Selection} (h : Displays c none c')
    (h' : Displays c' shown c'') : Displays c shown c'' := by
  have hselection : c'.selection = c.selection := h.selection
  have hstyles : c'.styles = c.styles := h.styles
  refine ⟨h'.points.trans h.points, h'.settings.trans h.settings, ?_, ?_, fun law => ?_⟩
  · rw [h'.selection, hselection]
  · rw [h'.styles, hstyles, h.settings]
  · have hcanvas : Canvas.style c'.canvas = Canvas.style c.canvas := h.canvas law
    rw [h'.canvas law, hcanvas]

/-- Showing nothing afterwards does not matter. -/
theorem then_quiet {c c' c'' : Controller C} {shown : Option Selection} (h : Displays c shown c')
    (h' : Displays c' none c'') : Displays c shown c'' := by
  have hselection : c''.selection = c'.selection := h'.selection
  have hstyles : c''.styles = c'.styles := h'.styles
  refine ⟨h'.points.trans h.points, h'.settings.trans h.settings, ?_, ?_, fun law => ?_⟩
  · rw [hselection, h.selection]
  · rw [hstyles, h.styles]
  · have hcanvas : Canvas.style c''.canvas = Canvas.style c'.canvas := h'.canvas law
    rw [hcanvas, h.canvas law, canvasStyle, canvasStyle, hstyles]

end Displays

/-! ## Operations -/

theorem displays_showSelection (c : Controller C) (s : Selection) :
    Displays c (some s) (c.showSelection s) :=
  ⟨rfl, rfl, rfl, rfl, fun _ => by simp [showSelection_eq, canvasStyle]⟩

theorem displays_attach (c : Controller C) (kind : EventKind) : Displays c none (c.attach kind) :=
  ⟨rfl, rfl, rfl, rfl, fun _ => by simp [attach]⟩

theorem displays_attachAll (c : Controller C) : Displays c none c.attachAll := by
  unfold attachAll
  induction interactionKinds generalizing c with
  | nil => exact .refl c
  | cons kind rest ih => exact (displays_attach c kind).of_quiet (ih (c.attach kind))

theorem displays_connect (c : Controller C) : Displays c none c.connect := by
  by_cases h : c.attached = []
  · rw [connect_eq h]
    exact ⟨rfl, rfl, rfl, rfl, (displays_attachAll c).canvas⟩
  · rw [connect_of_connected h]
    exact .refl c

theorem displays_disconnect (c : Controller C) : Displays c none c.disconnect := by
  by_cases h : c.attached = []
  · rw [disconnect_of_disconnected h]
    exact .refl c
  · rw [disconnect_eq h]
    exact ⟨rfl, rfl, rfl, rfl, fun _ => Canvas.style_foldl_unsubscribe c.attached c.canvas⟩

theorem displays_select (c : Controller C) (indices : List Nat) :
    Displays c (some (c.kept indices)) (c.select indices) := by
  have h := displays_showSelection c (c.kept indices)
  rw [select_eq]
  exact ⟨h.points, h.settings, h.selection, h.styles, h.canvas⟩

theorem displays_clear (c : Controller C) : Displays c (some .empty) c.clear := by
  have h := displays_showSelection c .empty
  rw [clear_eq]
  exact ⟨h.points, h.settings, h.selection, h.styles, h.canvas⟩

theorem displays_gestureFinished (c : Controller C) (vertices : List (Point Float)) :
    Displays c (c.shownBy (.gesture vertices)) (c.gestureFinished vertices) := by
  by_cases hm : c.merged vertices = c.selection
  · rw [gestureFinished_unchanged hm, shownBy, if_pos hm]
    exact ⟨rfl, rfl, rfl, rfl, fun _ => LawfulCanvas.style_requestRedraw c.canvas⟩
  · have h := displays_showSelection c (c.merged vertices)
    rw [gestureFinished_changed hm, shownBy, if_neg hm]
    exact ⟨h.points, h.settings, h.selection, h.styles, h.canvas⟩

theorem displays_honour (c : Controller C) (r : Requests) :
    Displays c (if r.clearSelection = true then some .empty else none) (c.honour r) := by
  have hclear : Displays c (if r.clearSelection = true then some .empty else none)
      (c.clearedIf r.clearSelection) := by
    unfold clearedIf
    split
    · exact displays_clear c
    · exact .refl c
  rw [honour_eq]
  by_cases hd : r.disconnect = true
  · rw [if_pos hd]
    exact hclear.then_quiet (displays_disconnect _)
  · rw [if_neg hd]
    exact hclear

theorem displays_buttonClicked (c : Controller C) (index : Nat) :
    Displays c (c.shownBy (.buttonClick index)) (c.buttonClicked index) := by
  cases hb : c.hud.buttons[index]? with
  | none =>
    rw [buttonClicked_of_missing hb, shownBy, requestsOf_of_missing hb, if_neg (by simp)]
    exact ⟨rfl, rfl, rfl, rfl, fun _ => rfl⟩
  | some b =>
    have hquiet : Displays c none (c.afterCallback index b.label) :=
      ⟨rfl, rfl, rfl, rfl, fun _ => LawfulCanvas.style_requestRedraw c.canvas⟩
    have hhonour := displays_honour (c.afterCallback index b.label)
      ⟨decide (.disconnect ∈ c.requestsOf index), decide (.clearSelection ∈ c.requestsOf index)⟩
    simp only [decide_eq_true_eq] at hhonour
    rw [buttonClicked_eq hb, shownBy]
    exact hquiet.of_quiet hhonour

theorem displays_dispatch (c : Controller C) (event : UserEvent) :
    Displays c (c.shownBy event) (c.dispatch event) := by
  have hrepaint (law : LawfulCanvas C) :
      Canvas.style (Canvas.requestRedraw c.canvas) = Canvas.style c.canvas :=
    law.style_requestRedraw c.canvas
  cases event with
  | pointerEnter =>
    rw [dispatch, pointerEntered_eq]
    exact ⟨rfl, rfl, rfl, rfl, hrepaint⟩
  | pointerExit =>
    rw [dispatch, pointerExited_eq]
    exact ⟨rfl, rfl, rfl, rfl, hrepaint⟩
  | keyDown key =>
    by_cases hk : key = c.settings.additiveKey
    · rw [dispatch, keyPressed_eq hk]
      exact ⟨rfl, rfl, rfl, rfl, hrepaint⟩
    · rw [dispatch, keyPressed_of_ne hk]
      exact .refl c
  | keyUp key =>
    by_cases hk : key = c.settings.additiveKey
    · rw [dispatch, keyReleased_eq hk]
      exact ⟨rfl, rfl, rfl, rfl, hrepaint⟩
    · rw [dispatch, keyReleased_of_ne hk]
      exact .refl c
  | gesture vertices => exact displays_gestureFinished c vertices
  | buttonClick index => exact displays_buttonClicked c index
  | close => exact displays_disconnect c

/-- Every step of the controller shows what `shown` says and nothing else. -/
theorem step_displays (c : Controller C) {s : Step} (hs : s.setsStyle = false) :
    Displays c (c.shown s) (c.step s) := by
  cases s with
  | connect => exact displays_connect c
  | disconnect => exact displays_disconnect c
  | clear => exact displays_clear c
  | select indices => exact displays_select c indices
  | dispatch event => exact displays_dispatch c event
  | handle event =>
    exact handle_cases (P := fun e => Displays c (e.bind c.shownBy)) c event (.refl c)
      (displays_dispatch c event)
  | draw => exact ⟨rfl, rfl, rfl, rfl, fun law => law.style_requestRedraw c.canvas⟩
  | present => exact ⟨rfl, rfl, rfl, rfl, fun law => law.style_present c.canvas⟩
  | setView view => exact ⟨rfl, rfl, rfl, rfl, fun law => law.style_setView c.canvas view⟩
  | listen kind => exact ⟨rfl, rfl, rfl, rfl, fun _ => Canvas.style_subscribe c.canvas kind⟩
  | unlisten id => exact ⟨rfl, rfl, rfl, rfl, fun _ => Canvas.style_unsubscribe c.canvas id⟩
  | clickHud index =>
    simp only [step]
    split
    · exact .refl c
    · exact ⟨rfl, rfl, rfl, rfl, fun _ => rfl⟩
  | setStyle style => cases hs
  | _ => exact ⟨rfl, rfl, rfl, rfl, fun _ => rfl⟩

/-- Points and settings are never exchanged, and selection and styles only for those that are
shown. -/
private theorem step_frame (c : Controller C) (s : Step) :
    (c.step s).points = c.points ∧ (c.step s).settings = c.settings ∧
      (c.step s).selection = (c.shown s).getD c.selection ∧
      (c.step s).styles = (c.shown s).elim c.styles fun sel =>
        c.styles.apply sel c.settings.emphasis := by
  cases hs : s.setsStyle with
  | false =>
    have h := step_displays c hs
    exact ⟨h.points, h.settings, h.selection, h.styles⟩
  | true =>
    cases s with
    | setStyle style => exact ⟨rfl, rfl, rfl, rfl⟩
    | _ => cases hs

theorem step_points (c : Controller C) (s : Step) : (c.step s).points = c.points :=
  (step_frame c s).1

theorem step_settings (c : Controller C) (s : Step) : (c.step s).settings = c.settings :=
  (step_frame c s).2.1

/-- A step keeps the selection or shows another one. -/
theorem step_selection (c : Controller C) (s : Step) :
    (c.step s).selection = (c.shown s).getD c.selection :=
  (step_frame c s).2.2.1

/-- A step keeps the styles or applies the selection that it shows. -/
theorem step_styles (c : Controller C) (s : Step) :
    (c.step s).styles = (c.shown s).elim c.styles fun sel =>
      c.styles.apply sel c.settings.emphasis :=
  (step_frame c s).2.2.2

theorem run_points (canvas : C) (points : List (Point Float)) (settings : SelectionSettings)
    (layout : HudSettings) (publishes : Bool) (steps : List Step) :
    ((new canvas points settings layout publishes).run steps).points = points :=
  run_invariant (P := fun c => c.points = points) rfl
    (fun c s hc => (step_points c s).trans hc) steps

theorem run_settings (canvas : C) (points : List (Point Float)) (settings : SelectionSettings)
    (layout : HudSettings) (publishes : Bool) (steps : List Step) :
    ((new canvas points settings layout publishes).run steps).settings = settings.sanitized :=
  run_invariant (P := fun c => c.settings = settings.sanitized) rfl
    (fun c s hc => (step_settings c s).trans hc) steps

end Controller

end ScatterPick
