import ScatterPick.Proofs.Canvas.Exchange
import ScatterPick.Proofs.Config.Sanitizing
import ScatterPick.Proofs.Controller.Display
import ScatterPick.Proofs.Frame.Passing

/-!
# Opacities that reach the canvas

A canvas can be watched: the controller cannot tell, and every style that it hands over is noted. A
step hands over the style of the selection that it shows and no other, and the only numbers in its
opacities are one and the opacity of the settings. So sanitized settings keep all of them between
zero and one.
-/

namespace ScatterPick

/-- A canvas together with the styles handed over to it. -/
structure Watched (C : Type) where
  canvas : C
  /-- The styles, in the order in which they came. -/
  handed : List CanvasStyle

namespace Watched

variable {C : Type}

/-- A canvas that is watched from now on. -/
def start (canvas : C) : Watched C := ⟨canvas, []⟩

variable [Canvas C]

instance : Canvas (Watched C) where
  view w := Canvas.view w.canvas
  setView w view := { w with canvas := Canvas.setView w.canvas view }
  style w := Canvas.style w.canvas
  setStyle w style := ⟨Canvas.setStyle w.canvas style, w.handed ++ [style]⟩
  listeners w := Canvas.listeners w.canvas
  setListeners w l := { w with canvas := Canvas.setListeners w.canvas l }
  requestRedraw w := { w with canvas := Canvas.requestRedraw w.canvas }
  present w := { w with canvas := Canvas.present w.canvas }

/-- Watching does not change what happens. -/
theorem canvasMap_canvas : CanvasMap (Watched.canvas (C := C)) := by
  constructor <;> intros <;> rfl

end Watched

namespace Controller

variable {C : Type} [Canvas C]

/-- The styles that a step hands over to the canvas. -/
def handsOver (c : Controller C) (s : Step) : List CanvasStyle :=
  ((c.onto Watched.start).step s).canvas.handed

/-- The watched step leads where the step leads. -/
theorem step_watched (c : Controller C) (s : Step) :
    ((c.onto Watched.start).step s).onto Watched.canvas = c.step s :=
  step_onto Watched.canvasMap_canvas _ s

/-! ## What an operation hands over -/

section Watched

variable (c : Controller (Watched C))

/-- The styles that were handed over once a selection, if any, is shown. -/
def handedWith (shown : Option Selection) : List CanvasStyle :=
  c.canvas.handed ++ (shown.map fun s => (c.showSelection s).canvasStyle).toList

theorem handed_connect : c.connect.canvas.handed = c.canvas.handed := by
  have hattach (c : Controller (Watched C)) :
      (interactionKinds.foldl attach c).canvas.handed = c.canvas.handed := by
    induction interactionKinds generalizing c with
    | nil => rfl
    | cons kind rest ih => exact ih (c.attach kind)
  by_cases h : c.attached = []
  · rw [connect_eq h]
    exact hattach c
  · rw [connect_of_connected h]

theorem handed_disconnect : c.disconnect.canvas.handed = c.canvas.handed := by
  have hdetach (gone : List Listener) (canvas : Watched C) :
      (gone.foldl (fun canvas l => Canvas.unsubscribe canvas l.id) canvas).handed =
        canvas.handed := by
    induction gone generalizing canvas with
    | nil => rfl
    | cons l rest ih => exact ih (Canvas.unsubscribe canvas l.id)
  by_cases h : c.attached = []
  · rw [disconnect_of_disconnected h]
  · rw [disconnect_eq h]
    exact hdetach c.attached c.canvas

theorem handed_select (indices : List Nat) :
    (c.select indices).canvas.handed = c.handedWith (some (c.kept indices)) := by
  rw [select_eq]
  rfl

theorem handed_gestureFinished (vertices : List (Point Float)) :
    (c.gestureFinished vertices).canvas.handed = c.handedWith (c.shownBy (.gesture vertices)) := by
  by_cases h : c.merged vertices = c.selection
  · rw [gestureFinished_unchanged h, shownBy, if_pos h]
    exact (List.append_nil _).symm
  · rw [gestureFinished_changed h, shownBy, if_neg h]
    rfl

theorem handed_honour (r : Requests) :
    (c.honour r).canvas.handed =
      c.handedWith (if r.clearSelection = true then some .empty else none) := by
  have hclear : (c.clearedIf r.clearSelection).canvas.handed =
      c.handedWith (if r.clearSelection = true then some .empty else none) := by
    unfold clearedIf
    split
    · exact handed_select c []
    · exact (List.append_nil _).symm
  rw [honour_eq]
  split
  · rw [handed_disconnect, hclear]
  · exact hclear

theorem handed_buttonClicked (index : Nat) :
    (c.buttonClicked index).canvas.handed = c.handedWith (c.shownBy (.buttonClick index)) := by
  cases hb : c.hud.buttons[index]? with
  | none =>
    rw [buttonClicked_of_missing hb, shownBy, requestsOf_of_missing hb, if_neg (by simp)]
    exact (List.append_nil _).symm
  | some b =>
    rw [buttonClicked_eq hb, handed_honour]
    simp only [shownBy, decide_eq_true_eq]
    rfl

theorem handed_dispatch (event : UserEvent) :
    (c.dispatch event).canvas.handed = c.handedWith (c.shownBy event) := by
  have hnone : c.canvas.handed = c.handedWith none := (List.append_nil _).symm
  cases event with
  | pointerEnter =>
    rw [dispatch, pointerEntered_eq]
    exact hnone
  | pointerExit =>
    rw [dispatch, pointerExited_eq]
    exact hnone
  | keyDown key =>
    by_cases hk : key = c.settings.additiveKey
    · rw [dispatch, keyPressed_eq hk]
      exact hnone
    · rw [dispatch, keyPressed_of_ne hk]
      exact hnone
  | keyUp key =>
    by_cases hk : key = c.settings.additiveKey
    · rw [dispatch, keyReleased_eq hk]
      exact hnone
    · rw [dispatch, keyReleased_of_ne hk]
      exact hnone
  | gesture vertices => exact handed_gestureFinished c vertices
  | buttonClick index => exact handed_buttonClicked c index
  | close => exact (handed_disconnect c).trans hnone

/-- A step hands over the style of the selection that it shows, if it shows one. -/
theorem handed_step {s : Step} (hs : s.setsStyle = false) :
    (c.step s).canvas.handed = c.handedWith (c.shown s) := by
  have hnone : c.canvas.handed = c.handedWith none := (List.append_nil _).symm
  cases s with
  | connect => exact (handed_connect c).trans hnone
  | disconnect => exact (handed_disconnect c).trans hnone
  | clear => exact handed_select c []
  | select indices => exact handed_select c indices
  | dispatch event => exact handed_dispatch c event
  | handle event =>
    exact handle_cases (P := fun e c' => c'.canvas.handed = c.handedWith (e.bind c.shownBy)) c event
      hnone (handed_dispatch c event)
  | clickHud index =>
    simp only [step]
    split
    · exact hnone
    · exact hnone
  | setStyle style => cases hs
  | _ => exact hnone

end Watched

/-! ## Opacities -/

/-- With an opacity in the settings, a step hands over opacities only. -/
theorem isOpacity_of_handsOver {c : Controller C} (hc : IsOpacity c.settings.alphaOther) {s : Step}
    (hs : s.setsStyle = false) {style : CanvasStyle} (hstyle : style ∈ c.handsOver s)
    {a : StyleEntry} (ha : a ∈ style.alphas) : ∃ x, a = .ofSingle x ∧ IsOpacity x := by
  have hhanded : c.handsOver s = (c.onto Watched.start).handedWith _ :=
    handed_step (c.onto Watched.start) hs
  rw [hhanded] at hstyle
  obtain ⟨sel, -, rfl⟩ := Option.map_eq_some_iff.mp (Option.mem_toList.mp hstyle)
  have halphas : ((c.onto Watched.start).showSelection sel).canvasStyle.alphas =
      (c.styles.apply sel c.settings.emphasis).alphas := rfl
  rw [halphas, MarkerStyles.apply_eq] at ha
  obtain ⟨k, -, rfl⟩ := List.mem_map.mp ha
  rw [MarkerStyles.alphaAt]
  split
  · exact ⟨1.0, rfl, isOpacity_one⟩
  · exact ⟨_, rfl, hc⟩

theorem settings_of_mem_history {start : Controller C} {steps : List Step}
    {p : Controller C × Step} (hp : p ∈ start.history steps) : p.1.settings = start.settings := by
  induction steps generalizing start with
  | nil => cases hp
  | cons s rest ih =>
    rcases List.mem_cons.mp hp with rfl | hlater
    · rfl
    · exact (ih hlater).trans (step_settings start s)

/-! ## Frames -/

/-- The steps of what happens in a window, each with the state before it: a frame handles its
events one after the other. -/
def stepsOf (d : Decoders) : Controller Windowed × WindowStep → List (Controller Windowed × Step)
  | (c, .host s) => [(c, s)]
  | (c, .frame i) => (c.observeFrame d i).1.history ((c.frameEvents d i).map .handle)

theorem settings_showButtons (d : Decoders) (i : FrameInput) (c : Controller Windowed) :
    (c.showButtons d i).settings = c.settings := by
  have hbutton (c : Controller Windowed) (index : Nat) :
      (c.showButton d i index).settings = c.settings := by
    unfold showButton
    split
    · rfl
    · dsimp only
      split
      · rfl
      · rfl
  rw [showButtons]
  generalize c.shownButtons = indices
  induction indices generalizing c with
  | nil => rfl
  | cons index rest ih => exact (ih _).trans (hbutton c index)

/-- The events of a frame are handled as in a run. -/
theorem frame_eq_run (d : Decoders) (i : FrameInput) (c : Controller Windowed) :
    c.frame d i =
      ((c.observeFrame d i).1.run ((c.frameEvents d i).map .handle)).endFrame := by
  rw [run, List.foldl_map]
  rfl

theorem settings_windowStep (d : Decoders) (c : Controller Windowed) (s : WindowStep) :
    (c.windowStep d s).settings = c.settings := by
  cases s with
  | frame i =>
    have hstart : (c.observeFrame d i).1.settings = c.settings := settings_showButtons d i c
    rw [windowStep, frame_eq_run]
    exact run_invariant (P := fun c' => c'.settings = c.settings) hstart
      (fun c' s hc => (step_settings c' s).trans hc) _
  | host s => exact step_settings c s

theorem settings_of_mem_windowHistory (d : Decoders) {start : Controller Windowed}
    {steps : List WindowStep} {p : Controller Windowed × WindowStep}
    (hp : p ∈ start.windowHistory d steps) {q : Controller Windowed × Step}
    (hq : q ∈ stepsOf d p) : q.1.settings = start.settings := by
  induction steps generalizing start with
  | nil => cases hp
  | cons s rest ih =>
    rcases List.mem_cons.mp hp with rfl | hlater
    · cases s with
      | host s => rw [List.mem_singleton.mp hq]
      | frame i => exact (settings_of_mem_history hq).trans (settings_showButtons d i start)
    · exact (ih hlater).trans (settings_windowStep d start s)

/-! ## Sanitizing -/

/-- Whatever the settings, sanitizing leads into the domain of every field, keeps to the letter what
lies in its domain and the key in any case, logs one warning for each field that it changes and
nothing else, and has nothing left to do or to warn of the second time. So in every run of a
controller with these settings, on any canvas and with frames in a window, each opacity that a step
hands over to the canvas is a number between zero and one; the step is seen to do so on a watched
canvas, and leads where it leads on the canvas itself. -/
theorem run_opacities_sanitized (settings : SelectionSettings) :
    (∀ f : SelectionField, f.Valid settings.sanitized) ∧
    (∀ f : SelectionField, f.Valid settings → f.agrees settings settings.sanitized = true) ∧
    settings.sanitized.additiveKey = settings.additiveKey ∧
    settings.warnings.map LogEntry.replaced? =
      (SelectionField.all.filter fun f => !f.agrees settings settings.sanitized).map some ∧
    (∀ e ∈ settings.warnings, e.level = .warn) ∧
    settings.sanitized.sanitized = settings.sanitized ∧ settings.sanitized.warnings = [] ∧
    (∀ {C : Type} [Canvas C] (canvas : C) (points : List (Point Float)) (layout : HudSettings)
      (publishes : Bool) (steps : List Step),
      ∀ p ∈ (new canvas points settings layout publishes).history steps,
        ((p.1.onto Watched.start).step p.2).onto Watched.canvas = p.1.step p.2 ∧
          (p.2.setsStyle = false → ∀ style ∈ p.1.handsOver p.2, ∀ a ∈ style.alphas,
            ∃ x : Float32, a = .ofSingle x ∧ 0.0 ≤ x ∧ x ≤ 1.0)) ∧
    ∀ (d : Decoders) (look : MarkerLook) (points : List (Point Float)) (layout : HudSettings)
      (publishes : Bool) (steps : List WindowStep),
      ∀ p ∈ (new (Windowed.ofLook look) points settings layout publishes).windowHistory d steps,
        ∀ q ∈ stepsOf d p,
          ((q.1.onto Watched.start).step q.2).onto Watched.canvas = q.1.step q.2 ∧
            (q.2.setsStyle = false → ∀ style ∈ q.1.handsOver q.2, ∀ a ∈ style.alphas,
              ∃ x : Float32, a = .ofSingle x ∧ 0.0 ≤ x ∧ x ≤ 1.0) := by
  have hopacity : IsOpacity settings.sanitized.alphaOther := settings.valid_sanitized .alphaOther
  refine ⟨settings.valid_sanitized, fun f => (settings.agrees_sanitized_iff f).mpr, rfl,
    settings.replaced_warnings, fun e => settings.level_of_mem_warnings,
    settings.sanitized_sanitized, settings.warnings_sanitized, ?_, ?_⟩
  · intro C _ canvas points layout publishes steps p hp
    refine ⟨step_watched p.1 p.2, fun hs style hstyle a ha => ?_⟩
    have hp : p.1.settings = settings.sanitized := settings_of_mem_history hp
    rw [← hp] at hopacity
    exact isOpacity_of_handsOver hopacity hs hstyle ha
  · intro d look points layout publishes steps p hp q hq
    refine ⟨step_watched q.1 q.2, fun hs style hstyle a ha => ?_⟩
    have hq : q.1.settings = settings.sanitized := settings_of_mem_windowHistory d hp hq
    rw [← hq] at hopacity
    exact isOpacity_of_handsOver hopacity hs hstyle ha

/-- An opacity without a value, a tolerance below zero and a factor of zero are warned of and
replaced, and what is handed over when the first of two points is selected is in range. -/
theorem opacities_of_unusable_settings :
    let settings : SelectionSettings :=
      { alphaOther := 0.0 / 0.0, expandSelected := some 0.0, clickTolerance := -1.0 }
    let c := new (Headless.ofView .unit) [⟨0.0, 0.0⟩, ⟨1.0, 1.0⟩] settings {} true
    settings.sanitized = { alphaOther := 0.25, expandSelected := none, clickTolerance := 0.0 } ∧
      settings.warnings.length = 3 ∧ settings.sanitized.warnings = [] ∧
      c.handsOver (.select [0]) = [⟨[1.0, 0.25], []⟩] ∧
      ∀ style ∈ c.handsOver (.select [0]), ∀ a ∈ style.alphas,
        ∃ x : Float32, a = .ofSingle x ∧ 0.0 ≤ x ∧ x ≤ 1.0 := by
  intro settings c
  obtain ⟨-, -, -, -, -, -, hquiet, hruns, -⟩ := run_opacities_sanitized settings
  exact ⟨by decide, by decide, hquiet, by decide +kernel,
    (hruns (Headless.ofView .unit) [⟨0.0, 0.0⟩, ⟨1.0, 1.0⟩] {} true [.select [0]]
      (c, .select [0]) (List.mem_singleton.mpr rfl)).2 rfl⟩

end Controller

end ScatterPick
