import ScatterPick.Image.Icon
import ScatterPick.Proofs.Canvas.StandIn
import ScatterPick.Proofs.Frame.Passing
import ScatterPick.Proofs.Frame.Trails

/-!
# Recorded gestures

The canvas keeps the trail of a gesture from frame to frame. Neither the host program nor an event
touches it, so a frame that ends a gesture hands on what the frames before it have drawn, however
often the controller was connected and disconnected in between.
-/

namespace ScatterPick

/-- The vertices of a gesture. -/
def UserEvent.gesture? : UserEvent → Option (List (Point Float))
  | .gesture vertices => some vertices
  | _ => none

namespace Controller

/-- What the recorder is told by a frame. A press counts in the frame of the plot, beside the
buttons, and while a listener waits for gestures. -/
def told (c : Controller Windowed) (i : FrameInput) : Recorder.Input where
  accepted := i.pressed && i.inFrame && !c.overButton i && Canvas.isListening c.canvas .gesture
  down := i.down
  released := i.released
  place := i.place

/-- What the recorder is told by something that happens. -/
def told? : Controller Windowed × WindowStep → Option Recorder.Input
  | (c, .frame i) => some (c.told i)
  | (_, .host _) => none

/-- The gestures that end with something that happens. -/
def gesturesOf (d : Decoders) : Controller Windowed × WindowStep → List (List (Point Float))
  | (c, .frame i) => (c.frameEvents d i).filterMap (·.gesture?)
  | (_, .host _) => []

/-! ## A frame -/

variable (d : Decoders) (i : FrameInput) (c : Controller Windowed)

theorem showButton_canvas (index : Nat) :
    ∃ icons, (c.showButton d i index).canvas = { c.canvas with icons } := by
  unfold showButton
  cases c.hud.buttons[index]? with
  | none => exact ⟨_, rfl⟩
  | some b =>
    dsimp only
    split
    · exact ⟨_, rfl⟩
    · exact ⟨_, rfl⟩

/-- Showing buttons changes nothing of the canvas but the icons that it keeps. -/
theorem showButtons_canvas : ∃ icons, (c.showButtons d i).canvas = { c.canvas with icons } := by
  rw [showButtons]
  generalize c.shownButtons = indices
  induction indices generalizing c with
  | nil => exact ⟨_, rfl⟩
  | cons index rest ih =>
    obtain ⟨icons, hshown⟩ := showButton_canvas d i c index
    obtain ⟨icons, hrest⟩ := ih (c.showButton d i index)
    rw [hshown] at hrest
    exact ⟨icons, hrest⟩

/-- Whatever the host program does, the trail stays. -/
theorem trail_run (steps : List Step) : (c.run steps).canvas.trail = c.canvas.trail := by
  rw [run_windowed]
  rfl

theorem trail_foldl_handle (events : List UserEvent) :
    (events.foldl handle c).canvas.trail = c.canvas.trail := by
  have hrun : events.foldl handle c = c.run (events.map .handle) := by
    rw [run, List.foldl_map]
    rfl
  rw [hrun, trail_run]

/-- What a frame leaves of the trail, and the gesture that ends in it, are those of the recorder. -/
theorem frame_records :
    (c.frame d i).canvas.trail = (Recorder.step (c.told i) c.canvas.trail).1 ∧
      gesturesOf d (c, .frame i) = (Recorder.step (c.told i) c.canvas.trail).2.toList := by
  obtain ⟨icons, hcanvas⟩ := showButtons_canvas d i c
  have htrail : (c.showButtons d i).canvas.trail = c.canvas.trail := by rw [hcanvas]
  have htold : (c.showButtons d i).canvas.recorderInput i (c.overButton i) = c.told i := by
    rw [hcanvas]
    rfl
  have hobserve := observe_eq i c.hud.layout c.settings.additiveKey (c.overButton i)
    (c.showButtons d i).canvas
  dsimp only at hobserve
  rw [htrail, htold] at hobserve
  refine ⟨?_, ?_⟩
  · have hframe : (c.frame d i).canvas.trail = (c.observeFrame d i).1.canvas.trail :=
      trail_foldl_handle _ _
    rw [hframe, observeFrame, hobserve]
  · have hclicks : (c.clickEvents i).filterMap (·.gesture?) = [] := by
      refine List.filterMap_eq_nil_iff.mpr fun e he => ?_
      obtain ⟨index, rfl⟩ := clickEvents_spec i c he
      rfl
    have hhover (before now : Bool) : (hoverEvents before now).filterMap (·.gesture?) = [] := by
      cases before <;> cases now <;> rfl
    have hkeys (key : Key) (before now : Bool) :
        (keyEvents key before now).filterMap (·.gesture?) = [] := by
      cases before <;> cases now <;> rfl
    rw [gesturesOf, frameEvents, observeFrame, hobserve]
    simp only [List.filterMap_append, hclicks, hhover, hkeys, List.nil_append]
    cases (Recorder.step (c.told i) c.canvas.trail).2 with
    | none => cases i.closing <;> rfl
    | some vertices => cases i.closing <;> rfl

/-! ## Runs -/

/-- The trail tells of all frames so far. -/
theorem trail_runWindow (look : MarkerLook) (points : List (Point Float))
    (settings : SelectionSettings) (layout : HudSettings) (publishes : Bool)
    (steps : List WindowStep) :
    let start := new (Windowed.ofLook look) points settings layout publishes
    (start.runWindow d steps).canvas.trail =
      Recorder.trailAfter ((start.windowHistory d steps).filterMap told?) := by
  intro start
  refine runWindow_induction d
    (P := fun c past => c.canvas.trail = Recorder.trailAfter (past.filterMap told?))
    rfl (fun c past s (_ : True) hc => ?_) (fun _ _ => trivial)
  rw [List.filterMap_append]
  cases s with
  | frame i =>
    have hframe : (c.windowStep d (.frame i)).canvas.trail = _ := (frame_records d i c).1
    rw [hframe, hc]
    exact (Recorder.trailAfter_concat _ _).symm
  | host s =>
    have hhost : (c.windowStep d (.host s)).canvas.trail = c.canvas.trail := trail_run c [s]
    rw [hhost, hc]
    exact congrArg Recorder.trailAfter (List.append_nil _).symm

/-- The gestures that end in a run are those of the recorder. -/
theorem gestures_windowHistory (steps : List WindowStep) :
    (c.windowHistory d steps).flatMap (gesturesOf d) =
      Recorder.endings c.canvas.trail ((c.windowHistory d steps).filterMap told?) := by
  induction steps generalizing c with
  | nil => rfl
  | cons s rest ih =>
    rw [windowHistory, List.flatMap_cons, ih]
    cases s with
    | frame i =>
      obtain ⟨htrail, hgestures⟩ := frame_records d i c
      have hstep : (c.windowStep d (.frame i)).canvas.trail = _ := htrail
      rw [hgestures, hstep]
      rfl
    | host s =>
      have hhost : (c.windowStep d (.host s)).canvas.trail = c.canvas.trail := trail_run c [s]
      rw [hhost]
      rfl

/-- A gesture ends in a frame exactly if the primary button goes up and the recorder was told, by
this frame and those before it, of a press that counts and of no release since. Its vertices, of
which there is one at least, are the place of this press and where the pointer was with the button
down from then on. A frame ends one gesture at most and leaves no trail if the button goes up.
From a press on to the next one that counts, one gesture ends at most. -/
theorem runWindow_gestures_follow_input (look : MarkerLook) (points : List (Point Float))
    (settings : SelectionSettings) (layout : HudSettings) (publishes : Bool)
    (steps : List WindowStep) :
    let start := new (Windowed.ofLook look) points settings layout publishes
    let c := start.runWindow d steps
    (∀ i : FrameInput,
      let inputs := (start.windowHistory d (steps ++ [.frame i])).filterMap told?
      let gestures := (c.frameEvents d i).filterMap (·.gesture?)
      (∀ vertices, vertices ∈ gestures ↔ i.released = true ∧ Recorder.Ends inputs vertices) ∧
        (∀ vertices ∈ gestures, vertices ≠ []) ∧ gestures.length ≤ 1 ∧
        (i.released = true → (c.frame d i).canvas.trail = none)) ∧
      ∀ more, let ahead := c.windowHistory d more
        (∀ input ∈ (ahead.filterMap told?).tail, input.accepted = false) →
          (ahead.flatMap (gesturesOf d)).length ≤ 1 := by
  intro start c
  refine ⟨?_, ?_⟩
  · intro i inputs gestures
    obtain ⟨htrail, hgestures⟩ := frame_records d i c
    have hinputs : inputs = (start.windowHistory d steps).filterMap told? ++ [c.told i] := by
      change List.filterMap told? (start.windowHistory d (steps ++ [.frame i])) = _
      rw [windowHistory_concat, List.filterMap_append]
      rfl
    have hends (vertices : List (Point Float)) :
        vertices ∈ gestures ↔ i.released = true ∧ Recorder.Ends inputs vertices := by
      change vertices ∈ gesturesOf d (c, .frame i) ↔ _
      rw [hgestures, Option.mem_toList,
        trail_runWindow d look points settings layout publishes steps, Recorder.ended_eq_some,
        hinputs]
      rfl
    refine ⟨hends, fun vertices h => ?_, ?_, fun hreleased => ?_⟩
    · obtain ⟨-, press, later, hdraws, -⟩ := (hends vertices).mp h
      exact hdraws.ne_nil
    · change (gesturesOf d (c, .frame i)).length ≤ 1
      rw [hgestures]
      exact Option.length_toList_le
    · rw [htrail, Recorder.step_of_released hreleased]
  · intro more ahead hquiet
    rw [gestures_windowHistory]
    exact Recorder.length_endings_le _ hquiet

/-- The controller is disconnected while the button is down; the gesture ends all the same. Where
the pointer rests there is one vertex. Letting go once more ends nothing. -/
theorem gesture_outlasts_connection :
    let press : FrameInput :=
      { available := 100.0, frame := ⟨0.0, 20.0, 100.0, 100.0⟩, view := .unit
        pointer := some ⟨50.0, 60.0⟩, place := some ⟨0.5, 0.5⟩, pressed := true, down := true
        released := false, touches := [], modifiers := {}, strokes := [], closing := false }
    let move : FrameInput := { press with place := some ⟨0.75, 0.5⟩, pressed := false }
    let letGo : FrameInput := { move with down := false, released := true }
    let steps : List WindowStep :=
      [.host .connect, .frame press, .host .disconnect, .frame move, .frame move]
    let more : List WindowStep := [.frame press, .frame move, .frame letGo, .frame letGo]
    let start := new (Windowed.ofLook {}) [⟨0.5, 0.5⟩] {} {} true
    let inputs := (start.windowHistory .standard (steps ++ [.frame letGo])).filterMap told?
    let c := start.runWindow .standard steps
    let gestures := (c.frameEvents .standard letGo).filterMap (·.gesture?)
    let ahead := (start.runWindow .standard [.host .connect]).windowHistory .standard more
    gestures = [[⟨0.5, 0.5⟩, ⟨0.75, 0.5⟩]] ∧ letGo.released = true ∧
      Recorder.Ends inputs [⟨0.5, 0.5⟩, ⟨0.75, 0.5⟩] ∧
      (c.frame .standard letGo).canvas.trail = none ∧
      (∀ input ∈ (ahead.filterMap told?).tail, input.accepted = false) ∧
      (ahead.flatMap (gesturesOf .standard)).length ≤ 1 := by
  intro press move letGo steps more
  have hrun := runWindow_gestures_follow_input .standard {} [⟨0.5, 0.5⟩] {} {} true
  obtain ⟨hends, -, -, htrail⟩ := (hrun steps).1 letGo
  have hahead := (hrun [.host .connect]).2 more
  exact ⟨by decide +kernel, rfl, ((hends _).mp (by decide +kernel)).2, htrail rfl,
    by decide +kernel, hahead (by decide +kernel)⟩

end Controller

end ScatterPick
