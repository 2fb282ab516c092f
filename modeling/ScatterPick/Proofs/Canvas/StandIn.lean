import ScatterPick.Canvas.Headless
import ScatterPick.Canvas.Windowed
import ScatterPick.Frame.Step
import ScatterPick.Proofs.Canvas.Exchange
import ScatterPick.Proofs.Controller.History

/-!
# One canvas in the place of another

A controller cannot tell a canvas in a window from one without a screen: whatever it runs on, a
headless canvas in the same place sees the same run and counts the repaints that are asked for. So
two controllers that are alike stay alike, and the one in the window waits for a repaint exactly if
the other has counted one.
-/

namespace ScatterPick

/-! ## Stand-ins -/

/-- A canvas without a screen in the place of another one. It counts from zero. -/
def Canvas.standIn {C : Type} [Canvas C] (c : C) : Headless :=
  ⟨view c, style c, listeners c, 0, false⟩

/-- What a canvas in a window makes of the requests to its stand-in. -/
def Windowed.replay (w : Windowed) (h : Headless) : Windowed :=
  { w with
    view := h.view
    style := h.style
    listeners := h.listeners
    dirty := w.dirty || decide (0 < h.redraws) }

/-- What a canvas without a screen makes of the requests to its stand-in. -/
def Headless.replay (c h : Headless) : Headless :=
  { h with redraws := c.redraws + h.redraws, shown := c.shown || h.shown }

namespace Windowed

theorem canvasMap_replay (w : Windowed) : CanvasMap w.replay := by
  constructor
  case requestRedraw =>
    intro h
    have hcounted : (w.dirty || decide (0 < h.redraws + 1)) = true := by simp
    exact congrArg (fun dirty => { w.replay h with dirty }) hcounted
  all_goals intros; rfl

/-- Nothing was asked for yet. -/
theorem replay_standIn (w : Windowed) : w.replay (Canvas.standIn w) = w := by
  have hdirty : (w.dirty || decide (0 < 0)) = w.dirty := Bool.or_false _
  exact congrArg (fun dirty => { w with dirty }) hdirty

end Windowed

namespace Headless

theorem canvasMap_replay (c : Headless) : CanvasMap c.replay := by
  constructor
  case present =>
    intro h
    have hshown : (c.shown || true) = true := Bool.or_true _
    exact congrArg (fun shown => { c.replay h with shown }) hshown
  all_goals intros; rfl

/-- Nothing was asked for yet. -/
theorem replay_standIn (c : Headless) : c.replay (Canvas.standIn c) = c := by
  have hshown : (c.shown || false) = c.shown := Bool.or_false _
  exact congrArg (fun shown => { c with shown }) hshown

end Headless

namespace Controller

/-! ## Controllers that are alike -/

/-- Two controllers that differ at most in what else their canvases keep beside view, style and
listeners. -/
structure Alike {C D : Type} [Canvas C] [Canvas D] (c : Controller C) (d : Controller D) :
    Prop where
  points : c.points = d.points
  settings : c.settings = d.settings
  selection : c.selection = d.selection
  styles : c.styles = d.styles
  additive : c.additive = d.additive
  hud : c.hud = d.hud
  attached : c.attached = d.attached
  closeListener : c.closeListener = d.closeListener
  callbacks : c.callbacks = d.callbacks
  publishes : c.publishes = d.publishes
  bus : c.bus = d.bus
  trace : c.trace = d.trace
  view : Canvas.view c.canvas = Canvas.view d.canvas
  style : Canvas.style c.canvas = Canvas.style d.canvas
  listeners : Canvas.listeners c.canvas = Canvas.listeners d.canvas

/-- The controller on a stand-in for its canvas. -/
def onStandIn {C : Type} [Canvas C] (c : Controller C) : Controller Headless :=
  c.onto Canvas.standIn

/-- Controllers are alike if they are the same on stand-ins. -/
theorem alike_iff {C D : Type} [Canvas C] [Canvas D] {c : Controller C} {d : Controller D} :
    Alike c d ↔ c.onStandIn = d.onStandIn := by
  constructor
  · intro h
    simp only [onStandIn, onto, Canvas.standIn, h.points, h.settings, h.selection, h.styles,
      h.additive, h.hud, h.attached, h.closeListener, h.callbacks, h.publishes, h.bus, h.trace,
      h.view, h.style, h.listeners]
  · intro h
    simp only [onStandIn, onto, Canvas.standIn, mk.injEq, Headless.mk.injEq] at h
    obtain ⟨⟨hview, hstyle, hlisteners, -⟩, hpoints, hsettings, hselection, hstyles, hadditive,
      hhud, hattached, hclose, hcallbacks, hpublishes, hbus, htrace⟩ := h
    exact ⟨hpoints, hsettings, hselection, hstyles, hadditive, hhud, hattached, hclose, hcallbacks,
      hpublishes, hbus, htrace, hview, hstyle, hlisteners⟩

/-- Alike controllers take the same events. -/
theorem Alike.accepts {C D : Type} [Canvas C] [Canvas D] {c : Controller C} {d : Controller D}
    (h : Alike c d) (event : UserEvent) : c.accepts event = d.accepts event := by
  rw [Controller.accepts, Controller.accepts, h.attached]

/-! ## Runs -/

/-- A run in a window replays the run on a stand-in. -/
theorem run_windowed (c : Controller Windowed) (steps : List Step) :
    c.run steps = (c.onStandIn.run steps).onto c.canvas.replay := by
  have hback : c.onStandIn.onto c.canvas.replay = c :=
    congrArg (fun canvas => { c with canvas }) c.canvas.replay_standIn
  rw [run_onto c.canvas.canvasMap_replay, hback]

/-- A run without a screen replays the run on a stand-in. -/
theorem run_headless (c : Controller Headless) (steps : List Step) :
    c.run steps = (c.onStandIn.run steps).onto c.canvas.replay := by
  have hback : c.onStandIn.onto c.canvas.replay = c :=
    congrArg (fun canvas => { c with canvas }) c.canvas.replay_standIn
  rw [run_onto c.canvas.canvasMap_replay, hback]

/-- Alike controllers stay alike. -/
theorem Alike.run {w : Controller Windowed} {h : Controller Headless} (halike : Alike w h)
    (steps : List Step) : Alike (w.run steps) (h.run steps) := by
  rw [alike_iff, run_windowed w, run_headless h, alike_iff.mp halike]
  rfl

/-- A canvas that waits for no repaint comes to wait for one exactly if a canvas without a screen
counts one. -/
theorem Alike.dirty_run {w : Controller Windowed} {h : Controller Headless} (halike : Alike w h)
    (hclean : w.canvas.dirty = false) (steps : List Step) :
    (w.run steps).canvas.dirty = true ↔ h.canvas.redraws < (h.run steps).canvas.redraws := by
  rw [run_windowed w, run_headless h, alike_iff.mp halike]
  change (w.canvas.dirty || decide (0 < (h.onStandIn.run steps).canvas.redraws)) = true ↔
    h.canvas.redraws < h.canvas.redraws + (h.onStandIn.run steps).canvas.redraws
  rw [hclean, Bool.false_or, decide_eq_true_eq, Nat.lt_add_right_iff_pos]

/-- Ending a frame concerns the window alone. -/
theorem Alike.endFrame {w : Controller Windowed} {h : Controller Headless} (halike : Alike w h) :
    Alike w.endFrame h := by
  have hsame : w.endFrame.onStandIn = w.onStandIn := rfl
  exact alike_iff.mpr (hsame.trans (alike_iff.mp halike))

/-- Runs stretches of steps, with the end of a frame after each. -/
def runBetweenFrames (c : Controller Windowed) (stretches : List (List Step)) :
    Controller Windowed :=
  stretches.foldl (fun c stretch => (c.run stretch).endFrame) c

theorem Alike.runBetweenFrames {w : Controller Windowed} {h : Controller Headless}
    (halike : Alike w h) (stretches : List (List Step)) :
    Alike (w.runBetweenFrames stretches) (h.run stretches.flatten) := by
  induction stretches generalizing w h with
  | nil => exact halike
  | cons stretch rest ih =>
    have hrest := ih (halike.run stretch).endFrame
    rwa [← run_append] at hrest

/-- A controller on a canvas in a window and one on a canvas without a screen that starts with its
view and styles go through the same states, whatever is done to both and however many frames end in
between: they take the same events, and what they select, show, tell and listen for is the same.
From the end of a frame on, the canvas in the window waits for a repaint as soon as the other counts
one. -/
theorem run_canvases_alike (look : MarkerLook) (points : List (Point Float))
    (settings : SelectionSettings) (layout : HudSettings) (publishes : Bool)
    (stretches : List (List Step)) (stretch : List Step) :
    let windowed := Windowed.ofLook look
    let headless := Headless.ofView windowed.view windowed.style
    let w := (new windowed points settings layout publishes).runBetweenFrames stretches
    let h := (new headless points settings layout publishes).run stretches.flatten
    Alike (w.run stretch) (h.run stretch) ∧
      (∀ event, (w.run stretch).accepts event = (h.run stretch).accepts event) ∧
      ((w.endFrame.run stretch).canvas.dirty = true ↔
        h.canvas.redraws < (h.run stretch).canvas.redraws) := by
  intro windowed headless w h
  have hstart : Alike (new windowed points settings layout publishes)
      (new headless points settings layout publishes) := alike_iff.mpr rfl
  have halike : Alike w h := hstart.runBetweenFrames stretches
  exact ⟨halike.run stretch, (halike.run stretch).accepts, halike.endFrame.dirty_run rfl stretch⟩

end Controller

end ScatterPick
