import ScatterPick.Controller.Run

/-!
# Exchanging the canvas

A controller knows its canvas by the requests it makes alone. So a map of canvases that respects
every request carries each run on the one to the same run on the other.
-/

namespace ScatterPick

/-- A map of canvases under which the image shows the same, and a request to the image is the image
of the request. -/
structure CanvasMap {C D : Type} [Canvas C] [Canvas D] (f : C → D) : Prop where
  view : ∀ c, Canvas.view (f c) = Canvas.view c
  style : ∀ c, Canvas.style (f c) = Canvas.style c
  listeners : ∀ c, Canvas.listeners (f c) = Canvas.listeners c
  setView : ∀ c view, f (Canvas.setView c view) = Canvas.setView (f c) view
  setStyle : ∀ c style, f (Canvas.setStyle c style) = Canvas.setStyle (f c) style
  setListeners : ∀ c l, f (Canvas.setListeners c l) = Canvas.setListeners (f c) l
  requestRedraw : ∀ c, f (Canvas.requestRedraw c) = Canvas.requestRedraw (f c)
  present : ∀ c, f (Canvas.present c) = Canvas.present (f c)

namespace CanvasMap

variable {C D : Type} [Canvas C] [Canvas D] {f : C → D}

theorem subscribe (hf : CanvasMap f) (c : C) (kind : EventKind) :
    f (Canvas.subscribe c kind) = Canvas.subscribe (f c) kind := by
  rw [Canvas.subscribe, Canvas.subscribe, hf.setListeners, hf.listeners]

theorem unsubscribe (hf : CanvasMap f) (c : C) (id : Nat) :
    f (Canvas.unsubscribe c id) = Canvas.unsubscribe (f c) id := by
  rw [Canvas.unsubscribe, Canvas.unsubscribe, hf.setListeners, hf.listeners]

end CanvasMap

namespace Controller

variable {C D : Type}

/-- The same controller on the image of its canvas. -/
def onto (c : Controller C) (f : C → D) : Controller D where
  canvas := f c.canvas
  points := c.points
  settings := c.settings
  selection := c.selection
  styles := c.styles
  additive := c.additive
  hud := c.hud
  attached := c.attached
  closeListener := c.closeListener
  callbacks := c.callbacks
  publishes := c.publishes
  bus := c.bus
  trace := c.trace

/-! ## What does not concern the canvas -/

theorem record_onto (f : C → D) (c : Controller C) (effects : List Effect) :
    (c.record effects).onto f = (c.onto f).record effects := rfl

theorem log_onto (f : C → D) (c : Controller C) (entry : LogEntry) :
    (c.log entry).onto f = (c.onto f).log entry := rfl

theorem notify_onto (f : C → D) (c : Controller C) (n : Notice) :
    (c.notify n).onto f = (c.onto f).notify n := by
  unfold notify
  exact apply_ite (onto · f) ..

/-! ## Operations -/

variable [Canvas C] [Canvas D] {f : C → D}

theorem draw_onto (hf : CanvasMap f) (c : Controller C) : c.draw.onto f = (c.onto f).draw :=
  congrArg (fun canvas => { c.onto f with canvas }) (hf.requestRedraw c.canvas)

theorem showSelection_onto (hf : CanvasMap f) (c : Controller C) (s : Selection) :
    (c.showSelection s).onto f = (c.onto f).showSelection s := by
  rw [showSelection, draw_onto hf]
  simp only [onto, hf.setStyle]
  rfl

theorem attach_onto (hf : CanvasMap f) (c : Controller C) (kind : EventKind) :
    (c.attach kind).onto f = (c.onto f).attach kind := by
  simp only [attach, onto, hf.subscribe, hf.listeners]

theorem connect_onto (hf : CanvasMap f) (c : Controller C) :
    c.connect.onto f = (c.onto f).connect := by
  have hattach : interactionKinds.foldl attach (c.onto f) =
      (interactionKinds.foldl attach c).onto f :=
    List.foldl_hom (onto · f) fun c kind => (attach_onto hf c kind).symm
  unfold connect
  rw [hattach, apply_ite (onto · f), notify_onto]
  rfl

theorem disconnect_onto (hf : CanvasMap f) (c : Controller C) :
    c.disconnect.onto f = (c.onto f).disconnect := by
  have hdetach : c.attached.foldl (fun canvas l => Canvas.unsubscribe canvas l.id) (f c.canvas) =
      f (c.attached.foldl (fun canvas l => Canvas.unsubscribe canvas l.id) c.canvas) :=
    List.foldl_hom f fun canvas l => (hf.unsubscribe canvas l.id).symm
  unfold disconnect
  rw [apply_ite (onto · f), notify_onto]
  simp only [onto, hdetach]
  rfl

theorem select_onto (hf : CanvasMap f) (c : Controller C) (indices : List Nat) :
    (c.select indices).onto f = (c.onto f).select indices := by
  unfold select
  rw [notify_onto, showSelection_onto hf, apply_ite (onto · f)]
  rfl

theorem pointerEntered_onto (hf : CanvasMap f) (c : Controller C) :
    c.pointerEntered.onto f = (c.onto f).pointerEntered := by
  unfold pointerEntered
  rw [notify_onto, draw_onto hf]
  rfl

theorem pointerExited_onto (hf : CanvasMap f) (c : Controller C) :
    c.pointerExited.onto f = (c.onto f).pointerExited := by
  unfold pointerExited
  rw [notify_onto, draw_onto hf]
  rfl

theorem setAdditive_onto (hf : CanvasMap f) (c : Controller C) (additive : Bool) :
    (c.setAdditive additive).onto f = (c.onto f).setAdditive additive :=
  draw_onto hf _

theorem keyPressed_onto (hf : CanvasMap f) (c : Controller C) (key : Key) :
    (c.keyPressed key).onto f = (c.onto f).keyPressed key := by
  unfold keyPressed
  rw [apply_ite (onto · f), setAdditive_onto hf]
  rfl

theorem keyReleased_onto (hf : CanvasMap f) (c : Controller C) (key : Key) :
    (c.keyReleased key).onto f = (c.onto f).keyReleased key := by
  unfold keyReleased
  rw [apply_ite (onto · f), setAdditive_onto hf]
  rfl

theorem gestureFinished_onto (hf : CanvasMap f) (c : Controller C)
    (vertices : List (Point Float)) :
    (c.gestureFinished vertices).onto f = (c.onto f).gestureFinished vertices := by
  have houtcome : (c.onto f).outcome vertices = c.outcome vertices := by
    simp only [outcome, onto, hf.view]
  unfold gestureFinished
  rw [houtcome, apply_ite (onto · f), draw_onto hf, notify_onto, runCallbacks, record_onto,
    showSelection_onto hf]
  rfl

theorem honour_onto (hf : CanvasMap f) (c : Controller C) (r : Requests) :
    (c.honour r).onto f = (c.onto f).honour r := by
  unfold honour clear
  rw [apply_ite (onto · f), disconnect_onto hf, apply_ite (onto · f), select_onto hf]

theorem buttonClicked_onto (hf : CanvasMap f) (c : Controller C) (index : Nat) :
    (c.buttonClicked index).onto f = (c.onto f).buttonClicked index := by
  have hhud : (c.onto f).hud = c.hud := rfl
  unfold buttonClicked
  rw [hhud]
  split
  · rfl
  · rw [honour_onto hf, notify_onto, log_onto, draw_onto hf]
    rfl

theorem dispatch_onto (hf : CanvasMap f) (c : Controller C) (event : UserEvent) :
    (c.dispatch event).onto f = (c.onto f).dispatch event := by
  cases event with
  | pointerEnter => exact pointerEntered_onto hf c
  | pointerExit => exact pointerExited_onto hf c
  | keyDown key => exact keyPressed_onto hf c key
  | keyUp key => exact keyReleased_onto hf c key
  | gesture vertices => exact gestureFinished_onto hf c vertices
  | buttonClick index => exact buttonClicked_onto hf c index
  | close => exact disconnect_onto hf c

/-- Every step on a canvas is the same step on the image of the canvas. -/
theorem step_onto (hf : CanvasMap f) (c : Controller C) (s : Step) :
    (c.step s).onto f = (c.onto f).step s := by
  cases s with
  | connect => exact connect_onto hf c
  | disconnect => exact disconnect_onto hf c
  | draw => exact draw_onto hf c
  | present => exact congrArg (fun canvas => { c.onto f with canvas }) (hf.present c.canvas)
  | clear => exact select_onto hf c []
  | handle event =>
    simp only [step, handle]
    rw [apply_ite (onto · f), dispatch_onto hf]
    rfl
  | dispatch event => exact dispatch_onto hf c event
  | select indices => exact select_onto hf c indices
  | setView view =>
    exact congrArg (fun canvas => { c.onto f with canvas }) (hf.setView c.canvas view)
  | clickHud index =>
    have hhud : (c.onto f).hud = c.hud := rfl
    simp only [step, hhud]
    split
    · rfl
    · rfl
  | listen kind =>
    exact congrArg (fun canvas => { c.onto f with canvas }) (hf.subscribe c.canvas kind)
  | unlisten id =>
    exact congrArg (fun canvas => { c.onto f with canvas }) (hf.unsubscribe c.canvas id)
  | setStyle style =>
    exact congrArg (fun canvas => { c.onto f with canvas }) (hf.setStyle c.canvas style)
  | _ => rfl

/-- Every run on a canvas is the same run on the image of the canvas. -/
theorem run_onto (hf : CanvasMap f) (c : Controller C) (steps : List Step) :
    (c.run steps).onto f = (c.onto f).run steps :=
  (List.foldl_hom (onto · f) fun c s => (step_onto hf c s).symm).symm

end Controller

end ScatterPick
