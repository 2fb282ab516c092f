import ScatterPick.Proofs.Canvas.StandIn
import ScatterPick.Proofs.Controller.Display

/-!
# Repaints and what they are for

The number of repaints that a step asks for is known before the step. Whatever an operation of the
controller changes on the screen, it asks for a repaint, but for one case: a strip that is visible
while the listeners are attached or detached disappears without a word.
-/

namespace ScatterPick

/-- Whether a step is an operation of the controller that is meant to show what it changes. -/
def Step.operates : Step → Bool
  | .connect | .disconnect | .clear | .select _ | .handle _ => true
  | _ => false

/-- What can be seen of a controller. -/
structure Appearance where
  /-- While the strip is visible, its title and which of its buttons are hovered. -/
  strip : Option (String × List Bool)
  style : CanvasStyle
  deriving DecidableEq

/-- What can be seen of a strip. -/
def Hud.appearance (h : Hud) : Option (String × List Bool) :=
  if h.visible then some (h.title, h.buttons.map (·.hovered)) else none

theorem Hud.appearance_eq_none {h : Hud} : h.appearance = none ↔ h.visible = false := by
  rw [appearance]
  split
  next hon => simp [hon]
  next hoff => simpa using hoff

namespace Controller

variable {C : Type} [Canvas C]

/-- What can be seen of a controller and its canvas. -/
def appearance (c : Controller C) : Appearance := ⟨c.hud.appearance, Canvas.style c.canvas⟩

/-- The number of repaints that an event asks for. -/
def asksBy (c : Controller C) : UserEvent → Nat
  | .pointerEnter | .pointerExit | .gesture _ => 1
  | .keyDown key | .keyUp key => if key = c.settings.additiveKey then 1 else 0
  | .buttonClick index =>
    if c.hud.buttons[index]? = none then 0
    else if .clearSelection ∈ c.requestsOf index then 2 else 1
  | .close => 0

/-- The number of repaints that a step asks for. -/
def asks (c : Controller C) : Step → Nat
  | .draw | .clear | .select _ => 1
  | s => (c.arriving s).elim 0 c.asksBy

/-- Whether a step attaches or detaches the listeners, other than by way of a button. -/
def switches (c : Controller C) : Step → Bool
  | .connect => !c.isConnected
  | .disconnect | .handle .close => c.isConnected
  | _ => false

/-! ## Counting repaints -/

section Headless

variable (c : Controller Headless)

theorem redraws_connect : c.connect.canvas.redraws = c.canvas.redraws := by
  have hattach (c : Controller Headless) :
      (interactionKinds.foldl attach c).canvas.redraws = c.canvas.redraws := by
    induction interactionKinds generalizing c with
    | nil => rfl
    | cons kind rest ih => exact ih (c.attach kind)
  by_cases h : c.attached = []
  · rw [connect_eq h]
    exact hattach c
  · rw [connect_of_connected h]

theorem redraws_disconnect : c.disconnect.canvas.redraws = c.canvas.redraws := by
  have hdetach (gone : List Listener) (canvas : Headless) :
      (gone.foldl (fun canvas l => Canvas.unsubscribe canvas l.id) canvas).redraws =
        canvas.redraws := by
    induction gone generalizing canvas with
    | nil => rfl
    | cons l rest ih => exact ih (Canvas.unsubscribe canvas l.id)
  by_cases h : c.attached = []
  · rw [disconnect_of_disconnected h]
  · rw [disconnect_eq h]
    exact hdetach c.attached c.canvas

theorem redraws_select (indices : List Nat) :
    (c.select indices).canvas.redraws = c.canvas.redraws + 1 := by
  rw [select_eq]
  rfl

theorem redraws_gestureFinished (vertices : List (Point Float)) :
    (c.gestureFinished vertices).canvas.redraws = c.canvas.redraws + 1 := by
  by_cases h : c.merged vertices = c.selection
  · rw [gestureFinished_unchanged h]
    rfl
  · rw [gestureFinished_changed h]
    rfl

theorem redraws_honour (r : Requests) :
    (c.honour r).canvas.redraws = c.canvas.redraws + if r.clearSelection then 1 else 0 := by
  have hclear : (c.clearedIf r.clearSelection).canvas.redraws =
      c.canvas.redraws + if r.clearSelection then 1 else 0 := by
    unfold clearedIf
    split
    · exact redraws_select c []
    · rfl
  rw [honour_eq]
  split
  · rw [redraws_disconnect, hclear]
  · exact hclear

theorem redraws_buttonClicked (index : Nat) :
    (c.buttonClicked index).canvas.redraws = c.canvas.redraws + c.asksBy (.buttonClick index) := by
  cases hb : c.hud.buttons[index]? with
  | none =>
    rw [buttonClicked_of_missing hb, asksBy, if_pos hb]
    rfl
  | some b =>
    have hcallback : (c.afterCallback index b.label).canvas.redraws = c.canvas.redraws + 1 := rfl
    rw [buttonClicked_eq hb, redraws_honour, hcallback]
    simp only [asksBy, hb, reduceCtorEq, if_false, decide_eq_true_eq]
    split
    · rfl
    · rfl

theorem redraws_dispatch (event : UserEvent) :
    (c.dispatch event).canvas.redraws = c.canvas.redraws + c.asksBy event := by
  cases event with
  | pointerEnter =>
    rw [dispatch, pointerEntered_eq]
    rfl
  | pointerExit =>
    rw [dispatch, pointerExited_eq]
    rfl
  | keyDown key =>
    by_cases hk : key = c.settings.additiveKey
    · rw [dispatch, keyPressed_eq hk, asksBy, if_pos hk]
      rfl
    · rw [dispatch, keyPressed_of_ne hk, asksBy, if_neg hk, Nat.add_zero]
  | keyUp key =>
    by_cases hk : key = c.settings.additiveKey
    · rw [dispatch, keyReleased_eq hk, asksBy, if_pos hk]
      rfl
    · rw [dispatch, keyReleased_of_ne hk, asksBy, if_neg hk, Nat.add_zero]
  | gesture vertices => exact redraws_gestureFinished c vertices
  | buttonClick index => exact redraws_buttonClicked c index
  | close => exact redraws_disconnect c

/-- A step asks for the repaints that are known before. -/
theorem redraws_step (s : Step) : (c.step s).canvas.redraws = c.canvas.redraws + c.asks s := by
  cases s with
  | connect => exact redraws_connect c
  | disconnect => exact redraws_disconnect c
  | clear => exact redraws_select c []
  | select indices => exact redraws_select c indices
  | dispatch event => exact redraws_dispatch c event
  | handle event =>
    exact handle_cases
      (P := fun e c' => c'.canvas.redraws = c.canvas.redraws + e.elim 0 c.asksBy) c event rfl
      (redraws_dispatch c event)
  | clickHud index =>
    simp only [step]
    split
    · rfl
    · rfl
  | _ => rfl

end Headless

/-! ## Changes that nobody asked to paint -/

variable [LawfulCanvas C]

/-- Attaching the listeners hides the strip. -/
theorem appearance_connect (c : Controller C) : c.connect.appearance =
    if c.isConnected then c.appearance else ⟨none, Canvas.style c.canvas⟩ := by
  have hstyle : Canvas.style c.connect.canvas = Canvas.style c.canvas :=
    (displays_connect c).canvas inferInstance
  split
  next hon => rw [connect_of_connected (isConnected_iff.mp hon)]
  next hoff =>
    have hnone : c.attached = [] := by simpa [isConnected] using hoff
    rw [appearance, hstyle, connect_eq hnone]
    rfl

/-- Detaching the listeners hides the strip. -/
theorem appearance_disconnect (c : Controller C) : c.disconnect.appearance =
    if c.isConnected then ⟨none, Canvas.style c.canvas⟩ else c.appearance := by
  have hstyle : Canvas.style c.disconnect.canvas = Canvas.style c.canvas :=
    (displays_disconnect c).canvas inferInstance
  split
  next hon =>
    rw [appearance, hstyle, disconnect_eq (isConnected_iff.mp hon)]
    rfl
  next hoff =>
    have hnone : c.attached = [] := by simpa [isConnected] using hoff
    rw [disconnect_of_disconnected hnone]

omit [LawfulCanvas C] in
/-- Hiding the strip is to be seen if the strip was visible. -/
theorem hidden_ne_appearance {c : Controller C} :
    ⟨none, Canvas.style c.canvas⟩ ≠ c.appearance ↔ c.hud.visible = true := by
  simp [appearance, eq_comm (a := none), Hud.appearance_eq_none]

omit [LawfulCanvas C] in
/-- An event other than closing that asks for no repaint changes nothing to be seen. -/
theorem appearance_dispatch {c : Controller C} {event : UserEvent} (hclose : event ≠ .close)
    (h : c.asksBy event = 0) : (c.dispatch event).appearance = c.appearance := by
  cases event with
  | close => exact absurd rfl hclose
  | keyDown key =>
    have hk : key ≠ c.settings.additiveKey := by simpa [asksBy] using h
    rw [dispatch, keyPressed_of_ne hk]
  | keyUp key =>
    have hk : key ≠ c.settings.additiveKey := by simpa [asksBy] using h
    rw [dispatch, keyReleased_of_ne hk]
  | buttonClick index =>
    have hb : c.hud.buttons[index]? = none := by
      rw [asksBy] at h
      split at h
      next hb => exact hb
      next => split at h <;> cases h
    rw [dispatch, buttonClicked_of_missing hb]
    rfl
  | _ => cases h

/-- A handled event is an unasked change if it closes while the strip is visible. -/
theorem appearance_handle_unasked (c : Controller C) (event : UserEvent) :
    (c.step (.handle event)).appearance ≠ c.appearance ∧ c.asks (.handle event) = 0 ↔
      c.hud.visible = true ∧ c.switches (.handle event) = true := by
  by_cases hclose : event = .close
  · have haccepts : c.accepts .close = true := rfl
    have hstep : c.step (.handle .close) = c.disconnect := by
      rw [step, handle, if_pos haccepts]
      rfl
    have hasks : c.asks (.handle .close) = 0 := rfl
    rw [hclose, hstep, hasks, appearance_disconnect, switches]
    cases hc : c.isConnected with
    | true => simp [hidden_ne_appearance]
    | false => simp
  · have hswitches : c.switches (.handle event) = false := by
      cases event with
      | close => exact absurd rfl hclose
      | _ => rfl
    have hsame : c.asks (.handle event) = 0 →
        (c.step (.handle event)).appearance = c.appearance :=
      handle_cases (P := fun e c' => e.elim 0 c.asksBy = 0 → c'.appearance = c.appearance)
        c event (fun _ => rfl) (appearance_dispatch hclose)
    rw [hswitches]
    exact iff_of_false (fun h => h.1 (hsame h.2)) (fun h => Bool.noConfusion h.2)

/-- An operation changes something to be seen and asks for no repaint exactly if it attaches or
detaches the listeners while the strip is visible. -/
theorem appearance_step_unasked {c : Controller C} {s : Step} (hs : s.operates = true) :
    (c.step s).appearance ≠ c.appearance ∧ c.asks s = 0 ↔
      c.hud.visible = true ∧ c.switches s = true := by
  cases s with
  | connect =>
    rw [step, appearance_connect, switches]
    cases hc : c.isConnected with
    | true => simp
    | false => simp [hidden_ne_appearance, asks, arriving]
  | disconnect =>
    rw [step, appearance_disconnect, switches]
    cases hc : c.isConnected with
    | true => simp [hidden_ne_appearance, asks, arriving]
    | false => simp
  | clear => simp [asks, switches]
  | select indices => simp [asks, switches]
  | handle event => exact appearance_handle_unasked c event
  | _ => cases hs

/-- An operation changes the strip on the screen or the styles without asking for a repaint exactly
if it attaches or detaches the listeners while the strip is visible. On a canvas without a screen
the count of repaints tells whether one was asked for; in a window, where none was waited for, it is
whether one is waited for now. -/
theorem step_changes_unasked {s : Step} (hs : s.operates = true) :
    (∀ c : Controller Headless,
      (c.step s).appearance ≠ c.appearance ∧ (c.step s).canvas.redraws = c.canvas.redraws ↔
        c.hud.visible = true ∧ c.switches s = true) ∧
      ∀ c : Controller Windowed, c.canvas.dirty = false →
        ((c.step s).appearance ≠ c.appearance ∧ (c.step s).canvas.dirty = false ↔
          c.hud.visible = true ∧ c.switches s = true) := by
  have hheadless (c : Controller Headless) :
      (c.step s).appearance ≠ c.appearance ∧ (c.step s).canvas.redraws = c.canvas.redraws ↔
        c.hud.visible = true ∧ c.switches s = true := by
    rw [redraws_step, Nat.add_eq_left]
    exact appearance_step_unasked hs
  refine ⟨hheadless, fun c hclean => ?_⟩
  have hreplayed : c.step s = (c.onStandIn.step s).onto c.canvas.replay := run_windowed c [s]
  have hdirty : (c.step s).canvas.dirty = false ↔
      (c.onStandIn.step s).canvas.redraws = c.onStandIn.canvas.redraws := by
    have hstart : c.onStandIn.canvas.redraws = 0 := rfl
    rw [hreplayed, hstart]
    change (c.canvas.dirty || decide (0 < (c.onStandIn.step s).canvas.redraws)) = false ↔ _
    rw [hclean, Bool.false_or, decide_eq_false_iff_not, Nat.not_lt, Nat.le_zero]
  have happearance : (c.step s).appearance = (c.onStandIn.step s).appearance := by
    rw [hreplayed]
    rfl
  rw [hdirty, happearance]
  exact hheadless c.onStandIn

/-- Disconnecting hides the strip that the pointer brought up, and nobody asks for a repaint. -/
theorem strip_gone_unasked :
    let c := (new (Headless.ofView .unit) [⟨0.0, 0.0⟩] {}).run [.connect, .handle .pointerEnter]
    (c.step .disconnect).appearance ≠ c.appearance ∧
      (c.step .disconnect).canvas.redraws = c.canvas.redraws := by
  decide +kernel

/-- Closing leaves the strip on the screen of a window that was painted before. -/
theorem strip_gone_unasked_in_window :
    let c := ((new (Windowed.ofLook {}) [⟨0.0, 0.0⟩] {}).run
      [.connect, .handle .pointerEnter]).endFrame
    (Step.handle .close).operates = true ∧ c.canvas.dirty = false ∧
      (c.step (.handle .close)).appearance ≠ c.appearance ∧
      (c.step (.handle .close)).canvas.dirty = false := by
  intro c
  have hswitches : c.hud.visible = true ∧ c.switches (.handle .close) = true := by decide +kernel
  exact ⟨rfl, rfl, ((step_changes_unasked rfl).2 c rfl).mpr hswitches⟩

end Controller

end ScatterPick
