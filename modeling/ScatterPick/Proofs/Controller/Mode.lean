import ScatterPick.Proofs.Controller.History
import ScatterPick.Proofs.Controller.Operations

/-!
# Modes

Listeners, additive flag, visibility and title form the mode of a controller. A step sends at most
one signal, and the mode after the step depends on the mode before it and on this signal alone.
-/

namespace ScatterPick

/-- What concerns the mode in a step. -/
inductive Signal where
  | attach
  | detach
  /-- The additive key went down or up. -/
  | key (down : Bool)
  /-- The pointer entered or left the plot. -/
  | pointer (inside : Bool)
  deriving DecidableEq

/-- The mode of a controller. -/
structure Mode where
  /-- The categories of the attached listeners. -/
  listening : List EventKind
  additive : Bool
  visible : Bool
  title : String
  deriving DecidableEq

namespace Mode

open Controller (interactionKinds)

/-- The mode after a signal. Attaching twice or detaching twice is without effect. -/
def after (m : Mode) : Signal → Mode
  | .attach =>
    if m.listening = [] then ⟨interactionKinds, m.additive, false, titleFor m.additive⟩ else m
  | .detach => if m.listening = [] then m else ⟨[], false, false, titleFor false⟩
  | .key down => { m with additive := down, title := titleFor down }
  | .pointer true => { m with visible := true, title := titleFor m.additive }
  | .pointer false => { m with visible := false }

/-- Either nothing is listened for or every interaction is. -/
def AllOrNone (m : Mode) : Prop := m.listening = [] ∨ m.listening = interactionKinds

theorem AllOrNone.after {m : Mode} (h : m.AllOrNone) (g : Signal) : (m.after g).AllOrNone := by
  by_cases hm : m.listening = []
  · cases g with
    | attach =>
      rw [Mode.after, if_pos hm]
      exact Or.inr rfl
    | detach =>
      rw [Mode.after, if_pos hm]
      exact h
    | key down => exact h
    | pointer inside => cases inside <;> exact h
  · cases g with
    | attach =>
      rw [Mode.after, if_neg hm]
      exact h
    | detach =>
      rw [Mode.after, if_neg hm]
      exact Or.inl rfl
    | key down => exact h
    | pointer inside => cases inside <;> exact h

end Mode

/-- Every event but closing is an interaction. -/
theorem interaction_contains_kind {event : UserEvent} (h : event ≠ .close) :
    EventKind.interaction.contains event.kind = true := by
  cases event with
  | close => exact absurd rfl h
  | _ => simp only [UserEvent.kind]; decide

/-- Every event but closing is covered by a listener for one of the interactions. -/
theorem interactionKinds_cover {event : UserEvent} (h : event ≠ .close) :
    (Controller.interactionKinds.any fun kind => kind.intersects event.kind) = true := by
  cases event with
  | close => exact absurd rfl h
  | _ => simp only [UserEvent.kind]; decide

/-- Whether a step edits the strip by hand where it shows the mode. -/
def Step.editsMode : Step → Bool
  | .setVisible _ | .setTitle _ => true
  | _ => false

namespace Controller

variable {C : Type}

/-- The mode of a controller. -/
def mode (c : Controller C) : Mode :=
  ⟨c.attached.map (·.kind), c.additive, c.hud.visible, c.hud.title⟩

/-- The signal of an event that comes through. -/
def signalBy (c : Controller C) : UserEvent → Option Signal
  | .pointerEnter => some (.pointer true)
  | .pointerExit => some (.pointer false)
  | .keyDown key => if key = c.settings.additiveKey then some (.key true) else none
  | .keyUp key => if key = c.settings.additiveKey then some (.key false) else none
  | .gesture _ => none
  | .buttonClick index => if .disconnect ∈ c.requestsOf index then some .detach else none
  | .close => some .detach

/-- The signal of a step. -/
def signal (c : Controller C) : Step → Option Signal
  | .connect => some .attach
  | .disconnect => some .detach
  | s => (c.arriving s).bind c.signalBy

theorem mode_listening_eq_nil {c : Controller C} : c.mode.listening = [] ↔ c.attached = [] := by
  simp [mode]

/-- Being connected is listening for something. -/
theorem isConnected_iff_listening {c : Controller C} :
    c.isConnected = true ↔ c.mode.listening ≠ [] := by
  rw [isConnected_iff, ne_eq, ne_eq, mode_listening_eq_nil]

theorem isConnected_eq_false_iff {c : Controller C} :
    c.isConnected = false ↔ c.mode.listening = [] := by
  rw [Bool.eq_false_iff, ne_eq, isConnected_iff_listening, not_not]

/-- A disconnected controller accepts nothing but closing. -/
theorem attached_of_accepts {c : Controller C} {event : UserEvent} (h : c.accepts event = true)
    (hclose : event ≠ .close) : c.attached ≠ [] := by
  intro hnil
  simp [accepts, interaction_contains_kind hclose, hnil] at h

/-- Closing is always accepted, and every event by a controller that listens for all of them. -/
theorem accepts_iff {c : Controller C} (h : c.mode.AllOrNone) (event : UserEvent) :
    c.accepts event = true ↔ c.isConnected = true ∨ event = .close := by
  by_cases hclose : event = .close
  · have hno : ¬ EventKind.interaction.contains UserEvent.close.kind = true := by decide
    rw [hclose, accepts, if_neg hno]
    exact iff_of_true (decide_eq_true rfl) (Or.inr rfl)
  · rw [or_iff_left hclose, isConnected_iff_listening]
    constructor
    · exact fun haccepts => mt mode_listening_eq_nil.mp (attached_of_accepts haccepts hclose)
    · intro hlistening
      have hkinds : c.attached.map (·.kind) = interactionKinds := h.resolve_left hlistening
      have hany : (c.attached.any fun l => l.kind.intersects event.kind) =
          (c.attached.map (·.kind)).any fun kind => kind.intersects event.kind := by
        rw [List.any_map]
        rfl
      rw [accepts, if_pos (interaction_contains_kind hclose), hany, hkinds]
      exact interactionKinds_cover hclose

variable [Canvas C]

/-! ## Views that follow the signals -/

/-- A view of a controller that each operation changes by the signal that it stands for. -/
structure FollowsSignals {α : Type} (view : Controller C → α) (after : α → Signal → α) : Prop where
  disconnect : ∀ c : Controller C, view c.disconnect = after (view c) .detach
  select : ∀ (c : Controller C) indices, view (c.select indices) = view c
  pointerEntered : ∀ c : Controller C, view c.pointerEntered = after (view c) (.pointer true)
  pointerExited : ∀ c : Controller C, view c.pointerExited = after (view c) (.pointer false)
  keyPressed : ∀ (c : Controller C) key, key = c.settings.additiveKey →
    view (c.keyPressed key) = after (view c) (.key true)
  keyReleased : ∀ (c : Controller C) key, key = c.settings.additiveKey →
    view (c.keyReleased key) = after (view c) (.key false)
  gestureFinished : ∀ (c : Controller C) vertices, view (c.gestureFinished vertices) = view c
  afterCallback : ∀ (c : Controller C) index label, view (c.afterCallback index label) = view c
  trace : ∀ (c : Controller C) trace, view { c with trace } = view c

namespace FollowsSignals

variable {α : Type} {view : Controller C → α} {after : α → Signal → α}

theorem honour (h : FollowsSignals view after) (c : Controller C) (r : Requests) :
    view (c.honour r) = if r.disconnect = true then after (view c) .detach else view c := by
  have hclear : view (c.clearedIf r.clearSelection) = view c := by
    unfold clearedIf
    split
    · exact h.select c []
    · rfl
  rw [honour_eq]
  split
  · rw [h.disconnect, hclear]
  · exact hclear

theorem buttonClicked (h : FollowsSignals view after) (c : Controller C) (index : Nat) :
    view (c.buttonClicked index) =
      (c.signalBy (.buttonClick index)).elim (view c) (after (view c)) := by
  cases hb : c.hud.buttons[index]? with
  | none =>
    rw [buttonClicked_of_missing hb, signalBy, requestsOf_of_missing hb, if_neg (by simp)]
    exact h.trace c _
  | some b =>
    rw [buttonClicked_eq hb, h.honour, h.afterCallback, signalBy]
    simp only [decide_eq_true_eq]
    split
    · rfl
    · rfl

/-- An event changes the view by its signal alone. -/
theorem dispatch (h : FollowsSignals view after) (c : Controller C) (event : UserEvent) :
    view (c.dispatch event) = (c.signalBy event).elim (view c) (after (view c)) := by
  cases event with
  | pointerEnter => exact h.pointerEntered c
  | pointerExit => exact h.pointerExited c
  | keyDown key =>
    by_cases hk : key = c.settings.additiveKey
    · rw [signalBy, if_pos hk]
      exact h.keyPressed c key hk
    · rw [Controller.dispatch, keyPressed_of_ne hk, signalBy, if_neg hk]
      rfl
  | keyUp key =>
    by_cases hk : key = c.settings.additiveKey
    · rw [signalBy, if_pos hk]
      exact h.keyReleased c key hk
    · rw [Controller.dispatch, keyReleased_of_ne hk, signalBy, if_neg hk]
      rfl
  | gesture vertices => exact h.gestureFinished c vertices
  | buttonClick index => exact h.buttonClicked c index
  | close => exact h.disconnect c

/-- An event from the canvas changes the view if it comes through. -/
theorem handle (h : FollowsSignals view after) (c : Controller C) (event : UserEvent) :
    view (c.step (.handle event)) =
      (c.signal (.handle event)).elim (view c) (after (view c)) :=
  handle_cases (P := fun e c' => view c' = (e.bind c.signalBy).elim (view c) (after (view c)))
    c event rfl (h.dispatch c event)

end FollowsSignals

/-! ## Operations -/

theorem mode_connect (c : Controller C) : c.connect.mode = c.mode.after .attach := by
  by_cases h : c.attached = []
  · rw [connect_eq h, Mode.after, if_pos (mode_listening_eq_nil.mpr h)]
    simp only [mode, attachAll_kinds h]
    rfl
  · rw [connect_of_connected h, Mode.after, if_neg (mt mode_listening_eq_nil.mp h)]

theorem mode_disconnect (c : Controller C) : c.disconnect.mode = c.mode.after .detach := by
  by_cases h : c.attached = []
  · rw [disconnect_of_disconnected h, Mode.after, if_pos (mode_listening_eq_nil.mpr h)]
  · rw [disconnect_eq h, Mode.after, if_neg (mt mode_listening_eq_nil.mp h)]
    rfl

theorem mode_select (c : Controller C) (indices : List Nat) : (c.select indices).mode = c.mode := by
  rw [select_eq]
  rfl

theorem mode_gestureFinished (c : Controller C) (vertices : List (Point Float)) :
    (c.gestureFinished vertices).mode = c.mode := by
  by_cases h : c.merged vertices = c.selection
  · rw [gestureFinished_unchanged h]
    rfl
  · rw [gestureFinished_changed h]
    rfl

/-- Events change the mode by their signals alone. -/
theorem mode_followsSignals : FollowsSignals (C := C) mode Mode.after where
  disconnect := mode_disconnect
  select := mode_select
  pointerEntered c := by
    rw [pointerEntered_eq]
    rfl
  pointerExited c := by
    rw [pointerExited_eq]
    rfl
  keyPressed c key hk := by
    rw [keyPressed_eq hk]
    rfl
  keyReleased c key hk := by
    rw [keyReleased_eq hk]
    rfl
  gestureFinished := mode_gestureFinished
  afterCallback _ _ _ := rfl
  trace _ _ := rfl

/-- A step changes the mode by its signal alone. -/
theorem step_mode (c : Controller C) {s : Step} (hs : s.editsMode = false) :
    (c.step s).mode = (c.signal s).elim c.mode c.mode.after := by
  cases s with
  | connect => exact mode_connect c
  | disconnect => exact mode_disconnect c
  | clear => exact mode_select c []
  | select indices => exact mode_select c indices
  | dispatch event => exact mode_followsSignals.dispatch c event
  | handle event => exact mode_followsSignals.handle c event
  | clickHud index =>
    simp only [step, Hud.click]
    cases c.hud.buttons[index]? with
    | none => rfl
    | some b => rfl
  | setVisible visible => cases hs
  | setTitle additive => cases hs
  | _ => rfl

/-- In every state that a run reaches all interactions are listened for or none is. -/
theorem run_allOrNone (canvas : C) (points : List (Point Float)) (settings : SelectionSettings)
    (layout : HudSettings) (publishes : Bool) (steps : List Step) :
    ((new canvas points settings layout publishes).run steps).mode.AllOrNone := by
  refine run_invariant (P := fun c => c.mode.AllOrNone) (Or.inl rfl) (fun c s hc => ?_) steps
  cases hs : s.editsMode with
  | true =>
    cases s with
    | setVisible visible => exact hc
    | setTitle additive => exact hc
    | _ => cases hs
  | false =>
    rw [step_mode c hs]
    cases c.signal s with
    | none => exact hc
    | some g => exact hc.after g

end Controller

end ScatterPick
