import ScatterPick.Proofs.Controller.Timeline
import ScatterPick.Proofs.Frame.Memory

/-!
# What frames pass on

A frame compares what it is told with what the canvas remembers, and hands on the differences. Only
frames change this memory, and a controller that is connected after a frame was so all through it:
its mode is the one before with the differences of the frame applied in turn.
-/

namespace ScatterPick

/-- Whether the host program leaves it to frames to tell of pointer and key. -/
def Step.leavesInput : Step → Bool
  | .handle _ | .dispatch _ => false
  | s => !s.editsMode

theorem Step.editsMode_of_leavesInput {s : Step} (h : s.leavesInput = true) :
    s.editsMode = false := by
  cases s with
  | setVisible visible => cases h
  | setTitle additive => cases h
  | _ => rfl

/-- A step that leaves the input to frames does not go past the listeners either. -/
theorem Step.bypasses_of_leavesInput {s : Step} (h : s.leavesInput = true) :
    s.bypasses = false := by
  cases s with
  | dispatch event => cases h
  | setVisible visible => cases h
  | setTitle additive => cases h
  | _ => rfl

/-- The signal of an event that leaves the connection alone. -/
def UserEvent.signal? (key : Key) : UserEvent → Option Signal
  | .pointerEnter => some (.pointer true)
  | .pointerExit => some (.pointer false)
  | .keyDown k => if k = key then some (.key true) else none
  | .keyUp k => if k = key then some (.key false) else none
  | _ => none

/-- The signal of a pointer that came or went between two frames. -/
def Signal.ofHover (before now : Bool) : List Signal := if now = before then [] else [.pointer now]

/-- The signal of a key that went down or up between two frames. -/
def Signal.ofKey (before now : Bool) : List Signal := if now = before then [] else [.key now]

namespace Mode

/-- While nothing is listened for, additive mode is off and the strip hidden. -/
def Resting (m : Mode) : Prop := m.listening = [] → m.additive = false ∧ m.visible = false

theorem listening_after_detach (m : Mode) : (m.after .detach).listening = [] := by
  rw [after]
  split
  · assumption
  · rfl

theorem listening_after_of_ne {m : Mode} {g : Signal} (hattach : g ≠ .attach)
    (hdetach : g ≠ .detach) : (m.after g).listening = m.listening := by
  cases g with
  | attach => exact absurd rfl hattach
  | detach => exact absurd rfl hdetach
  | key down => rfl
  | pointer inside => cases inside <;> rfl

end Mode

namespace Controller

/-- Whether all that the host program does between frames leaves the input to them. -/
def WindowStep.leavesInput : WindowStep → Bool
  | .frame _ => true
  | .host s => s.leavesInput

/-! ## Events of the canvas -/

section Events

variable {C : Type} [Canvas C] {c : Controller C} {event : UserEvent}

theorem resting_step (h : c.mode.Resting) {s : Step} (hs : s.bypasses = false) :
    (c.step s).mode.Resting := by
  have hedits : s.editsMode = false := by
    cases s with
    | dispatch event => rfl
    | _ => exact hs
  rw [step_mode c hedits]
  cases hsignal : c.signal s with
  | none => exact h
  | some g =>
    by_cases hconnection : g = .attach ∨ g = .detach
    · intro hoff
      rcases hconnection with rfl | rfl
      · by_cases hm : c.mode.listening = []
        · rw [Option.elim_some, Mode.after, if_pos hm] at hoff
          cases hoff
        · rw [Option.elim_some, Mode.after, if_neg hm] at hoff
          exact absurd hoff hm
      · rw [Option.elim_some, Mode.after]
        split
        · exact h ‹_›
        · exact ⟨rfl, rfl⟩
    · rw [not_or] at hconnection
      intro hoff
      rw [Option.elim_some, Mode.listening_after_of_ne hconnection.1 hconnection.2] at hoff
      exact absurd (mode_listening_eq_nil.mp hoff)
        (attached_of_signal hs hsignal hconnection.1 hconnection.2)

theorem allOrNone_handle (h : c.mode.AllOrNone) (event : UserEvent) :
    (c.handle event).mode.AllOrNone := by
  have hmode := step_mode c (s := .handle event) rfl
  rw [step] at hmode
  rw [hmode]
  cases c.signal (.handle event) with
  | none => exact h
  | some g => exact h.after g

omit [Canvas C] in
/-- An event asks for the end of the connection, or its signal is its own. -/
theorem signalBy_cases (c : Controller C) (event : UserEvent) :
    c.signalBy event = some .detach ∨
      c.signalBy event = event.signal? c.settings.additiveKey ∧ event ≠ .close := by
  cases event with
  | buttonClick index =>
    rw [signalBy]
    split
    · exact Or.inl rfl
    · exact Or.inr ⟨rfl, by simp⟩
  | close => exact Or.inl rfl
  | _ => exact Or.inr ⟨rfl, by simp⟩

/-- An event that does not end the connection changes the mode by the signal that is its own. -/
theorem handle_of_connected (h : c.mode.AllOrNone) (hafter : (c.handle event).isConnected = true) :
    c.isConnected = true ∧
      (c.handle event).mode = (event.signal? c.settings.additiveKey).elim c.mode c.mode.after := by
  by_cases haccepts : c.accepts event = true
  · have hmode : (c.handle event).mode = (c.signalBy event).elim c.mode c.mode.after := by
      rw [handle, if_pos haccepts]
      exact mode_followsSignals.dispatch c event
    have hlistening : (c.handle event).mode.listening ≠ [] := isConnected_iff_listening.mp hafter
    rcases signalBy_cases c event with hdetach | ⟨hown, hclose⟩
    · rw [hmode, hdetach] at hlistening
      exact absurd c.mode.listening_after_detach hlistening
    · rw [hown] at hmode
      exact ⟨((accepts_iff h event).mp haccepts).resolve_right hclose, hmode⟩
  · have hignored : c.handle event = c := if_neg haccepts
    rw [hignored] at hafter
    exact absurd ((accepts_iff h event).mpr (Or.inl hafter)) haccepts

/-- Events that do not end the connection change the mode by their own signals, one after the
other. -/
theorem foldl_handle_of_connected (events : List UserEvent) {key : Key}
    (hkey : ∀ (c : Controller C) event,
      (c.handle event).settings.additiveKey = c.settings.additiveKey)
    (h : c.mode.AllOrNone) (hc : c.settings.additiveKey = key)
    (hafter : (events.foldl handle c).isConnected = true) :
    c.isConnected = true ∧
      (events.foldl handle c).mode =
        (events.filterMap (·.signal? key)).foldl Mode.after c.mode := by
  induction events generalizing c with
  | nil => exact ⟨hafter, rfl⟩
  | cons event rest ih =>
    obtain ⟨hfirst, hrest⟩ :=
      ih (allOrNone_handle h event) ((hkey c event).trans hc) hafter
    obtain ⟨hconnected, hmode⟩ := handle_of_connected h hfirst
    refine ⟨hconnected, ?_⟩
    rw [List.foldl_cons, hrest, hmode, hc]
    cases hs : event.signal? key with
    | none => rw [List.filterMap_cons_none hs]; rfl
    | some g => rw [List.filterMap_cons_some hs]; rfl

end Events

/-! ## A frame -/

variable (d : Decoders) (i : FrameInput) (c : Controller Windowed)

/-- The events of a frame that a test picks, if it picks none but those of pointer and key. -/
theorem filterMap_frameEvents {α : Type} (pick : UserEvent → Option α)
    (hclick : ∀ index, pick (.buttonClick index) = none)
    (hgesture : ∀ vertices, pick (.gesture vertices) = none) (hclose : pick .close = none) :
    (c.frameEvents d i).filterMap pick =
      (hoverEvents c.memory.inside (c.remembered i).inside).filterMap pick ++
        (keyEvents c.memory.key c.memory.held (c.remembered i).held).filterMap pick := by
  obtain ⟨ends, hends, hevents, -, -⟩ := observeFrame_spec d i c
  have hclicks : (c.clickEvents i).filterMap pick = [] := by
    refine List.filterMap_eq_nil_iff.mpr fun e he => ?_
    obtain ⟨index, rfl⟩ := clickEvents_spec i c he
    exact hclick index
  have hlast : ends.filterMap pick = [] := by
    refine List.filterMap_eq_nil_iff.mpr fun e he => ?_
    rcases hends e he with ⟨vertices, rfl⟩ | rfl
    · exact hgesture vertices
    · exact hclose
  rw [hevents, List.filterMap_append, List.filterMap_append, List.filterMap_append, hclicks, hlast,
    List.nil_append, List.append_nil]

/-- The signals that a frame brings are those of pointer and key. -/
theorem signals_frameEvents :
    (c.frameEvents d i).filterMap (·.signal? c.settings.additiveKey) =
      Signal.ofHover c.memory.inside (c.remembered i).inside ++
        Signal.ofKey c.memory.held (c.remembered i).held := by
  rw [filterMap_frameEvents d i c _ (fun _ => rfl) (fun _ => rfl) rfl, hoverEvents, keyEvents,
    Signal.ofHover, Signal.ofKey]
  congr 1
  · split
    · rfl
    · cases (c.remembered i).inside <;> rfl
  · split
    · rfl
    · have hkey : c.memory.key = c.settings.additiveKey := rfl
      cases (c.remembered i).held <;> simp [KeyTracking.event, UserEvent.signal?, hkey]

/-- A frame leaves what it was told in the memory. -/
theorem memory_frame : (c.frame d i).memory = c.remembered i := by
  obtain ⟨-, -, -, -, hmemory⟩ := observeFrame_spec d i c
  rw [← hmemory]
  exact memory_foldl_handle _ _

/-- A controller that is connected after a frame was so before, and its mode is the one before with
the differences of the frame applied in turn. -/
theorem frame_of_connected (h : c.mode.AllOrNone) (hafter : (c.frame d i).isConnected = true) :
    c.isConnected = true ∧ (c.frame d i).mode =
      (Signal.ofHover c.memory.inside (c.remembered i).inside ++
        Signal.ofKey c.memory.held (c.remembered i).held).foldl Mode.after c.mode := by
  obtain ⟨-, -, -, hmode, hmemory⟩ := observeFrame_spec d i c
  have hkey : (c.observeFrame d i).1.settings.additiveKey = c.settings.additiveKey :=
    congrArg Memory.key hmemory
  have hobserved : (c.observeFrame d i).1.mode.AllOrNone := by
    rw [hmode]
    exact h
  obtain ⟨hconnected, hframe⟩ := foldl_handle_of_connected (c.observeFrame d i).2
    (fun c event => congrArg Memory.key (memory_handle c event)) hobserved hkey hafter
  refine ⟨?_, ?_⟩
  · have hlistening := isConnected_iff_listening.mp hconnected
    rw [hmode] at hlistening
    exact isConnected_iff_listening.mpr hlistening
  · rw [← signals_frameEvents d i c, ← hmode]
    exact hframe

theorem resting_foldl_handle {c : Controller Windowed} (h : c.mode.Resting)
    (events : List UserEvent) : (events.foldl handle c).mode.Resting := by
  induction events generalizing c with
  | nil => exact h
  | cons event rest ih => exact ih (resting_step h (s := .handle event) rfl)

theorem allOrNone_foldl_handle {c : Controller Windowed} (h : c.mode.AllOrNone)
    (events : List UserEvent) : (events.foldl handle c).mode.AllOrNone := by
  induction events generalizing c with
  | nil => exact h
  | cons event rest ih => exact ih (allOrNone_handle h event)

/-! ## Runs of frames and host steps -/

/-- What happens in a window, each with the state before it. -/
def windowHistory (d : Decoders) (c : Controller Windowed) :
    List WindowStep → List (Controller Windowed × WindowStep)
  | [] => []
  | s :: rest => (c, s) :: windowHistory d (c.windowStep d s) rest

theorem runWindow_concat (steps : List WindowStep) (s : WindowStep) :
    c.runWindow d (steps ++ [s]) = (c.runWindow d steps).windowStep d s := by
  simp [runWindow]

theorem windowHistory_concat (steps : List WindowStep) (s : WindowStep) :
    c.windowHistory d (steps ++ [s]) = c.windowHistory d steps ++ [(c.runWindow d steps, s)] := by
  induction steps generalizing c with
  | nil => rfl
  | cons first rest ih =>
    rw [List.cons_append, windowHistory, ih, windowHistory, List.cons_append]
    rfl

theorem windowHistory_map_snd (steps : List WindowStep) :
    (c.windowHistory d steps).map (·.2) = steps := by
  induction steps generalizing c with
  | nil => rfl
  | cons first rest ih => rw [windowHistory, List.map_cons, ih]

/-- What holds at the start, and is kept by frames and by what the host program may do, holds of the
state that is reached with its history. -/
theorem runWindow_induction
    {P : Controller Windowed → List (Controller Windowed × WindowStep) → Prop}
    {allowed : WindowStep → Prop} {start : Controller Windowed} (hstart : P start [])
    (hstep : ∀ c past s, allowed s → P c past → P (c.windowStep d s) (past ++ [(c, s)]))
    {steps : List WindowStep} (hall : ∀ s ∈ steps, allowed s) :
    P (start.runWindow d steps) (start.windowHistory d steps) := by
  induction steps using List.reverseRecOn with
  | nil => exact hstart
  | append_singleton steps s ih =>
    rw [runWindow_concat, windowHistory_concat]
    have hs : allowed s := hall s (by simp)
    exact hstep _ _ s hs (ih fun t ht => hall t (by simp [ht]))

/-- The host program connects, disconnects, or leaves the mode alone. -/
theorem signal_of_leavesInput {s : Step} (hs : s.leavesInput = true) :
    c.signal s = none ∨ c.signal s = some .attach ∨ c.signal s = some .detach := by
  cases s with
  | connect => exact Or.inr (Or.inl rfl)
  | disconnect => exact Or.inr (Or.inr rfl)
  | handle event => cases hs
  | dispatch event => cases hs
  | _ => exact Or.inl rfl

/-- A controller listens for all interactions or for none, and rests in the second case. -/
structure Orderly (c : Controller Windowed) : Prop where
  allOrNone : c.mode.AllOrNone
  resting : c.mode.Resting

namespace Orderly

variable {c : Controller Windowed}

theorem new (look : MarkerLook) (points : List (Point Float)) (settings : SelectionSettings)
    (layout : HudSettings) (publishes : Bool) :
    Orderly (new (Windowed.ofLook look) points settings layout publishes) :=
  ⟨Or.inl rfl, fun _ => ⟨rfl, rfl⟩⟩

theorem frame (h : Orderly c) : Orderly (c.frame d i) := by
  obtain ⟨-, -, -, hmode, -⟩ := observeFrame_spec d i c
  have hall : (c.observeFrame d i).1.mode.AllOrNone := by
    rw [hmode]
    exact h.allOrNone
  have hrest : (c.observeFrame d i).1.mode.Resting := by
    rw [hmode]
    exact h.resting
  exact ⟨allOrNone_foldl_handle hall _, resting_foldl_handle hrest _⟩

theorem windowStep (h : Orderly c) {s : WindowStep} (hs : s.leavesInput = true) :
    Orderly (c.windowStep d s) := by
  cases s with
  | frame i => exact h.frame d i
  | host s =>
    refine ⟨?_, resting_step h.resting (Step.bypasses_of_leavesInput hs)⟩
    rw [Controller.windowStep, step_mode c (Step.editsMode_of_leavesInput hs)]
    cases c.signal s with
    | none => exact h.allOrNone
    | some g => exact h.allOrNone.after g

/-- Outside of a connection the strip is hidden. -/
theorem connected_of_visible (h : Orderly c) (hvisible : c.hud.visible = true) :
    c.isConnected = true := by
  by_contra hoff
  have hlistening := isConnected_eq_false_iff.mp (Bool.eq_false_iff.mpr hoff)
  have hhidden : c.hud.visible = false := (h.resting hlistening).2
  rw [hhidden] at hvisible
  cases hvisible

end Orderly

end Controller

end ScatterPick
