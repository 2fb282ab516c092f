import Mathlib.Data.List.DropRight
import ScatterPick.Image.Icon
import ScatterPick.Proofs.Frame.Passing

/-!
# The held key

The canvas knows in every frame whether the additive key is held; the controller learns of it only
as the key goes down or up, and forgets it when disconnected. So the additive mode of a connected
controller tells of the key alone if the key went down since connecting.
-/

namespace ScatterPick

/-- A modifier is held as it is told, whatever the strokes say. -/
theorem KeyTracking.held?_of_modifier {m : Modifiers} {key : Key} {held : Bool}
    (h : m.held? key = some held) (strokes : List KeyStroke) (before : Bool) :
    held? m strokes key before = some held := by
  simp only [held?, h]

namespace Controller

/-- Whether something that happened is a connecting that attaches the listeners. -/
def attaches (p : Controller Windowed × WindowStep) : Bool :=
  match p.2 with
  | .host .connect => !p.1.isConnected
  | _ => false

/-- What happened since the listeners were last attached. -/
def sinceAttaching (past : List (Controller Windowed × WindowStep)) :
    List (Controller Windowed × WindowStep) :=
  past.rtakeWhile fun p => !attaches p

/-- Whether something that happened is a frame that tells that the additive key went down. -/
def TellsKeyDown (d : Decoders) (p : Controller Windowed × WindowStep) : Prop :=
  ∃ i, p.2 = .frame i ∧ .keyDown p.1.settings.additiveKey ∈ p.1.frameEvents d i

variable {d : Decoders} {c : Controller Windowed}

/-- Whether an event tells that a key went down. -/
def goesDown : UserEvent → Bool
  | .keyDown _ => true
  | _ => false

/-- A frame tells that the key went down if it is held now and was not in the frame before. -/
theorem tellsKeyDown_frame (i : FrameInput) :
    TellsKeyDown d (c, .frame i) ↔ c.memory.held = false ∧ (c.remembered i).held = true := by
  have hpick := filterMap_frameEvents d i c (Option.guard goesDown)
    (fun _ => rfl) (fun _ => rfl) rfl
  simp only [List.filterMap_eq_filter] at hpick
  have hhover : (hoverEvents c.memory.inside (c.remembered i).inside).filter goesDown = [] := by
    rw [hoverEvents]
    split
    · rfl
    · cases (c.remembered i).inside <;> rfl
  rw [hhover, List.nil_append] at hpick
  have htold : TellsKeyDown d (c, .frame i) ↔
      .keyDown c.settings.additiveKey ∈ (c.frameEvents d i).filter goesDown := by
    constructor
    · rintro ⟨j, hj, htold⟩
      obtain rfl := WindowStep.frame.inj hj
      exact List.mem_filter.mpr ⟨htold, rfl⟩
    · intro htold
      exact ⟨i, rfl, (List.mem_filter.mp htold).1⟩
  have hkey : c.memory.key = c.settings.additiveKey := rfl
  rw [htold, hpick, keyEvents, hkey]
  cases c.memory.held <;> cases (c.remembered i).held <;> simp [KeyTracking.event, goesDown]

/-- The additive mode after a frame that leaves the controller connected: the frame decides it if
the key went down or up. -/
theorem additive_frame (h : Orderly c) (i : FrameInput)
    (hafter : (c.frame d i).isConnected = true) :
    (c.frame d i).additive =
      if (c.remembered i).held = c.memory.held then c.additive else (c.remembered i).held := by
  have hmode := (frame_of_connected d i c h.allOrNone hafter).2
  have hhover : ((Signal.ofHover c.memory.inside (c.remembered i).inside).foldl Mode.after
      c.mode).additive = c.additive := by
    rw [Signal.ofHover]
    split
    · rfl
    · cases (c.remembered i).inside <;> rfl
  have hadditive : (c.frame d i).additive = (c.frame d i).mode.additive := rfl
  rw [hadditive, hmode, List.foldl_append, Signal.ofKey]
  split
  · exact hhover
  · rfl

/-- Only connecting attaches listeners. -/
theorem eq_connect_of_signal {s : Step} (hs : s.leavesInput = true)
    (h : c.signal s = some .attach) : s = .connect := by
  cases s with
  | connect => rfl
  | handle event => cases hs
  | dispatch event => cases hs
  | _ => cases h

/-- What the host program does between frames leaves the mode alone, unless it attaches or detaches
the listeners. -/
theorem mode_step_of_attached {s : Step} (hs : s.leavesInput = true)
    (hattach : attaches (c, .host s) = false) (hafter : (c.step s).isConnected = true) :
    (c.step s).mode = c.mode := by
  have hmode := step_mode c (Step.editsMode_of_leavesInput hs)
  rcases signal_of_leavesInput c hs with hnone | hsignal | hdetach
  · rw [hmode, hnone]
    rfl
  · have hon : c.mode.listening ≠ [] := by
      obtain rfl := eq_connect_of_signal hs hsignal
      rw [attaches, Bool.not_eq_false'] at hattach
      exact isConnected_iff_listening.mp hattach
    rw [hmode, hsignal, Option.elim_some, Mode.after, if_neg hon]
  · have hlistening := isConnected_iff_listening.mp hafter
    rw [hmode, hdetach] at hlistening
    exact absurd c.mode.listening_after_detach hlistening

/-- What a run keeps: outside of connecting, the additive mode of a connected controller is on if
the key is held and went down since the listeners were attached. -/
structure KeyFollowed (d : Decoders) (key : Key) (c : Controller Windowed)
    (past : List (Controller Windowed × WindowStep)) : Prop where
  orderly : Orderly c
  key_eq : c.settings.additiveKey = key
  additive_iff : c.isConnected = true →
    (c.additive = true ↔ c.memory.held = true ∧ ∃ p ∈ sinceAttaching past, TellsKeyDown d p)

namespace KeyFollowed

variable {key : Key} {past : List (Controller Windowed × WindowStep)}

/-- What happens without attaching the listeners adds to what happened since. -/
theorem exists_sinceAttaching_concat {p : Controller Windowed × WindowStep}
    (hp : attaches p = false) :
    (∃ q ∈ sinceAttaching (past ++ [p]), TellsKeyDown d q) ↔
      (∃ q ∈ sinceAttaching past, TellsKeyDown d q) ∨ TellsKeyDown d p := by
  rw [sinceAttaching, List.rtakeWhile_concat_pos _ _ _ (by rw [hp]; rfl), ← sinceAttaching]
  simp only [List.mem_append, List.mem_singleton, or_and_right, exists_or, exists_eq_left]

theorem frame (h : KeyFollowed d key c past) (i : FrameInput) :
    KeyFollowed d key (c.frame d i) (past ++ [(c, .frame i)]) := by
  have hmemory : (c.frame d i).memory = c.remembered i := memory_frame d i c
  refine ⟨h.orderly.frame d i, (congrArg Memory.key hmemory).trans h.key_eq, fun hafter => ?_⟩
  have hconnected := (frame_of_connected d i c h.orderly.allOrNone hafter).1
  rw [additive_frame h.orderly i hafter, hmemory, exists_sinceAttaching_concat rfl,
    tellsKeyDown_frame]
  have hbefore := h.additive_iff hconnected
  by_cases hsame : (c.remembered i).held = c.memory.held
  · rw [if_pos hsame, hbefore, hsame]
    cases c.memory.held <;> simp
  · rw [if_neg hsame]
    cases hheld : (c.remembered i).held with
    | false => simp
    | true =>
      rw [hheld] at hsame
      have hup : c.memory.held = false := by
        cases hdown : c.memory.held with
        | false => rfl
        | true => exact absurd hdown.symm hsame
      simp [hup]

/-- Attaching the listeners turns the additive mode off, whatever is held. -/
theorem attach (h : KeyFollowed d key c past) (hoff : c.isConnected = false) :
    KeyFollowed d key c.connect (past ++ [(c, .host .connect)]) := by
  have hmemory : c.connect.memory = c.memory := memory_connect c
  refine ⟨h.orderly.windowStep d (s := .host .connect) rfl,
    (congrArg Memory.key hmemory).trans h.key_eq, fun _ => ?_⟩
  have hattaches : attaches (c, .host .connect) = true := by rw [attaches, hoff]; rfl
  have hnothing : sinceAttaching (past ++ [(c, .host .connect)]) = [] :=
    List.rtakeWhile_concat_neg _ _ _ (by rw [hattaches]; simp)
  have hlistening : c.mode.listening = [] := isConnected_eq_false_iff.mp hoff
  have hadditive : c.connect.mode.additive = false := by
    rw [mode_connect, Mode.after, if_pos hlistening]
    exact (h.orderly.resting hlistening).1
  have hstays : c.connect.additive = false := hadditive
  rw [hnothing, hstays]
  simp

/-- Nothing else that the host program does concerns the additive mode of a connected controller. -/
theorem host (h : KeyFollowed d key c past) {s : Step} (hs : s.leavesInput = true)
    (hattach : attaches (c, .host s) = false) :
    KeyFollowed d key (c.step s) (past ++ [(c, .host s)]) := by
  have hmemory : (c.step s).memory = c.memory := memory_step c s
  refine ⟨h.orderly.windowStep d (s := .host s) hs,
    (congrArg Memory.key hmemory).trans h.key_eq, fun hafter => ?_⟩
  have hsilent : ¬ TellsKeyDown d (c, .host s) := fun ⟨i, hi, _⟩ => by cases hi
  have hkept : (c.step s).mode = c.mode := mode_step_of_attached hs hattach hafter
  have hconnected : c.isConnected = true := by
    have hlistening := isConnected_iff_listening.mp hafter
    rw [hkept] at hlistening
    exact isConnected_iff_listening.mpr hlistening
  have hadditive : (c.step s).additive = c.additive := congrArg Mode.additive hkept
  rw [hadditive, hmemory, exists_sinceAttaching_concat hattach, or_iff_left hsilent]
  exact h.additive_iff hconnected

theorem windowStep (h : KeyFollowed d key c past) {s : WindowStep} (hs : s.leavesInput = true) :
    KeyFollowed d key (c.windowStep d s) (past ++ [(c, s)]) := by
  cases s with
  | frame i => exact h.frame i
  | host s =>
    cases hattach : attaches (c, .host s) with
    | false => exact h.host hs hattach
    | true =>
      cases s with
      | connect =>
        rw [attaches, Bool.not_eq_true'] at hattach
        exact h.attach hattach
      | _ => cases hattach

end KeyFollowed

/-- After a frame that leaves the controller connected, the additive mode is on exactly if the
canvas takes the additive key to be held and a frame since the listeners were attached told that it
went down. The canvas takes a modifier to be held exactly if it is held in that very frame. -/
theorem runWindow_additive_follows_key (d : Decoders) (look : MarkerLook)
    (points : List (Point Float)) (settings : SelectionSettings) (layout : HudSettings)
    (publishes : Bool) (steps : List WindowStep) (hsteps : ∀ s ∈ steps, s.leavesInput = true)
    (i : FrameInput) :
    let start := new (Windowed.ofLook look) points settings layout publishes
    let past := start.windowHistory d (steps ++ [.frame i])
    let after := start.runWindow d (steps ++ [.frame i])
    after.isConnected = true →
      (after.additive = true ↔
        after.canvas.keyHeld = true ∧ ∃ p ∈ sinceAttaching past, TellsKeyDown d p) ∧
      ∀ held, i.modifiers.held? settings.additiveKey = some held → after.canvas.keyHeld = held := by
  intro start past after hafter
  have hall : ∀ s ∈ steps ++ [.frame i], WindowStep.leavesInput s = true := by
    intro s hs
    rcases List.mem_append.mp hs with hs | hs
    · exact hsteps s hs
    · rw [List.mem_singleton.mp hs]
      rfl
  have hstart : KeyFollowed d settings.additiveKey start [] :=
    ⟨.new look points settings layout publishes, rfl, fun hconnected => by cases hconnected⟩
  have hkey (steps : List WindowStep) (hsteps : ∀ s ∈ steps, s.leavesInput = true) :
      KeyFollowed d settings.additiveKey (start.runWindow d steps) (start.windowHistory d steps) :=
    runWindow_induction d hstart (fun c past s hs hc => hc.windowStep hs) hsteps
  refine ⟨(hkey _ hall).additive_iff hafter, fun held hmodifier => ?_⟩
  have hmemory : after.memory = (start.runWindow d steps).remembered i := by
    have hlast : after = (start.runWindow d steps).frame d i := runWindow_concat d start steps _
    rw [hlast, memory_frame]
  have hheld : after.canvas.keyHeld = ((start.runWindow d steps).remembered i).held :=
    congrArg Memory.held hmemory
  have hkeyEq : (start.runWindow d steps).settings.additiveKey = settings.additiveKey :=
    (hkey steps hsteps).key_eq
  rw [hheld, remembered, hkeyEq, KeyTracking.held?_of_modifier hmodifier, Option.getD_some]

/-- Shift goes down before connecting and again after it was let go: the second time the additive
mode comes on. -/
theorem additive_after_second_press :
    let up : FrameInput :=
      { available := 100.0, frame := ⟨0.0, 20.0, 100.0, 100.0⟩, view := .unit
        pointer := none, place := none, pressed := false, down := false
        released := false, touches := [], modifiers := {}, strokes := [], closing := false }
    let shift : FrameInput := { up with modifiers := { shift := true } }
    let start := new (Windowed.ofLook {}) [⟨0.0, 0.0⟩] {} {} true
    let steps : List WindowStep := [.frame shift, .host .connect, .frame shift, .frame up]
    let past := start.windowHistory .standard (steps ++ [.frame shift])
    let after := start.runWindow .standard (steps ++ [.frame shift])
    (∀ s ∈ steps, s.leavesInput = true) ∧ after.isConnected = true ∧ after.additive = true ∧
      (∃ p ∈ sinceAttaching past, TellsKeyDown .standard p) ∧
      Modifiers.held? shift.modifiers .shift = some true ∧ after.canvas.keyHeld = true := by
  intro up shift start steps past after
  have hsteps : ∀ s ∈ steps, s.leavesInput = true := by
    simp [steps, WindowStep.leavesInput, Step.leavesInput, Step.editsMode]
  have hconnected : after.isConnected = true := by decide +kernel
  have hadditive : after.additive = true := by decide +kernel
  have hrun : (new (Windowed.ofLook {}) [⟨0.0, 0.0⟩] {} {} true).runWindow .standard
      (steps ++ [.frame shift]) = after := rfl
  have hfollows := runWindow_additive_follows_key .standard {} [⟨0.0, 0.0⟩] {} {} true steps hsteps
    shift
  simp only [hrun] at hfollows
  obtain ⟨hiff, hheld⟩ := hfollows hconnected
  exact ⟨hsteps, hconnected, hadditive, (hiff.mp hadditive).2, rfl, hheld true rfl⟩

/-- Shift is held all the time, from before connecting: the additive mode stays off. -/
theorem additive_off_under_held_key :
    let up : FrameInput :=
      { available := 100.0, frame := ⟨0.0, 20.0, 100.0, 100.0⟩, view := .unit
        pointer := none, place := none, pressed := false, down := false
        released := false, touches := [], modifiers := {}, strokes := [], closing := false }
    let shift : FrameInput := { up with modifiers := { shift := true } }
    let start := new (Windowed.ofLook {}) [⟨0.0, 0.0⟩] {} {} true
    let after := start.runWindow .standard [.frame shift, .host .connect, .frame shift]
    after.isConnected = true ∧
      shift.modifiers.held? start.settings.additiveKey = some true ∧ after.additive = false := by
  decide +kernel

end Controller

end ScatterPick
