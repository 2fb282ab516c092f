import ScatterPick.Image.Icon
import ScatterPick.Proofs.Frame.Passing

/-!
# Hovering

The strip is shown only while the pointer is over the plot or the strip, and only by a connected
controller. The frames of a run tell of the pointer in turns: it enters first, then it leaves.
-/

namespace ScatterPick.Controller

/-- Whether an event tells of the pointer. -/
def tellsPointer : UserEvent → Bool
  | .pointerEnter | .pointerExit => true
  | _ => false

/-- What a frame tells of the pointer. -/
def pointerEvents (d : Decoders) (p : Controller Windowed × WindowStep) : List UserEvent :=
  match p.2 with
  | .frame i => (p.1.frameEvents d i).filter tellsPointer
  | .host _ => []

/-- The event with a number, counted from zero, where the pointer enters and leaves in turns. -/
def turn (number : Nat) : UserEvent := if number % 2 = 0 then .pointerEnter else .pointerExit

variable {d : Decoders} {c : Controller Windowed}

/-- The pointer is over the plot or the strip if it is between the borders of the area that both
make up. No place is beside a border that is undefined. -/
theorem inside_iff {i : FrameInput} {layout : HudSettings} :
    i.inside layout = true ↔ ∃ p, i.pointer = some p ∧
      (i.frame.left ≤ p.x ∧ p.x ≤ i.frame.right) ∧
        i.frame.top - Strip.height i.available layout.size layout.gap ≤ p.y ∧
          p.y ≤ i.frame.bottom := by
  have hborder (a b : Float32) : Coordinate.atMost a b = true ↔ a ≤ b := decide_eq_true_iff
  rw [FrameInput.inside, Option.any_eq_true]
  refine exists_congr fun p => and_congr_right fun _ => ?_
  simp only [ScreenRect.contains, Bool.and_eq_true, hborder, Strip.hoverArea, and_assoc]

/-- A frame tells of the pointer exactly if it came or went since the frame before. -/
theorem pointerEvents_frame (i : FrameInput) :
    pointerEvents d (c, .frame i) = hoverEvents c.memory.inside (c.remembered i).inside := by
  have hpick := filterMap_frameEvents d i c (Option.guard tellsPointer)
    (fun _ => rfl) (fun _ => rfl) rfl
  simp only [List.filterMap_eq_filter] at hpick
  have hkeys : (keyEvents c.memory.key c.memory.held (c.remembered i).held).filter tellsPointer =
      [] := by
    rw [keyEvents]
    split
    · rfl
    · cases (c.remembered i).held <;> rfl
  change (c.frameEvents d i).filter tellsPointer = _
  rw [hpick, hkeys, List.append_nil, hoverEvents]
  split
  · rfl
  · cases (c.remembered i).inside <;> rfl

/-- The host program never brings the strip up. -/
theorem visible_of_host {s : Step} (hs : s.leavesInput = true)
    (h : (c.step s).hud.visible = true) : c.hud.visible = true := by
  have hvisible : (c.step s).mode.visible = true := h
  rw [step_mode c (Step.editsMode_of_leavesInput hs)] at hvisible
  rcases signal_of_leavesInput c hs with hnone | hattach | hdetach
  · rw [hnone] at hvisible
    exact hvisible
  · rw [hattach, Option.elim_some, Mode.after] at hvisible
    split at hvisible
    · cases hvisible
    · exact hvisible
  · rw [hdetach, Option.elim_some, Mode.after] at hvisible
    split at hvisible
    · exact hvisible
    · cases hvisible

/-- After a frame that leaves the strip visible the pointer is inside. -/
theorem inside_of_visible_frame (h : Orderly c)
    (hvisible : c.hud.visible = true → c.memory.inside = true) (i : FrameInput)
    (hafter : (c.frame d i).hud.visible = true) : (c.remembered i).inside = true := by
  have hconnected : (c.frame d i).isConnected = true := (h.frame d i).connected_of_visible hafter
  have hmode := (frame_of_connected d i c h.allOrNone hconnected).2
  have hkey (m : Mode) : ((Signal.ofKey c.memory.held (c.remembered i).held).foldl Mode.after
      m).visible = m.visible := by
    rw [Signal.ofKey]
    split
    · rfl
    · rfl
  have hshown : (c.frame d i).mode.visible = true := hafter
  rw [hmode, List.foldl_append, hkey, Signal.ofHover] at hshown
  by_cases hstays : (c.remembered i).inside = c.memory.inside
  · rw [if_pos hstays] at hshown
    rw [hstays]
    exact hvisible hshown
  · rw [if_neg hstays] at hshown
    cases hinside : (c.remembered i).inside with
    | true => rfl
    | false =>
      rw [hinside] at hshown
      cases hshown

/-- What a run keeps: the strip is up only if the last frame saw the pointer inside, and the pointer
was inside after an odd number of turns. -/
structure Hovering (d : Decoders) (c : Controller Windowed)
    (past : List (Controller Windowed × WindowStep)) : Prop where
  orderly : Orderly c
  inside_of_visible : c.hud.visible = true → c.memory.inside = true
  inside_iff : c.memory.inside = true ↔ (past.flatMap (pointerEvents d)).length % 2 = 1
  turns : ∀ k e, (past.flatMap (pointerEvents d))[k]? = some e → e = turn k

namespace Hovering

variable {past : List (Controller Windowed × WindowStep)}

/-- Turns go on as long as the pointer enters only from outside and leaves only from inside. -/
theorem append_hoverEvents {before : Bool} (now : Bool) {events : List UserEvent}
    (hparity : before = true ↔ events.length % 2 = 1)
    (hturns : ∀ k e, events[k]? = some e → e = turn k) :
    (now = true ↔ (events ++ hoverEvents before now).length % 2 = 1) ∧
      ∀ k e, (events ++ hoverEvents before now)[k]? = some e → e = turn k := by
  rw [hoverEvents]
  by_cases h : now = before
  · rw [if_pos h, List.append_nil, h]
    exact ⟨hparity, hturns⟩
  · rw [if_neg h, List.length_append, List.length_singleton]
    have hnow : now = !before := by cases now <;> cases before <;> simp_all
    refine ⟨?_, fun k e he => ?_⟩
    · rw [hnow, Bool.not_eq_true', Bool.eq_false_iff, ne_eq, hparity]
      omega
    · rcases lt_trichotomy k events.length with hk | hk | hk
      · rw [List.getElem?_append_left hk] at he
        exact hturns k e he
      · rw [hk, List.getElem?_concat_length] at he
        obtain rfl := Option.some.inj he
        have heven : now = true ↔ events.length % 2 = 0 := by
          rw [hnow, Bool.not_eq_true', Bool.eq_false_iff, ne_eq, hparity]
          omega
        rw [hk, turn]
        simp only [heven]
      · rw [List.getElem?_eq_none (by rw [List.length_append, List.length_singleton]; omega)] at he
        cases he

theorem windowStep (h : Hovering d c past) {s : WindowStep} (hs : s.leavesInput = true) :
    Hovering d (c.windowStep d s) (past ++ [(c, s)]) := by
  have horderly : Orderly (c.windowStep d s) := h.orderly.windowStep d hs
  cases s with
  | frame i =>
    have hmemory : (c.windowStep d (.frame i)).memory.inside = (c.remembered i).inside :=
      congrArg Memory.inside (memory_frame d i c)
    obtain ⟨hparity, hturns⟩ := append_hoverEvents (c.remembered i).inside h.inside_iff
      h.turns
    refine ⟨horderly, fun hvisible => ?_, ?_, ?_⟩
    · rw [hmemory]
      exact inside_of_visible_frame h.orderly h.inside_of_visible i hvisible
    · rw [hmemory, List.flatMap_append, List.flatMap_singleton, pointerEvents_frame]
      exact hparity
    · rw [List.flatMap_append, List.flatMap_singleton, pointerEvents_frame]
      exact hturns
  | host s =>
    have hmemory : (c.windowStep d (.host s)).memory = c.memory := memory_step c s
    have hevents : (past ++ [(c, WindowStep.host s)]).flatMap (pointerEvents d) =
        past.flatMap (pointerEvents d) := by
      rw [List.flatMap_append, List.flatMap_singleton, pointerEvents, List.append_nil]
    refine ⟨horderly, fun hvisible => ?_, ?_, ?_⟩
    · rw [hmemory]
      exact h.inside_of_visible (visible_of_host hs hvisible)
    · rw [hmemory, hevents]
      exact h.inside_iff
    · rw [hevents]
      exact h.turns

end Hovering

/-- Right after a frame a visible strip belongs to a connected controller, and in that very frame the
pointer was between the borders of the plot with the strip above it. Over all frames together the
pointer enters and leaves in turns, entering first. -/
theorem runWindow_strip_within_hover (d : Decoders) (look : MarkerLook) (points : List (Point Float))
    (settings : SelectionSettings) (layout : HudSettings) (publishes : Bool)
    (steps : List WindowStep) (hsteps : ∀ s ∈ steps, s.leavesInput = true) :
    let start := new (Windowed.ofLook look) points settings layout publishes
    let before := start.runWindow d steps
    (∀ i, (before.frame d i).hud.visible = true →
        (before.frame d i).isConnected = true ∧
          ∃ p, i.pointer = some p ∧ (i.frame.left ≤ p.x ∧ p.x ≤ i.frame.right) ∧
            i.frame.top - Strip.height i.available before.hud.layout.size before.hud.layout.gap ≤
              p.y ∧ p.y ≤ i.frame.bottom) ∧
      ∀ k e, ((start.windowHistory d steps).flatMap (pointerEvents d))[k]? = some e →
        e = if k % 2 = 0 then .pointerEnter else .pointerExit := by
  intro start before
  have h : Hovering d before (start.windowHistory d steps) := by
    refine runWindow_induction d (P := Hovering d) ?_
      (fun c past s hs hc => hc.windowStep hs) hsteps
    refine ⟨.new look points settings layout publishes, fun hvisible => ?_, ?_, fun k e he => ?_⟩
    · cases hvisible
    · have houtside : start.memory.inside = false := rfl
      simp [houtside]
    · cases he
  refine ⟨fun i hvisible => ⟨(h.orderly.frame d i).connected_of_visible hvisible, ?_⟩, h.turns⟩
  exact inside_iff.mp (inside_of_visible_frame h.orderly h.inside_of_visible i hvisible)

/-- The pointer enters before the first connecting, leaves, and enters again, so that the strip
comes up. It leaves in the frame of a click on the button that disconnects: nobody is told any more,
yet the strip is hidden. Once connected again the strip comes up as the pointer enters. -/
theorem strip_up_after_reconnecting :
    let onPlot : FrameInput :=
      { available := 100.0, frame := ⟨0.0, 20.0, 100.0, 100.0⟩, view := .unit
        pointer := some ⟨50.0, 50.0⟩, place := none, pressed := false, down := false
        released := false, touches := [], modifiers := {}, strokes := [], closing := false }
    let away : FrameInput := { onPlot with pointer := none }
    let click : FrameInput := { away with touches := [⟨false, true⟩] }
    let start := new (Windowed.ofLook {}) [⟨0.0, 0.0⟩] {} {} true
    let steps : List WindowStep := [.host .registerDisconnect, .frame onPlot, .host .connect,
      .frame onPlot, .frame away, .frame onPlot, .frame click, .host .connect]
    let before := start.runWindow .standard steps
    let told := (start.windowHistory .standard steps).flatMap (pointerEvents .standard)
    (∀ s ∈ steps, s.leavesInput = true) ∧
      (before.frame .standard onPlot).hud.visible = true ∧
      (before.frame .standard onPlot).isConnected = true ∧
      (∃ p, onPlot.pointer = some p ∧ (0.0 ≤ p.x ∧ p.x ≤ 100.0) ∧
        20.0 - Strip.height 100.0 before.hud.layout.size before.hud.layout.gap ≤ p.y ∧
          p.y ≤ 100.0) ∧
      told.length = 4 ∧ told[2]? = some .pointerEnter ∧ told[3]? = some .pointerExit ∧
      ∀ e, told[2]? = some e → e = .pointerEnter := by
  intro onPlot away click start steps before told
  have hsteps : ∀ s ∈ steps, s.leavesInput = true := by
    simp [steps, WindowStep.leavesInput, Step.leavesInput, Step.editsMode]
  have hrun :
      (new (Windowed.ofLook {}) [⟨0.0, 0.0⟩] {} {} true).runWindow .standard steps = before := rfl
  obtain ⟨hframe, hturns⟩ :=
    runWindow_strip_within_hover .standard {} [⟨0.0, 0.0⟩] {} {} true steps hsteps
  rw [hrun] at hframe
  have hvisible : (before.frame .standard onPlot).hud.visible = true := by decide +kernel
  have hshown := hframe onPlot hvisible
  have hthird : ∀ e, told[2]? = some e → e = .pointerEnter := hturns 2
  have hlength : told.length = 4 := by decide +kernel
  have henters : told[2]? = some .pointerEnter := by decide +kernel
  have hleaves : told[3]? = some .pointerExit := by decide +kernel
  exact ⟨hsteps, hvisible, hshown.1, hshown.2, hlength, henters, hleaves, hthird⟩

end ScatterPick.Controller
