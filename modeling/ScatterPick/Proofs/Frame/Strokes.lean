import Mathlib.Data.List.Induction
import ScatterPick.Image.Icon
import ScatterPick.Proofs.Frame.HeldKey

/-!
# Keys known by their strokes

Of a key that is no modifier a frame knows the strokes alone, and it takes them without their order:
a press outweighs a release. The additive mode therefore follows the last stroke of the key but for
one case: a key that goes down and up within a frame counts as held.
-/

namespace ScatterPick

namespace KeyTracking

/-- Whether some strokes tell of a key. -/
def tells (k : NamedKey) (strokes : List KeyStroke) : Bool := strokes.any (·.key = k)

/-- Whether the last of some strokes of a key is a press; nothing if the key was not touched. -/
def lastStroke (k : NamedKey) (strokes : List KeyStroke) : Option Bool :=
  ((strokes.filter (·.key = k)).getLast?).map (·.down)

theorem lastStroke_append (k : NamedKey) (strokes more : List KeyStroke) :
    lastStroke k (strokes ++ more) = (lastStroke k more).or (lastStroke k strokes) := by
  rw [lastStroke, List.filter_append, List.getLast?_append, Option.map_or]
  rfl

/-- There is no last stroke of a key that was not touched. -/
theorem lastStroke_eq_none {k : NamedKey} {strokes : List KeyStroke} :
    lastStroke k strokes = none ↔ tells k strokes = false := by
  simp [lastStroke, tells]

theorem mem_of_lastStroke {k : NamedKey} {strokes : List KeyStroke} {down : Bool}
    (h : lastStroke k strokes = some down) : ⟨k, down⟩ ∈ strokes := by
  obtain ⟨stroke, hlast, rfl⟩ := Option.map_eq_some_iff.mp h
  obtain ⟨hmem, hkey⟩ := List.mem_filter.mp (List.mem_of_getLast? hlast)
  obtain rfl := of_decide_eq_true hkey
  exact hmem

/-- There is a press among the strokes of a key if the last one is a press; the last one may also be
a release after it. -/
theorem press_mem_iff {k : NamedKey} {strokes : List KeyStroke} (h : tells k strokes = true) :
    ⟨k, true⟩ ∈ strokes ↔ lastStroke k strokes = some true ∨
      ⟨k, true⟩ ∈ strokes ∧ lastStroke k strokes = some false := by
  cases hlast : lastStroke k strokes with
  | none =>
    rw [lastStroke_eq_none.mp hlast] at h
    cases h
  | some down =>
    cases down with
    | true => simp [mem_of_lastStroke hlast]
    | false => simp

/-- A frame that tells of a key takes it to be held if there is a press among the strokes. -/
theorem afterStrokes_of_tells {k : NamedKey} {strokes : List KeyStroke}
    (h : tells k strokes = true) (before : Bool) :
    afterStrokes strokes k before = decide (⟨k, true⟩ ∈ strokes) := by
  rw [afterStrokes]
  by_cases hpress : ⟨k, true⟩ ∈ strokes
  · simp [hpress]
  · have hrelease : (⟨k, false⟩ : KeyStroke) ∈ strokes := by
      obtain ⟨⟨key, down⟩, hmem, hkey⟩ := List.any_eq_true.mp h
      obtain rfl : key = k := of_decide_eq_true hkey
      cases down with
      | false => exact hmem
      | true => exact absurd hmem hpress
    simp [hpress, hrelease]

/-- Strokes of other keys do not matter. -/
theorem afterStrokes_of_silent {k : NamedKey} {strokes : List KeyStroke}
    (h : tells k strokes = false) (before : Bool) : afterStrokes strokes k before = before := by
  have hno (down : Bool) : (⟨k, down⟩ : KeyStroke) ∉ strokes := fun hmem => by
    rw [tells, List.any_eq_false] at h
    exact h _ hmem (decide_eq_true rfl)
  simp [afterStrokes, hno]

/-- A key that the keyboard has and that is no modifier is known by its strokes. -/
theorem held?_of_named {name : String} {k : NamedKey} (h : NamedKey.ofName? name = some k)
    (m : Modifiers) (strokes : List KeyStroke) (before : Bool) :
    held? m strokes (.other name) before = some (afterStrokes strokes k before) := by
  have hmodifier : m.held? (.other name) = none := rfl
  simp only [held?, hmodifier, h, Option.map_some]

/-- The strokes of the last of some frames that tells of a key. -/
def lastTelling (k : NamedKey) (frames : List (List KeyStroke)) : Option (List KeyStroke) :=
  (frames.filter (tells k)).getLast?

theorem lastTelling_concat (k : NamedKey) (frames : List (List KeyStroke))
    (strokes : List KeyStroke) :
    lastTelling k (frames ++ [strokes]) =
      if tells k strokes = true then some strokes else lastTelling k frames := by
  rw [lastTelling, List.filter_append, List.getLast?_append, lastTelling]
  cases h : tells k strokes with
  | false => simp [h]
  | true => simp [h]

theorem tells_of_lastTelling {k : NamedKey} {frames : List (List KeyStroke)}
    {strokes : List KeyStroke} (h : lastTelling k frames = some strokes) :
    tells k strokes = true :=
  (List.mem_filter.mp (List.mem_of_getLast? h)).2

/-- The last stroke of a key lies in the last frame that tells of it. -/
theorem lastStroke_flatten (k : NamedKey) (frames : List (List KeyStroke)) :
    lastStroke k frames.flatten = (lastTelling k frames).bind (lastStroke k) := by
  induction frames using List.reverseRecOn with
  | nil => rfl
  | append_singleton frames strokes ih =>
    rw [List.flatten_append, List.flatten_singleton, lastStroke_append, ih, lastTelling_concat]
    cases h : tells k strokes with
    | false =>
      rw [lastStroke_eq_none.mpr h, Option.none_or]
      rfl
    | true =>
      obtain ⟨down, hdown⟩ : ∃ down, lastStroke k strokes = some down := by
        rw [← Option.ne_none_iff_exists', ne_eq, lastStroke_eq_none, h]
        exact Bool.noConfusion
      rw [if_pos rfl, Option.bind_some, hdown, Option.some_or]

end KeyTracking

namespace Controller

open KeyTracking

/-- The strokes that come with something that happens. -/
def strokesOf : WindowStep → List KeyStroke
  | .frame i => i.strokes
  | .host _ => []

/-- What a run keeps of a key that is known by its strokes: it is taken to be held if the last frame
that told of it brought a press, and the additive mode follows it while the listeners stay
attached. -/
structure StrokesFollowed (k : NamedKey) (name : String) (c : Controller Windowed)
    (past : List (Controller Windowed × WindowStep)) : Prop where
  orderly : Orderly c
  key_eq : c.settings.additiveKey = .other name
  held_iff : c.memory.held = true ↔
    ∃ strokes, lastTelling k (past.map fun p => strokesOf p.2) = some strokes ∧ ⟨k, true⟩ ∈ strokes
  additive_eq : (∀ p ∈ past, p.1.isConnected = true) → c.isConnected = true →
    c.additive = c.memory.held

namespace StrokesFollowed

variable {d : Decoders} {k : NamedKey} {name : String} {c : Controller Windowed}
  {past : List (Controller Windowed × WindowStep)}

/-- A frame takes the key to be held as its strokes tell, and as before if they do not. -/
theorem held_remembered (h : StrokesFollowed k name c past)
    (hname : NamedKey.ofName? name = some k) (i : FrameInput) :
    (c.remembered i).held = afterStrokes i.strokes k c.memory.held := by
  rw [remembered, h.key_eq, held?_of_named hname]
  rfl

theorem frame (h : StrokesFollowed k name c past) (hname : NamedKey.ofName? name = some k)
    (i : FrameInput) : StrokesFollowed k name (c.frame d i) (past ++ [(c, .frame i)]) := by
  have hmemory : (c.frame d i).memory = c.remembered i := memory_frame d i c
  refine ⟨h.orderly.frame d i, (congrArg Memory.key hmemory).trans h.key_eq, ?_,
    fun hpast hafter => ?_⟩
  · rw [hmemory, h.held_remembered hname, List.map_append, List.map_singleton, lastTelling_concat,
      strokesOf]
    cases htells : tells k i.strokes with
    | false =>
      rw [afterStrokes_of_silent htells, h.held_iff]
      rfl
    | true =>
      rw [afterStrokes_of_tells htells, if_pos rfl]
      simp
  · have hbefore : c.additive = c.memory.held :=
      h.additive_eq (fun p hp => hpast p (List.mem_append_left _ hp))
        (hpast (c, .frame i) (by simp))
    rw [additive_frame h.orderly i hafter, hmemory, hbefore]
    split
    next hsame => exact hsame.symm
    next => rfl

theorem host (h : StrokesFollowed k name c past) {s : Step} (hs : s.leavesInput = true) :
    StrokesFollowed k name (c.step s) (past ++ [(c, .host s)]) := by
  have hmemory : (c.step s).memory = c.memory := memory_step c s
  refine ⟨h.orderly.windowStep .standard (s := .host s) hs,
    (congrArg Memory.key hmemory).trans h.key_eq, ?_, fun hpast hafter => ?_⟩
  · have hsilent : tells k [] = false := rfl
    rw [hmemory, List.map_append, List.map_singleton, lastTelling_concat, strokesOf, hsilent]
    exact h.held_iff
  · have hconnected : c.isConnected = true := hpast (c, .host s) (by simp)
    have hattach : attaches (c, .host s) = false := by
      cases s with
      | connect => rw [attaches, hconnected]; rfl
      | _ => rfl
    have hadditive : (c.step s).additive = c.additive :=
      congrArg Mode.additive (mode_step_of_attached hs hattach hafter)
    rw [hadditive, hmemory]
    exact h.additive_eq (fun p hp => hpast p (List.mem_append_left _ hp)) hconnected

theorem windowStep (h : StrokesFollowed k name c past) (hname : NamedKey.ofName? name = some k)
    {s : WindowStep} (hs : s.leavesInput = true) :
    StrokesFollowed k name (c.windowStep d s) (past ++ [(c, s)]) := by
  cases s with
  | frame i => exact h.frame hname i
  | host s => exact h.host hs

/-- The host program alone neither holds the key nor turns the additive mode on. -/
theorem of_host_steps (look : MarkerLook) (points : List (Point Float))
    (settings : SelectionSettings) (layout : HudSettings) (publishes : Bool)
    (hkey : settings.additiveKey = .other name) {before : List Step}
    (hbefore : ∀ s ∈ before, s.leavesInput = true) :
    StrokesFollowed k name
      ((new (Windowed.ofLook look) points settings layout publishes).run before) [] := by
  let first := new (Windowed.ofLook look) points settings layout publishes
  have hup : (first.run before).memory.held = false :=
    congrArg Memory.held (memory_run first before)
  have hrun : first.runWindow .standard (before.map .host) = first.run before := by
    rw [runWindow, List.foldl_map]
    rfl
  have hall : ∀ s ∈ before.map WindowStep.host, s.leavesInput = true := by
    simpa [WindowStep.leavesInput] using hbefore
  have hstart : KeyFollowed .standard (.other name) first [] :=
    ⟨.new look points settings layout publishes, hkey, fun hconnected => by cases hconnected⟩
  have h := runWindow_induction .standard hstart (fun c past s hs hc => hc.windowStep hs) hall
  rw [hrun] at h
  refine ⟨h.orderly, h.key_eq, by simp [first, hup, lastTelling], fun _ hconnected => ?_⟩
  have hoff : (first.run before).additive = false := by
    rw [← Bool.not_eq_true, h.additive_iff hconnected, hup]
    exact fun hheld => Bool.noConfusion hheld.1
  rw [hoff, hup]

end StrokesFollowed

/-- A controller that is connected before the first frame and stays so follows a key that is no
modifier: the additive mode is on exactly if the last frame that told of the key brought a press.
That is the case if the last stroke of the key is a press, and otherwise only if the key went down
and its last stroke in the same frame is a release. -/
theorem runWindow_additive_follows_strokes (d : Decoders) (look : MarkerLook)
    (points : List (Point Float)) (settings : SelectionSettings) (layout : HudSettings)
    (publishes : Bool) {name : String} {k : NamedKey} (hkey : settings.additiveKey = .other name)
    (hname : NamedKey.ofName? name = some k) (before : List Step)
    (hbefore : ∀ s ∈ before, s.leavesInput = true) (steps : List WindowStep)
    (hsteps : ∀ s ∈ steps, s.leavesInput = true) :
    let first := new (Windowed.ofLook look) points settings layout publishes
    let start := first.run before
    let after := start.runWindow d steps
    let frames := steps.map strokesOf
    (∀ p ∈ start.windowHistory d steps, p.1.isConnected = true) → after.isConnected = true →
      (after.additive = true ↔
        ∃ strokes, lastTelling k frames = some strokes ∧ ⟨k, true⟩ ∈ strokes) ∧
      (after.additive = true ↔ lastStroke k frames.flatten = some true ∨
        ∃ strokes, lastTelling k frames = some strokes ∧ ⟨k, true⟩ ∈ strokes ∧
          lastStroke k strokes = some false) := by
  intro first start after frames hpast hafter
  have h : StrokesFollowed k name after (start.windowHistory d steps) :=
    runWindow_induction d
      (StrokesFollowed.of_host_steps look points settings layout publishes hkey hbefore)
      (fun c past s hs hc => hc.windowStep hname hs) hsteps
  have hframes : (start.windowHistory d steps).map (fun p => strokesOf p.2) = frames := by
    change _ = steps.map strokesOf
    rw [← windowHistory_map_snd d start steps, List.map_map, windowHistory_map_snd]
    rfl
  have hpress : after.additive = true ↔
      ∃ strokes, lastTelling k frames = some strokes ∧ ⟨k, true⟩ ∈ strokes := by
    rw [h.additive_eq hpast hafter, h.held_iff, hframes]
  refine ⟨hpress, ?_⟩
  rw [hpress, lastStroke_flatten, Option.bind_eq_some_iff, ← exists_or]
  refine exists_congr fun strokes => ?_
  rw [← and_or_left]
  exact and_congr_right fun hlast => press_mem_iff (tells_of_lastTelling hlast)

/-- The key A goes down in one frame, is not touched in the next, and goes up and down again in the
last: the additive mode is on. -/
theorem additive_after_typing :
    let quiet : FrameInput :=
      { available := 100.0, frame := ⟨0.0, 20.0, 100.0, 100.0⟩, view := .unit
        pointer := none, place := none, pressed := false, down := false
        released := false, touches := [], modifiers := {}, strokes := [], closing := false }
    let press : FrameInput := { quiet with strokes := [⟨⟨"A"⟩, true⟩] }
    let typed : FrameInput := { quiet with strokes := [⟨⟨"A"⟩, false⟩, ⟨⟨"A"⟩, true⟩] }
    let settings : SelectionSettings := { additiveKey := .other "A" }
    let start := (new (Windowed.ofLook {}) [⟨0.0, 0.0⟩] settings {} true).run [.connect]
    let steps : List WindowStep := [.frame press, .frame quiet, .host .draw, .frame typed]
    let frames := steps.map strokesOf
    let after := start.runWindow .standard steps
    settings.additiveKey = .other "A" ∧ NamedKey.ofName? "A" = some ⟨"A"⟩ ∧
      (∀ s ∈ [Step.connect], s.leavesInput = true) ∧ (∀ s ∈ steps, s.leavesInput = true) ∧
      (∀ p ∈ start.windowHistory .standard steps, p.1.isConnected = true) ∧
      after.isConnected = true ∧ after.additive = true ∧
      ∃ strokes, lastTelling ⟨"A"⟩ frames = some strokes ∧ ⟨⟨"A"⟩, true⟩ ∈ strokes := by
  intro quiet press typed settings start steps frames after
  have hname : NamedKey.ofName? "A" = some ⟨"A"⟩ := by decide +kernel
  have hbefore : ∀ s ∈ [Step.connect], s.leavesInput = true := by decide
  have hsteps : ∀ s ∈ steps, s.leavesInput = true := by
    simp [steps, WindowStep.leavesInput, Step.leavesInput, Step.editsMode]
  have hpast : ∀ p ∈ start.windowHistory .standard steps, p.1.isConnected = true := by
    decide +kernel
  have hconnected : after.isConnected = true := by decide +kernel
  have hadditive : after.additive = true := by decide +kernel
  have hfollows := runWindow_additive_follows_strokes .standard {} [⟨0.0, 0.0⟩] settings {} true
    rfl hname [.connect] hbefore steps hsteps hpast hconnected
  exact ⟨rfl, hname, hbefore, hsteps, hpast, hconnected, hadditive, hfollows.1.mp hadditive⟩

/-- The key A goes down and up within a frame: its last stroke is a release, yet the additive mode
is on. -/
theorem additive_on_after_release :
    let tap : FrameInput :=
      { available := 100.0, frame := ⟨0.0, 20.0, 100.0, 100.0⟩, view := .unit
        pointer := none, place := none, pressed := false, down := false, released := false
        touches := [], modifiers := {}, strokes := [⟨⟨"A"⟩, true⟩, ⟨⟨"A"⟩, false⟩]
        closing := false }
    let settings : SelectionSettings := { additiveKey := .other "A" }
    let start := (new (Windowed.ofLook {}) [⟨0.0, 0.0⟩] settings {} true).run [.connect]
    let after := start.runWindow .standard [.frame tap]
    start.isConnected = true ∧ after.isConnected = true ∧
      NamedKey.ofName? "A" = some ⟨"A"⟩ ∧ lastStroke ⟨"A"⟩ tap.strokes = some false ∧
      after.additive = true := by
  decide +kernel

end Controller

end ScatterPick
