import ScatterPick.Frame.Step
import ScatterPick.Proofs.Controller.Mode

/-!
# What frames remember

From frame to frame the canvas remembers whether the pointer was over the plot and whether the
additive key was held. Events and the host program leave this memory alone; a frame replaces it by
what it is told, and hands on an event for each difference.
-/

namespace ScatterPick.Controller

/-- What is remembered of the last frame, and the key that frames look for. -/
structure Memory where
  /-- Whether the pointer was over the plot or the strip. -/
  inside : Bool
  /-- Whether the additive key was held. -/
  held : Bool
  key : Key

/-- The memory of a controller in a window. -/
def memory (c : Controller Windowed) : Memory :=
  ⟨c.canvas.pointerInside, c.canvas.keyHeld, c.settings.additiveKey⟩

/-- Listeners and styles of the canvas have no part in its memory. -/
theorem memory_foldl_unsubscribe (c : Controller Windowed) (gone : List Listener) :
    memory { c with
      canvas := gone.foldl (fun canvas l => Canvas.unsubscribe canvas l.id) c.canvas } =
        c.memory := by
  induction gone generalizing c with
  | nil => rfl
  | cons l rest ih => exact ih { c with canvas := Canvas.unsubscribe c.canvas l.id }

theorem memory_attachAll (c : Controller Windowed) : c.attachAll.memory = c.memory := by
  unfold attachAll
  induction interactionKinds generalizing c with
  | nil => rfl
  | cons kind rest ih => exact ih (c.attach kind)

theorem memory_connect (c : Controller Windowed) : c.connect.memory = c.memory := by
  by_cases h : c.attached = []
  · rw [connect_eq h, ← memory_attachAll c, attachAll_eq]
    rfl
  · rw [connect_of_connected h]

theorem memory_disconnect (c : Controller Windowed) : c.disconnect.memory = c.memory := by
  by_cases h : c.attached = []
  · rw [disconnect_of_disconnected h]
  · rw [disconnect_eq h]
    exact memory_foldl_unsubscribe c c.attached

theorem memory_select (c : Controller Windowed) (indices : List Nat) :
    (c.select indices).memory = c.memory := by
  rw [select_eq]
  rfl

/-- No event changes the memory. -/
theorem memory_followsSignals : FollowsSignals memory fun m _ => m where
  disconnect := memory_disconnect
  select := memory_select
  pointerEntered c := by rw [pointerEntered_eq]; rfl
  pointerExited c := by rw [pointerExited_eq]; rfl
  keyPressed c key hk := by rw [keyPressed_eq hk]; rfl
  keyReleased c key hk := by rw [keyReleased_eq hk]; rfl
  gestureFinished c vertices := by
    by_cases h : c.merged vertices = c.selection
    · rw [gestureFinished_unchanged h]; rfl
    · rw [gestureFinished_changed h]; rfl
  afterCallback _ _ _ := rfl
  trace _ _ := rfl

theorem memory_handle (c : Controller Windowed) (event : UserEvent) :
    (c.handle event).memory = c.memory := by
  have h := memory_followsSignals.handle c event
  rw [step] at h
  rw [h]
  cases c.signal (.handle event) with
  | none => rfl
  | some g => rfl

theorem memory_foldl_handle (c : Controller Windowed) (events : List UserEvent) :
    (events.foldl handle c).memory = c.memory := by
  induction events generalizing c with
  | nil => rfl
  | cons event rest ih => rw [List.foldl_cons, ih, memory_handle]

/-- Nothing that the host program does changes the memory. -/
theorem memory_step (c : Controller Windowed) (s : Step) : (c.step s).memory = c.memory := by
  cases s with
  | connect => exact memory_connect c
  | disconnect => exact memory_disconnect c
  | clear => exact memory_select c []
  | select indices => exact memory_select c indices
  | handle event => exact memory_handle c event
  | dispatch event =>
    rw [step, memory_followsSignals.dispatch]
    cases c.signalBy event with
    | none => rfl
    | some g => rfl
  | clickHud index =>
    simp only [step, Hud.click]
    cases c.hud.buttons[index]? with
    | none => rfl
    | some b => rfl
  | _ => rfl

theorem memory_run (c : Controller Windowed) (steps : List Step) :
    (c.run steps).memory = c.memory :=
  run_invariant (P := fun c' => c'.memory = c.memory) rfl
    (fun c' s hc => (memory_step c' s).trans hc) steps

/-! ## A frame -/

variable (d : Decoders) (i : FrameInput) (c : Controller Windowed)

/-- The memory that a frame leaves. -/
def remembered : Memory :=
  ⟨i.inside c.hud.layout,
    (KeyTracking.held? i.modifiers i.strokes c.settings.additiveKey c.canvas.keyHeld).getD
      c.canvas.keyHeld,
    c.settings.additiveKey⟩

theorem showButton_keeps (index : Nat) :
    (c.showButton d i index).mode = c.mode ∧ (c.showButton d i index).memory = c.memory := by
  unfold showButton
  cases c.hud.buttons[index]? with
  | none => exact ⟨rfl, rfl⟩
  | some b =>
    dsimp only
    split
    · exact ⟨rfl, rfl⟩
    · exact ⟨rfl, rfl⟩

/-- Showing buttons concerns neither mode nor memory. -/
theorem showButtons_keeps :
    (c.showButtons d i).mode = c.mode ∧ (c.showButtons d i).memory = c.memory := by
  rw [showButtons]
  generalize c.shownButtons = indices
  induction indices generalizing c with
  | nil => exact ⟨rfl, rfl⟩
  | cons index rest ih =>
    obtain ⟨hmode, hmemory⟩ := showButton_keeps d i c index
    rw [List.foldl_cons, (ih _).1, (ih _).2]
    exact ⟨hmode, hmemory⟩

/-- The events of a pointer that came or went between two frames. -/
def hoverEvents (before now : Bool) : List UserEvent :=
  if now = before then [] else [if now then .pointerEnter else .pointerExit]

/-- The events of the additive key that went down or up between two frames. -/
def keyEvents (key : Key) (before now : Bool) : List UserEvent :=
  if now = before then [] else [KeyTracking.event key now]

theorem observePointer_eq (w : Windowed) (inside : Bool) :
    w.observePointer inside =
      ({ w with pointerInside := inside }, hoverEvents w.pointerInside inside) := by
  rw [Windowed.observePointer, hoverEvents]
  split
  · rename_i h
    subst h
    rfl
  · rfl

theorem observeKey_eq (w : Windowed) (key : Key) :
    w.observeKey i key =
      ({ w with
          keyHeld := (KeyTracking.held? i.modifiers i.strokes key w.keyHeld).getD w.keyHeld },
        keyEvents key w.keyHeld
          ((KeyTracking.held? i.modifiers i.strokes key w.keyHeld).getD w.keyHeld)) := by
  rw [Windowed.observeKey, KeyTracking.transition, keyEvents]
  cases KeyTracking.held? i.modifiers i.strokes key w.keyHeld with
  | none => simp
  | some held =>
    by_cases h : held = w.keyHeld
    · simp [Option.filter, h]
    · simp [Option.filter, h]

/-- What the canvas notes in a frame: the pointer, the additive key, and at the end a gesture and
closing. -/
theorem observe_eq (layout : HudSettings) (key : Key) (overButton : Bool) (w : Windowed) :
    let held := (KeyTracking.held? i.modifiers i.strokes key w.keyHeld).getD w.keyHeld
    let recorded := Recorder.step (w.recorderInput i overButton) w.trail
    w.observe i layout key overButton =
      ({ w with
          view := i.view
          pointerInside := i.inside layout
          keyHeld := held
          trail := recorded.1 },
        hoverEvents w.pointerInside (i.inside layout) ++
          (keyEvents key w.keyHeld held ++
            ((recorded.2.map .gesture).toList ++ if i.closing then [.close] else []))) := by
  simp only [Windowed.observe, observePointer_eq, observeKey_eq, Windowed.observeTrail,
    List.append_assoc]
  rfl

/-- At the end of what the canvas notes there is nothing but a gesture and closing. -/
theorem observe_spec (layout : HudSettings) (key : Key) (overButton : Bool) (w : Windowed) :
    ∃ trail ends, (∀ e ∈ ends, (∃ vertices, e = .gesture vertices) ∨ e = .close) ∧
      w.observe i layout key overButton =
        ({ w with
            view := i.view
            pointerInside := i.inside layout
            keyHeld := (KeyTracking.held? i.modifiers i.strokes key w.keyHeld).getD w.keyHeld
            trail },
          hoverEvents w.pointerInside (i.inside layout) ++
            (keyEvents key w.keyHeld
              ((KeyTracking.held? i.modifiers i.strokes key w.keyHeld).getD w.keyHeld) ++ ends)) := by
  refine ⟨_, _, fun e he => ?_, observe_eq i layout key overButton w⟩
  rcases List.mem_append.mp he with hgesture | hclose
  · obtain ⟨vertices, -, rfl⟩ := Option.map_eq_some_iff.mp (Option.mem_toList.mp hgesture)
    exact Or.inl ⟨vertices, rfl⟩
  · split at hclose
    · exact Or.inr (List.mem_singleton.mp hclose)
    · cases hclose

/-- What a frame notes and hands on, in order: clicks on buttons, the pointer, the additive key, and
at the end a gesture and closing. -/
theorem observeFrame_spec :
    ∃ ends, (∀ e ∈ ends, (∃ vertices, e = .gesture vertices) ∨ e = .close) ∧
      c.frameEvents d i = c.clickEvents i ++ (hoverEvents c.memory.inside (c.remembered i).inside ++
        (keyEvents c.memory.key c.memory.held (c.remembered i).held ++ ends)) ∧
      (c.observeFrame d i).1.mode = c.mode ∧ (c.observeFrame d i).1.memory = c.remembered i := by
  obtain ⟨hmode, hmemory⟩ := showButtons_keeps d i c
  have hinside : (c.showButtons d i).canvas.pointerInside = c.canvas.pointerInside :=
    congrArg Memory.inside hmemory
  have hheld : (c.showButtons d i).canvas.keyHeld = c.canvas.keyHeld := congrArg Memory.held hmemory
  have hkey : (c.showButtons d i).settings.additiveKey = c.settings.additiveKey :=
    congrArg Memory.key hmemory
  obtain ⟨trail, ends, hends, hobserve⟩ := observe_spec i c.hud.layout c.settings.additiveKey
    (c.overButton i) (c.showButtons d i).canvas
  rw [hinside, hheld] at hobserve
  refine ⟨ends, hends, ?_, hmode, ?_⟩
  · rw [frameEvents, observeFrame, hobserve]
    rfl
  · rw [observeFrame, hobserve, remembered, memory, hkey]

theorem clickEvents_spec {e : UserEvent} (he : e ∈ c.clickEvents i) :
    ∃ index, e = .buttonClick index := by
  obtain ⟨index, -, rfl⟩ := List.mem_map.mp he
  exact ⟨index, rfl⟩

end ScatterPick.Controller
