import ScatterPick.Canvas.Lawful
import ScatterPick.Proofs.Controller.Mode
import ScatterPick.Proofs.Event.Registry

/-!
# Wiring

Two records say who listens: the registry of the canvas and the list of the controller. They agree
in every state that a run reaches as long as nobody else attaches or detaches listeners, so that
asking one of them is asking the other.
-/

namespace ScatterPick

/-- Whether the host program attaches or detaches listeners in a step. -/
def Step.rewires : Step → Bool
  | .listen _ | .unlisten _ => true
  | _ => false

/-- What a controller and its canvas know of the listeners. -/
structure Wiring where
  /-- The record of the canvas. -/
  registry : Listeners
  /-- The record of the controller. -/
  attached : List Listener
  /-- The listener for closing. -/
  closing : Nat

namespace Wiring

/-- One more listener, in both records. -/
def attach (w : Wiring) (kind : EventKind) : Wiring :=
  { w with
    registry := w.registry.add kind
    attached := w.attached ++ [⟨w.registry.next, kind⟩] }

/-- The wiring after a signal. Only attaching and detaching concern it. -/
def after (w : Wiring) : Signal → Wiring
  | .attach => if w.attached = [] then Controller.interactionKinds.foldl attach w else w
  | .detach => { w with registry := w.registry.removeAll w.attached, attached := [] }
  | .key _ | .pointer _ => w

/-- The registry holds the listener for closing and those that the controller knows of, and
nothing else. -/
structure Sound (w : Wiring) : Prop where
  live : w.registry.live = ⟨w.closing, .close⟩ :: w.attached
  numbered : w.registry.Numbered

/-- The wiring `w'` comes after `w`: what agreed still agrees, listeners that are new got new ids,
and closing is listened for all the time. -/
structure Continues (w w' : Wiring) : Prop where
  sound : w.Sound → w'.Sound
  renews : w.registry.Renews w'.registry
  closing : w'.closing = w.closing

namespace Continues

theorem refl (w : Wiring) : w.Continues w := ⟨id, .refl _, rfl⟩

theorem trans {w w' w'' : Wiring} (h : w.Continues w') (h' : w'.Continues w'') :
    w.Continues w'' :=
  ⟨h'.sound ∘ h.sound, h.renews.trans h'.renews, h'.closing.trans h.closing⟩

theorem attach (w : Wiring) (kind : EventKind) : w.Continues (w.attach kind) where
  sound h := by
    refine ⟨?_, h.numbered.add kind⟩
    rw [Wiring.attach, Listeners.add, h.live]
    rfl
  renews := .add w.registry kind
  closing := rfl

theorem attachAll (w : Wiring) (kinds : List EventKind) :
    w.Continues (kinds.foldl Wiring.attach w) := by
  induction kinds generalizing w with
  | nil => exact refl w
  | cons kind rest ih => exact (attach w kind).trans (ih (w.attach kind))

/-- Signals keep the two records in agreement. -/
theorem after (w : Wiring) (g : Signal) : w.Continues (w.after g) := by
  cases g with
  | attach =>
    rw [Wiring.after]
    split
    · exact attachAll w _
    · exact refl w
  | detach =>
    refine ⟨fun h => ?_, .removeAll w.registry w.attached, rfl⟩
    exact ⟨h.numbered.live_removeAll_tail h.live, h.numbered.removeAll w.attached⟩
  | key down => exact refl w
  | pointer inside => exact refl w

end Continues

end Wiring

/-- Detaching listeners one after the other, as the registry sees it. -/
theorem Canvas.listeners_foldl_unsubscribe {C : Type} [Canvas C] [LawfulCanvas C]
    (gone : List Listener) (c : C) :
    Canvas.listeners (gone.foldl (fun c l => Canvas.unsubscribe c l.id) c) =
      (Canvas.listeners c).removeAll gone := by
  induction gone generalizing c with
  | nil => rfl
  | cons l rest ih =>
    rw [List.foldl_cons, ih, Canvas.listeners_unsubscribe]
    rfl

namespace Controller

variable {C : Type} [Canvas C]

/-- The wiring of a controller. -/
def wiring (c : Controller C) : Wiring :=
  ⟨Canvas.listeners c.canvas, c.attached, c.closeListener⟩

variable [LawfulCanvas C]

theorem wiring_attachAll (c : Controller C) :
    c.attachAll.wiring = interactionKinds.foldl Wiring.attach c.wiring := by
  have hattach (c : Controller C) (kind : EventKind) :
      c.wiring.attach kind = (c.attach kind).wiring := by
    simp [Wiring.attach, attach, wiring]
  exact (List.foldl_hom wiring hattach).symm

theorem wiring_connect (c : Controller C) : c.connect.wiring = c.wiring.after .attach := by
  by_cases h : c.attached = []
  · rw [connect_eq h, Wiring.after, if_pos (show c.wiring.attached = [] from h),
      ← wiring_attachAll, attachAll_eq]
    rfl
  · rw [connect_of_connected h, Wiring.after, if_neg (show c.wiring.attached ≠ [] from h)]

theorem wiring_disconnect (c : Controller C) : c.disconnect.wiring = c.wiring.after .detach := by
  by_cases h : c.attached = []
  · rw [disconnect_of_disconnected h]
    simp [wiring, Wiring.after, h, Listeners.removeAll]
  · rw [disconnect_eq h]
    simp only [wiring, Wiring.after, Canvas.listeners_foldl_unsubscribe]

theorem wiring_showSelection (c : Controller C) (selection : Selection) :
    (c.showSelection selection).wiring = c.wiring := by
  simp [showSelection_eq, wiring]

/-- Events change the wiring by their signals alone. -/
theorem wiring_followsSignals : FollowsSignals (C := C) wiring Wiring.after where
  disconnect := wiring_disconnect
  select c indices := by
    rw [select_eq]
    exact wiring_showSelection c _
  pointerEntered c := by simp [pointerEntered_eq, wiring, Wiring.after]
  pointerExited c := by simp [pointerExited_eq, wiring, Wiring.after]
  keyPressed c key hk := by simp [keyPressed_eq hk, wiring, Wiring.after]
  keyReleased c key hk := by simp [keyReleased_eq hk, wiring, Wiring.after]
  gestureFinished c vertices := by
    by_cases h : c.merged vertices = c.selection
    · simp [gestureFinished_unchanged h, wiring]
    · rw [gestureFinished_changed h]
      exact wiring_showSelection c _
  afterCallback c index label := by simp [afterCallback, wiring]
  trace _ _ := rfl

/-- A step changes the wiring by its signal alone. -/
theorem step_wiring (c : Controller C) {s : Step} (hs : s.rewires = false) :
    (c.step s).wiring = (c.signal s).elim c.wiring c.wiring.after := by
  cases s with
  | connect => exact wiring_connect c
  | disconnect => exact wiring_disconnect c
  | clear => exact wiring_followsSignals.select c []
  | select indices => exact wiring_followsSignals.select c indices
  | dispatch event => exact wiring_followsSignals.dispatch c event
  | handle event => exact wiring_followsSignals.handle c event
  | draw => simp [step, draw, wiring, signal, arriving]
  | present => simp [step, present, wiring, signal, arriving]
  | setView view => simp [step, wiring, signal, arriving]
  | setStyle style => simp [step, wiring, signal, arriving]
  | clickHud index =>
    simp only [step, Hud.click]
    cases c.hud.buttons[index]? with
    | none => rfl
    | some b => rfl
  | listen kind => cases hs
  | unlisten id => cases hs
  | _ => rfl

theorem step_continues (c : Controller C) {s : Step} (hs : s.rewires = false) :
    c.wiring.Continues (c.step s).wiring := by
  rw [step_wiring c hs]
  cases c.signal s with
  | none => exact .refl _
  | some g => exact .after _ g

/-! ## Asking either record -/

omit [LawfulCanvas C] in
/-- The controller takes an event exactly if the canvas has a listener for it. -/
theorem accepts_eq_isListening {c : Controller C} (h : c.wiring.Sound) (event : UserEvent) :
    c.accepts event = Canvas.isListening c.canvas event.kind := by
  have hlive : (Canvas.listeners c.canvas).live = ⟨c.closeListener, .close⟩ :: c.attached := h.live
  rw [Canvas.isListening, Listeners.isListening, hlive, List.any_cons, accepts]
  by_cases hclose : event = .close
  · subst hclose
    have hcovered : EventKind.close.intersects UserEvent.close.kind = true := by decide
    have hinbound : EventKind.interaction.contains UserEvent.close.kind = false := by decide
    rw [hinbound, hcovered]
    rfl
  · have happart : EventKind.close.intersects event.kind = false := by
      cases event with
      | close => exact absurd rfl hclose
      | _ => simp only [UserEvent.kind]; decide
    rw [if_pos (interaction_contains_kind hclose), happart, Bool.false_or]

/-! ## Runs -/

/-- What a run leaves: records that agree, the same listener for closing all the time, and a supply
of ids beyond those of all listeners that were attached in an earlier state. -/
structure Wired (closing : Nat) (c : Controller C) (past : List (Controller C × Step)) : Prop where
  sound : c.wiring.Sound
  closing : c.closeListener = closing
  supply : ∀ p ∈ past, ∀ l ∈ (Canvas.listeners p.1.canvas).live,
    l.id < (Canvas.listeners c.canvas).next

namespace Wired

variable {closing : Nat} {c : Controller C} {past : List (Controller C × Step)}

omit [LawfulCanvas C] in
/-- The supply also lies beyond the ids of the present state. -/
theorem supply_concat (h : Wired closing c past) (s : Step) :
    ∀ p ∈ past ++ [(c, s)], ∀ l ∈ (Canvas.listeners p.1.canvas).live,
      l.id < (Canvas.listeners c.canvas).next := by
  intro p hp l hl
  rcases List.mem_append.mp hp with hpast | hlast
  · exact h.supply p hpast l hl
  · obtain rfl := List.mem_singleton.mp hlast
    exact h.sound.numbered.below l hl

theorem step (h : Wired closing c past) {s : Step} (hs : s.rewires = false) :
    Wired closing (c.step s) (past ++ [(c, s)]) := by
  have hcontinues : c.wiring.Continues (c.step s).wiring := step_continues c hs
  refine ⟨hcontinues.sound h.sound, hcontinues.closing.trans h.closing, fun p hp l hl => ?_⟩
  have hbefore : l.id < (Canvas.listeners c.canvas).next := h.supply_concat s p hp l hl
  exact Nat.lt_of_lt_of_le hbefore hcontinues.renews.next_le

end Wired

theorem run_wired (canvas : C) (hnone : (Canvas.listeners canvas).live = [])
    (points : List (Point Float)) (settings : SelectionSettings) (layout : HudSettings)
    (publishes : Bool) {steps : List Step} (hsteps : ∀ s ∈ steps, s.rewires = false) :
    let start := new canvas points settings layout publishes
    Wired start.closeListener (start.run steps) (start.history steps) := by
  intro start
  have hregistry : Canvas.listeners start.canvas = (Canvas.listeners canvas).add .close :=
    Canvas.listeners_subscribe canvas .close
  have hnumbered : (Canvas.listeners canvas).Numbered := by
    constructor <;> simp [hnone]
  refine run_induction (P := Wired start.closeListener) ?_ (fun c past s hs hc => hc.step hs) hsteps
  refine ⟨⟨?_, ?_⟩, rfl, fun p hp => by cases hp⟩
  · change (Canvas.listeners start.canvas).live = _
    rw [hregistry, Listeners.add, hnone]
    rfl
  · change (Canvas.listeners start.canvas).Numbered
    rw [hregistry]
    exact hnumbered.add .close

/-- On a canvas whose listeners are left to the controller, the registry holds the listener for
closing and, while the controller is connected, one for each interaction. Their ids are different,
and each id that is attached in a step exceeds all that were attached before. An event is taken
exactly if the canvas listens for it, and is without any effect otherwise. -/
theorem run_listeners_accounted (canvas : C) (hnone : (Canvas.listeners canvas).live = [])
    (points : List (Point Float)) (settings : SelectionSettings) (layout : HudSettings)
    (publishes : Bool) {steps : List Step} (hsteps : ∀ s ∈ steps, s.rewires = false) :
    let start := new canvas points settings layout publishes
    let c := start.run steps
    let registry := Canvas.listeners c.canvas
    registry.live = ⟨start.closeListener, .close⟩ :: c.attached ∧
      c.attached.map (·.kind) = (if c.isConnected then interactionKinds else []) ∧
      registry.size = (if c.isConnected then 7 else 1) ∧
      (registry.live.map (·.id)).Nodup ∧
      (∀ s, s.rewires = false →
        ∀ l ∈ (Canvas.listeners (c.step s).canvas).live, l ∉ registry.live →
          ∀ p ∈ start.history (steps ++ [s]), ∀ old ∈ (Canvas.listeners p.1.canvas).live,
            old.id < l.id) ∧
      ∀ event, c.accepts event = Canvas.isListening c.canvas event.kind ∧
        c.handle event =
          if Canvas.isListening c.canvas event.kind then c.dispatch event else c := by
  intro start c registry
  have h : Wired start.closeListener c (start.history steps) :=
    run_wired canvas hnone points settings layout publishes hsteps
  have hlive : registry.live = ⟨start.closeListener, .close⟩ :: c.attached := by
    rw [← h.closing]
    exact h.sound.live
  have hkinds : c.attached.map (·.kind) = if c.isConnected then interactionKinds else [] := by
    have hall : c.mode.AllOrNone := run_allOrNone canvas points settings layout publishes steps
    split
    next hon => exact hall.resolve_left (isConnected_iff_listening.mp hon)
    next hoff => exact isConnected_eq_false_iff.mp (Bool.eq_false_iff.mpr hoff)
  refine ⟨hlive, hkinds, ?_, h.sound.numbered.nodup, fun s hs l hl hnew p hp old hold => ?_,
    fun event => ?_⟩
  · have hcount : c.attached.length = (c.attached.map (·.kind)).length := by simp
    rw [Listeners.size, hlive, List.length_cons, hcount, hkinds]
    split
    · rfl
    · rfl
  · rw [history_concat] at hp
    have hsupply : old.id < registry.next := h.supply_concat s p hp old hold
    exact Nat.lt_of_lt_of_le hsupply ((step_continues c hs).renews.fresh l hl hnew)
  · have haccepts : c.accepts event = Canvas.isListening c.canvas event.kind :=
      accepts_eq_isListening h.sound event
    refine ⟨haccepts, ?_⟩
    rw [handle, haccepts]

/-- After a click on the button that disconnects and after closing only the listener for closing is
left, and connecting for the third time takes six ids that no listener had before. -/
theorem listeners_of_third_connection :
    let start := new (Headless.ofView .unit) [⟨0.0, 0.0⟩] {} {} true
    let steps : List Step := [.registerDisconnect, .connect, .connect, .handle (.buttonClick 0),
      .handle .pointerEnter, .connect, .handle .close]
    let c := start.run steps
    (∀ s ∈ steps, s.rewires = false) ∧
      (Canvas.listeners c.canvas).live = [⟨0, .close⟩] ∧ c.handle .pointerEnter = c ∧
      (c.step .connect).attached.map (·.id) = [13, 14, 15, 16, 17, 18] ∧
      ∀ l ∈ (c.step .connect).attached, ∀ p ∈ start.history (steps ++ [.connect]),
        ∀ old ∈ (Canvas.listeners p.1.canvas).live, old.id < l.id := by
  intro start steps c
  have hsteps : ∀ s ∈ steps, s.rewires = false := by simp [steps, Step.rewires]
  obtain ⟨hlive, hkinds, -, -, hfresh, hevents⟩ := run_listeners_accounted
    (Headless.ofView .unit) rfl [⟨0.0, 0.0⟩] {} {} true hsteps
  have hoff : c.isConnected = false := by decide +kernel
  have hnone : c.attached = [] := by
    rw [hoff] at hkinds
    exact List.map_eq_nil_iff.mp hkinds
  rw [hnone] at hlive
  have hdeaf : Canvas.isListening c.canvas UserEvent.pointerEnter.kind = false := by decide +kernel
  have hignored := (hevents .pointerEnter).2
  rw [hdeaf] at hignored
  have hnew : ∀ l ∈ (c.step .connect).attached,
      l ∈ (Canvas.listeners (c.step .connect).canvas).live ∧
        l ∉ (Canvas.listeners c.canvas).live := by decide +kernel
  have hids : (c.step .connect).attached.map (·.id) = [13, 14, 15, 16, 17, 18] := by
    decide +kernel
  simp only [c, start] at hnew hids ⊢
  refine ⟨hsteps, hlive, hignored, hids, fun l hl => ?_⟩
  exact hfresh .connect rfl l (hnew l hl).1 (hnew l hl).2

end Controller

end ScatterPick
