import Mathlib.Data.List.Basic
import ScatterPick.Canvas.Headless
import ScatterPick.Proofs.Controller.Mode

/-!
# Clicks on buttons

A click has a fixed order of effects. The callback runs and sees the selection as it was; its button
comes to rest, a repaint is asked for and one notice goes out; only then are the requests of this
very click honoured, first the clearing and then the disconnecting.
-/

namespace ScatterPick

/-- A button that comes to rest leaves the other buttons as they are. -/
theorem Hud.buttons_setHover {h : Hud} {index : Nat} {b : Button}
    (hb : h.buttons[index]? = some b) (hovered : Bool) :
    (h.setHover index hovered).buttons = h.buttons.set index { b with hovered } := by
  rw [setHover, List.modify_eq_set_getElem?, hb]
  rfl

namespace Controller

variable {C : Type} [Canvas C]

/-- `c'` comes from `c` by running the callback of the button `b` and telling of it, and by nothing
else. -/
structure Pushes (c : Controller C) (index : Nat) (b : Button) (c' : Controller C) : Prop where
  /-- The canvas is asked for one repaint, and the button is at rest. -/
  state : c' = { c with
    canvas := Canvas.requestRedraw c.canvas
    hud := { c.hud with buttons := c.hud.buttons.set index { b with hovered := false } }
    trace := c'.trace
    bus := c'.bus }
  /-- The callback runs before its notice goes out. -/
  trace : c'.trace = c.trace ++
    [.buttonCallback index b.label c.selection.indices, .logged (.buttonClicked b.label)] ++
    c.sent { kinds := .buttonClicked, button := some b.label }
  bus : c'.bus = c.busAfter { kinds := .buttonClicked, button := some b.label }

/-- `c'` comes from `c` by a click on the button `b`. -/
structure Clicked (c : Controller C) (index : Nat) (b : Button) (c' : Controller C) : Prop where
  /-- What the callback requested is done by the operations of that name, after the callback. -/
  honoured : ∃ pushed cleared, Pushes c index b pushed ∧
    cleared = (if .clearSelection ∈ b.requests then pushed.clear else pushed) ∧
    c' = if .disconnect ∈ b.requests ∧ c.isConnected = true then cleared.disconnect else cleared
  /-- All that the click lets out, in order. -/
  trace : c'.trace = c.trace ++
    [.buttonCallback index b.label c.selection.indices, .logged (.buttonClicked b.label)] ++
    c.sent { kinds := .buttonClicked, button := some b.label } ++
    (if .clearSelection ∈ b.requests then
      c.sent { kinds := .selectionSet, selection := some [] } else []) ++
    if .disconnect ∈ b.requests ∧ c.isConnected = true then
      .logged .disconnected :: c.sent { kinds := .disconnected } else []
  buttons : c'.hud.buttons = c.hud.buttons.set index { b with hovered := false }
  selection : c'.selection = if .clearSelection ∈ b.requests then .empty else c.selection
  attached : c'.attached = if .disconnect ∈ b.requests then [] else c.attached

variable {c : Controller C} {index : Nat} {b : Button}

theorem pushes_afterCallback (hb : c.hud.buttons[index]? = some b) :
    Pushes c index b (c.afterCallback index b.label) := by
  refine ⟨?_, ?_, rfl⟩
  · rw [← Hud.buttons_setHover hb]
    rfl
  · rw [afterCallback, List.append_assoc c.trace]
    rfl

/-! ## Requests -/

/-- What is different after clearing, if that was asked for. -/
theorem clearedIf_eq (c : Controller C) (asked : Bool) :
    c.clearedIf asked = { c with
      canvas := (c.clearedIf asked).canvas
      selection := if asked then .empty else c.selection
      styles := (c.clearedIf asked).styles
      trace := c.trace ++
        if asked then c.sent { kinds := .selectionSet, selection := some [] } else []
      bus := (c.clearedIf asked).bus } := by
  cases asked with
  | false =>
    simp only [clearedIf, Bool.false_eq_true, if_false, List.append_nil]
  | true =>
    simp only [clearedIf, if_true, clear_eq]
    rfl

/-- What is different after disconnecting, whether there was something to detach or not. -/
theorem disconnect_changes (c : Controller C) :
    c.disconnect = { c with
      canvas := c.disconnect.canvas
      attached := []
      additive := c.disconnect.additive
      hud := { c.hud with title := c.disconnect.hud.title, visible := c.disconnect.hud.visible }
      trace := c.trace ++
        if c.isConnected then .logged .disconnected :: c.sent { kinds := .disconnected } else []
      bus := c.disconnect.bus } := by
  by_cases h : c.attached = []
  · have hoff : c.isConnected = false := by simp [isConnected, h]
    simp only [disconnect_of_disconnected h, hoff, Bool.false_eq_true, if_false, List.append_nil]
    rw [← h]
  · simp only [disconnect_eq h, isConnected_iff.mpr h, if_true, List.append_assoc]
    rfl

/-- What is different after honouring requests. -/
theorem honour_changes (c : Controller C) (r : Requests) :
    c.honour r = { c with
      canvas := (c.honour r).canvas
      selection := if r.clearSelection then .empty else c.selection
      styles := (c.honour r).styles
      attached := if r.disconnect then [] else c.attached
      additive := (c.honour r).additive
      hud := { c.hud with title := (c.honour r).hud.title, visible := (c.honour r).hud.visible }
      trace := c.trace ++ (if r.clearSelection then
          c.sent { kinds := .selectionSet, selection := some [] } else []) ++
        if r.disconnect && c.isConnected then
          .logged .disconnected :: c.sent { kinds := .disconnected } else []
      bus := (c.honour r).bus } := by
  have hcleared := c.clearedIf_eq r.clearSelection
  cases hdrop : r.disconnect with
  | false =>
    have hhonour : c.honour r = c.clearedIf r.clearSelection := by
      rw [honour_eq, hdrop]
      rfl
    rw [hhonour, hcleared]
    simp
  | true =>
    have hhonour : c.honour r = (c.clearedIf r.clearSelection).disconnect := by
      rw [honour_eq, hdrop]
      rfl
    rw [hhonour, disconnect_changes, hcleared]
    rfl

/-- It does not matter whether one asks for being connected before disconnecting. -/
theorem disconnect_if (c : Controller C) (asked : Prop) [Decidable asked] :
    (if asked then c.disconnect else c) =
      if asked ∧ c.isConnected = true then c.disconnect else c := by
  by_cases h : c.attached = []
  · rw [disconnect_of_disconnected h, ite_self, ite_self]
  · simp only [isConnected_iff.mpr h, and_true]

/-- A click on a button runs its callback and honours its requests. -/
theorem clicked_buttonClicked (hb : c.hud.buttons[index]? = some b) :
    Clicked c index b (c.buttonClicked index) := by
  have hpushed : Pushes c index b (c.afterCallback index b.label) := pushes_afterCallback hb
  have hclick := buttonClicked_eq hb
  rw [requestsOf_eq hb] at hclick
  generalize c.afterCallback index b.label = pushed at hpushed hclick
  have hchanges := pushed.honour_changes
    ⟨decide (.disconnect ∈ b.requests), decide (.clearSelection ∈ b.requests)⟩
  rw [← hclick] at hchanges
  refine ⟨⟨pushed, _, hpushed, rfl, ?_⟩, ?_, ?_, ?_, ?_⟩
  · have hconnected : (if .clearSelection ∈ b.requests then pushed.clear else pushed).isConnected =
        c.isConnected := by
      rw [hpushed.state, clear_eq]
      split
      · rfl
      · rfl
    rw [hclick, honour_eq, ← hconnected, ← disconnect_if]
    simp only [clearedIf, decide_eq_true_eq]
  · have hsent (n : Notice) : pushed.sent n = c.sent n := by
      rw [hpushed.state]
      rfl
    have hconnected : pushed.isConnected = c.isConnected := by
      rw [hpushed.state]
      rfl
    rw [hchanges, hpushed.trace]
    simp only [hsent, hconnected, decide_eq_true_eq, Bool.and_eq_true]
  · rw [hchanges, hpushed.state]
  · rw [hchanges, hpushed.state]
    simp
  · rw [hchanges, hpushed.state]
    simp

/-- In every state that a run reaches, a click past the check for listeners on a button that is not
there is logged and nothing else; a click on a button runs its callback, tells of it and then
honours the requests of this callback, once each. The requests of a click do not outlive it: a later
callback that requests nothing leaves the selection and the listeners alone. A canvas delivers
clicks to a connected controller only. -/
theorem run_click_calls_back_then_honours (canvas : C) (points : List (Point Float))
    (settings : SelectionSettings) (layout : HudSettings) (publishes : Bool) (steps : List Step)
    (index : Nat) :
    let c := (new canvas points settings layout publishes).run steps
    let c' := c.dispatch (.buttonClick index)
    (c.hud.buttons.length ≤ index →
      c' = { c with trace := c.trace ++ [.logged (.buttonUnknown index)] }) ∧
    (∀ b, c.hud.buttons[index]? = some b → Clicked c index b c') ∧
    (∀ (more : List Step) (other : Nat) (b : Button), b.requests = [] →
      let later := c'.run more
      let later' := later.dispatch (.buttonClick other)
      later.hud.buttons[other]? = some b →
        later'.selection = later.selection ∧ later'.attached = later.attached) ∧
    c.handle (.buttonClick index) = if c.isConnected = true then c' else c := by
  intro c c'
  refine ⟨fun hindex => ?_, fun b hb => clicked_buttonClicked hb, ?_, ?_⟩
  · exact buttonClicked_of_missing (List.getElem?_eq_none hindex)
  · intro more other b hnone later later' hb
    have hclicked : Clicked later other b later' := clicked_buttonClicked hb
    have hselection := hclicked.selection
    have hattached := hclicked.attached
    rw [hnone] at hselection hattached
    exact ⟨hselection, hattached⟩
  · have hmode : c.mode.AllOrNone :=
      run_allOrNone canvas points settings layout publishes steps
    have haccepts : c.accepts (.buttonClick index) = true ↔ c.isConnected = true := by
      rw [accepts_iff hmode, or_iff_left (by simp)]
    rw [handle]
    simp only [haccepts]
    rfl

/-- The first of two buttons asks for everything, twice. Its callback sees the selected point, which
is then given up, and the controller disconnects; there is no third button. The second button,
clicked after connecting and selecting again, does nothing of the kind. -/
theorem click_then_click :
    let greedy : Button :=
      { label := "greedy", icon := .none
        requests := [.disconnect, .clearSelection, .disconnect, .clearSelection] }
    let modest : Button := { label := "modest", icon := .none, requests := [] }
    let steps : List Step :=
      [.register "greedy" .none greedy.requests, .register "modest" .none [], .connect,
        .select [1], .setHover 0 true]
    let c := (new (Headless.ofView .unit) [⟨0.0, 0.0⟩, ⟨1.0, 1.0⟩] {}).run steps
    let c' := c.dispatch (.buttonClick 0)
    let later := c'.run [.connect, .select [0]]
    let later' := later.dispatch (.buttonClick 1)
    c.hud.buttons = [{ greedy with hovered := true }, modest] ∧
      Clicked c 0 { greedy with hovered := true } c' ∧
      c'.trace = c.trace ++
        [.buttonCallback 0 "greedy" [1], .logged (.buttonClicked "greedy"),
          .notified { kinds := .buttonClicked, button := some "greedy" },
          .notified { kinds := .selectionSet, selection := some [] },
          .logged .disconnected, .notified { kinds := .disconnected }] ∧
      (later'.selection = later.selection ∧ later'.attached = later.attached) ∧
      c.hud.buttons.length ≤ 2 ∧
      (c.dispatch (.buttonClick 2)).trace = c.trace ++ [.logged (.buttonUnknown 2)] := by
  intro greedy modest steps
  have hclick (index : Nat) := run_click_calls_back_then_honours (Headless.ofView .unit)
    [⟨0.0, 0.0⟩, ⟨1.0, 1.0⟩] {} {} true steps index
  obtain ⟨-, hclicked, hlasting, -⟩ := hclick 0
  obtain ⟨hmissing, -⟩ := hclick 2
  exact ⟨by decide +kernel, hclicked { greedy with hovered := true } (by decide +kernel),
    by decide +kernel, hlasting [.connect, .select [0]] 1 modest rfl (by decide +kernel),
    by decide +kernel, congrArg Controller.trace (hmissing (by decide +kernel))⟩

end Controller

end ScatterPick
