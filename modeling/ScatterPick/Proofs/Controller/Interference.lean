import ScatterPick.Canvas.Lawful
import ScatterPick.Proofs.Canvas.Exchange
import ScatterPick.Proofs.Controller.History
import ScatterPick.Proofs.Controller.Operations

/-!
# The strip does not interfere

What is selected, shown, called back and announced does not depend on the pointer, on the look of
the strip or on repaints. The core of a controller is what is left of it without these: every step
leads from equal cores to equal cores, and the ornamental steps, those that concern the strip or the
screen alone, leave the core alone. So they can be left out of a run anywhere.
-/

namespace ScatterPick

/-! ## The core of a controller -/

/-- A canvas that keeps what it is given and takes no notice of anything else. -/
structure Keeper where
  view : View Float
  style : CanvasStyle
  listeners : Listeners

namespace Keeper

instance : Canvas Keeper where
  view := view
  setView c view := { c with view }
  style := style
  setStyle c style := { c with style }
  listeners := listeners
  setListeners c listeners := { c with listeners }
  requestRedraw c := c
  present c := c

/-- What a canvas was given. -/
def of {C : Type} [Canvas C] (c : C) : Keeper :=
  ⟨Canvas.view c, Canvas.style c, Canvas.listeners c⟩

theorem canvasMap_of {C : Type} [Canvas C] [LawfulCanvas C] : CanvasMap (of : C → Keeper) := by
  constructor <;> intros <;> simp [of] <;> rfl

end Keeper

/-- Whether an effect concerns the selection or the connection: a call of a selection callback, or
a notice of such a change. -/
def Effect.essential : Effect → Bool
  | .selectionCallback _ _ => true
  | .notified n =>
    n.kinds ∈ [.selectionChanged, .selectionSet, .connected, .disconnected]
  | _ => false

/-- A button of which nothing but the requests of its callback is left. -/
def Button.bare (b : Button) : Button :=
  { label := "", icon := .none, requests := b.requests }

/-- Changing one of some buttons changes what is left of it. -/
theorem Button.bare_modify {change change' : Button → Button}
    (h : ∀ b : Button, (change b).bare = change' b.bare) (buttons : List Button) (index : Nat) :
    (buttons.modify index change).map bare = (buttons.map bare).modify index change' := by
  induction buttons generalizing index with
  | nil => simp
  | cons b rest ih =>
    cases index with
    | zero => simp [h]
    | succ index => simp [ih]

namespace Hud

/-- A hidden strip of which nothing but the requests of its buttons is left. -/
def bare (h : Hud) : Hud := { ofLayout {} with buttons := h.buttons.map Button.bare }

theorem bare_setHover (h : Hud) (index : Nat) (hovered : Bool) :
    (h.setHover index hovered).bare = h.bare := by
  have hbare (b : Button) : { b with hovered }.bare = id b.bare := rfl
  have hbuttons : (h.setHover index hovered).buttons.map Button.bare = h.buttons.map Button.bare :=
    (Button.bare_modify hbare h.buttons index).trans (List.modify_id ..)
  rw [bare, bare, hbuttons]

theorem bare_revise (h : Hud) (index : Nat) (requests : List Request) :
    (h.revise index requests).bare = h.bare.revise index requests := by
  have hbare (b : Button) : { b with requests }.bare = { b.bare with requests } := rfl
  have hbuttons : (h.revise index requests).buttons.map Button.bare =
      (h.bare.revise index requests).buttons := Button.bare_modify hbare h.buttons index
  rw [bare, hbuttons]
  rfl

theorem bare_push (h : Hud) (b : Button) : (h.push b).bare = h.bare.push b.bare := by
  simp [bare, push]

end Hud

namespace Controller

/-- A controller without the looks of its strip, its subscribers and what else it tells than of the
selection and the connection. The requests of the buttons are left, since a click honours them. -/
def bare {C : Type} (c : Controller C) : Controller C :=
  { c with hud := c.hud.bare, bus := .empty, trace := c.trace.filter Effect.essential }

variable {C : Type}

theorem requestsOf_bare (c : Controller C) (index : Nat) :
    c.bare.requestsOf index = c.requestsOf index := by
  simp only [requestsOf, bare, Hud.bare, List.getElem?_map, Option.map_map]
  rfl

/-- Of effects that concern neither the selection nor the connection, nothing is left. -/
theorem filter_unessential {c : Controller C} {effects : List Effect}
    (h : effects.filter Effect.essential = []) :
    (c.trace ++ effects).filter Effect.essential = c.bare.trace := by
  rw [List.filter_append, h, List.append_nil]
  rfl

theorem filter_sent_of_essential (c : Controller C) {n : Notice}
    (h : (Effect.notified n).essential = true) :
    (c.sent n).filter Effect.essential = c.bare.sent n := by
  change (c.sent n).filter Effect.essential = c.sent n
  unfold sent
  split
  · exact List.filter_cons_of_pos h
  · rfl

theorem filter_sent_of_unessential (c : Controller C) {n : Notice}
    (h : (Effect.notified n).essential = false) : (c.sent n).filter Effect.essential = [] := by
  unfold sent
  split
  · exact List.filter_cons_of_neg (by rw [h]; exact Bool.false_ne_true)
  · rfl

/-- Of a notice about the selection or the connection and what came before it, the notice is
left. -/
theorem filter_told (c : Controller C) (before : List Effect) (n : Notice)
    (hbefore : before.filter Effect.essential = []) (hn : (Effect.notified n).essential = true) :
    (c.trace ++ before ++ c.sent n).filter Effect.essential = c.bare.trace ++ c.bare.sent n := by
  rw [List.filter_append, filter_unessential hbefore, filter_sent_of_essential c hn]

/-- Of another notice and what came before it, nothing is left. -/
theorem filter_untold {c : Controller C} {before : List Effect} {n : Notice}
    (hbefore : before.filter Effect.essential = []) (hn : (Effect.notified n).essential = false) :
    (c.trace ++ before ++ c.sent n).filter Effect.essential = c.bare.trace := by
  rw [List.filter_append, filter_unessential hbefore, filter_sent_of_unessential c hn,
    List.append_nil]

/-! ## Operations

The core after each operation, read off the core before it alone. -/

section Keeper

variable (c : Controller Keeper)

theorem bare_connect : c.connect.bare =
    if c.bare.attached = [] then { c.bare with
      canvas := c.bare.attachAll.canvas
      attached := c.bare.attachAll.attached
      trace := c.bare.trace ++ c.bare.sent { kinds := .connected } }
    else c.bare := by
  by_cases h : c.attached = []
  · have hattach : c.bare.attachAll = c.attachAll.bare := List.foldl_hom bare fun c kind => rfl
    have htrace := c.filter_told [.logged (.connected c.points.length c.hud.buttons.length)]
      { kinds := .connected } rfl rfl
    rw [if_pos (show c.bare.attached = [] from h), connect_eq h, hattach, ← htrace]
    rfl
  · rw [connect_of_connected h, if_neg (show c.bare.attached ≠ [] from h)]

theorem bare_disconnect : c.disconnect.bare =
    if c.bare.attached = [] then c.bare
    else { c.bare with
      canvas := c.bare.attached.foldl (fun canvas l => Canvas.unsubscribe canvas l.id) c.bare.canvas
      attached := []
      additive := false
      trace := c.bare.trace ++ c.bare.sent { kinds := .disconnected } } := by
  by_cases h : c.attached = []
  · rw [disconnect_of_disconnected h, if_pos (show c.bare.attached = [] from h)]
  · have htrace := c.filter_told [.logged .disconnected] { kinds := .disconnected } rfl rfl
    rw [disconnect_eq h, if_neg (show c.bare.attached ≠ [] from h), ← htrace]
    rfl

theorem bare_select (indices : List Nat) : (c.select indices).bare =
    { c.bare.showSelection (c.bare.kept indices) with
      trace := c.bare.trace ++ c.bare.sent
        { kinds := .selectionSet, selection := some (c.bare.kept indices).indices } } := by
  have hbefore : (if c.ignored indices = 0 then []
      else [Effect.logged (.indicesIgnored (c.ignored indices) c.points.length)]).filter
        Effect.essential = [] := by
    split
    · rfl
    · rfl
  have htrace := c.filter_told _
    { kinds := .selectionSet, selection := some (c.kept indices).indices } hbefore rfl
  rw [select_eq, show c.bare.kept indices = c.kept indices from rfl, ← htrace]
  rfl

theorem bare_pointerEntered : c.pointerEntered.bare = c.bare := by
  rw [pointerEntered_eq, bare, filter_untold rfl rfl]
  rfl

theorem bare_pointerExited : c.pointerExited.bare = c.bare := by
  rw [pointerExited_eq, bare, filter_untold rfl rfl]
  rfl

theorem bare_keyPressed (key : Key) : (c.keyPressed key).bare =
    if key = c.bare.settings.additiveKey then { c.bare with additive := true } else c.bare := by
  by_cases hk : key = c.settings.additiveKey
  · rw [keyPressed_eq hk, bare, filter_unessential rfl,
      if_pos (show key = c.bare.settings.additiveKey from hk)]
    rfl
  · rw [keyPressed_of_ne hk, if_neg (show key ≠ c.bare.settings.additiveKey from hk)]

theorem bare_keyReleased (key : Key) : (c.keyReleased key).bare =
    if key = c.bare.settings.additiveKey then { c.bare with additive := false } else c.bare := by
  by_cases hk : key = c.settings.additiveKey
  · rw [keyReleased_eq hk, if_pos (show key = c.bare.settings.additiveKey from hk)]
    rfl
  · rw [keyReleased_of_ne hk, if_neg (show key ≠ c.bare.settings.additiveKey from hk)]

theorem bare_gestureFinished (vertices : List (Point Float)) : (c.gestureFinished vertices).bare =
    if c.bare.merged vertices = c.bare.selection then c.bare
    else { c.bare.showSelection (c.bare.merged vertices) with
      trace := c.bare.trace ++ c.bare.callbackEffects (c.bare.merged vertices).indices ++
        c.bare.sent
          { kinds := .selectionChanged, selection := some (c.bare.merged vertices).indices } } := by
  by_cases h : c.merged vertices = c.selection
  · rw [gestureFinished_unchanged h, bare, filter_unessential rfl,
      if_pos (show c.bare.merged vertices = c.bare.selection from h)]
    rfl
  · have hcallbacks : (c.callbackEffects (c.merged vertices).indices).filter Effect.essential =
        c.callbackEffects (c.merged vertices).indices := by
      rw [List.filter_eq_self, callbackEffects]
      exact List.forall_mem_map.mpr fun _ _ => rfl
    rw [gestureFinished_changed h, bare, List.filter_append, List.filter_append,
      filter_unessential rfl, hcallbacks, filter_sent_of_essential c rfl,
      if_neg (show c.bare.merged vertices ≠ c.bare.selection from h)]
    rfl

end Keeper

/-! ## Equal cores -/

variable {c d : Controller Keeper}

theorem bare_disconnect_congr (h : c.bare = d.bare) : c.disconnect.bare = d.disconnect.bare := by
  rw [bare_disconnect, bare_disconnect, h]

theorem bare_select_congr (h : c.bare = d.bare) (indices : List Nat) :
    (c.select indices).bare = (d.select indices).bare := by
  rw [bare_select, bare_select, h]

/-- What is honoured depends on the core alone. -/
theorem bare_honour_congr (h : c.bare = d.bare) (r : Requests) :
    (c.honour r).bare = (d.honour r).bare := by
  have hcleared : (c.clearedIf r.clearSelection).bare = (d.clearedIf r.clearSelection).bare := by
    unfold clearedIf
    split
    · exact bare_select_congr h []
    · exact h
  rw [honour_eq, honour_eq]
  split
  · exact bare_disconnect_congr hcleared
  · exact hcleared

/-- A click is as good as the requests of the button. -/
theorem bare_buttonClicked (c : Controller Keeper) (index : Nat) : (c.buttonClicked index).bare =
    (c.honour ⟨decide (.disconnect ∈ c.requestsOf index),
      decide (.clearSelection ∈ c.requestsOf index)⟩).bare := by
  cases hb : c.hud.buttons[index]? with
  | none =>
    rw [buttonClicked_of_missing hb, requestsOf_of_missing hb, bare, filter_unessential rfl]
    rfl
  | some b =>
    have hcallback : (c.afterCallback index b.label).bare = c.bare := by
      rw [afterCallback, List.append_assoc c.trace, bare, filter_untold rfl rfl, Hud.bare_setHover]
      rfl
    rw [buttonClicked_eq hb, bare_honour_congr hcallback]

theorem bare_dispatch_congr (h : c.bare = d.bare) (event : UserEvent) :
    (c.dispatch event).bare = (d.dispatch event).bare := by
  cases event with
  | pointerEnter => rw [dispatch, dispatch, bare_pointerEntered, bare_pointerEntered, h]
  | pointerExit => rw [dispatch, dispatch, bare_pointerExited, bare_pointerExited, h]
  | keyDown key => rw [dispatch, dispatch, bare_keyPressed, bare_keyPressed, h]
  | keyUp key => rw [dispatch, dispatch, bare_keyReleased, bare_keyReleased, h]
  | gesture vertices =>
    rw [dispatch, dispatch, bare_gestureFinished, bare_gestureFinished, h]
  | buttonClick index =>
    have hrequests : c.requestsOf index = d.requestsOf index := by
      rw [← requestsOf_bare c, h, requestsOf_bare]
    rw [dispatch, dispatch, bare_buttonClicked, bare_buttonClicked, hrequests]
    exact bare_honour_congr h _
  | close => exact bare_disconnect_congr h

theorem bare_register (c : Controller Keeper) (label : String) (icon : Icon)
    (requests : List Request) : (c.register label icon requests).bare =
    { c.bare with hud := c.bare.hud.push { label := "", icon := .none, requests } } := by
  rw [register, log, record, bare, filter_unessential rfl, Hud.bare_push]
  rfl

/-- Hovering leaves the core alone. -/
theorem bare_hover (c : Controller Keeper) (index : Nat) (hovered : Bool) :
    (c.step (.setHover index hovered)).bare = c.bare :=
  congrArg (fun hud => { c.bare with hud }) (c.hud.bare_setHover index hovered)

/-- A click on the strip alone leaves the core alone. -/
theorem bare_clickHud (c : Controller Keeper) (index : Nat) :
    (c.step (.clickHud index)).bare = c.bare := by
  cases hb : c.hud.buttons[index]? with
  | none => simp [step, Hud.click, hb]
  | some b =>
    have hstep : c.step (.clickHud index) =
        { c.record [.buttonCallback index b.label []] with hud := c.hud.setHover index false } := by
      simp [step, Hud.click, hb]
    rw [hstep, record, bare, filter_unessential rfl, Hud.bare_setHover]
    rfl

/-- Every step leads from equal cores to equal cores. -/
theorem bare_step_congr (h : c.bare = d.bare) (s : Step) : (c.step s).bare = (d.step s).bare := by
  cases s with
  | connect => rw [step, step, bare_connect, bare_connect, h]
  | disconnect => exact bare_disconnect_congr h
  | clear => exact bare_select_congr h []
  | handle event =>
    -- Listeners are all that letting an event through looks at, and the core keeps them.
    have haccepts : c.accepts event = d.accepts event := congrArg (fun c => c.accepts event) h
    rw [step, step, handle, handle, haccepts]
    split
    · exact bare_dispatch_congr h event
    · exact h
  | dispatch event => exact bare_dispatch_congr h event
  | select indices => exact bare_select_congr h indices
  | addCallback => exact congrArg addCallback h
  | register label icon requests => rw [step, step, bare_register, bare_register, h]
  | registerSync requests =>
    rw [step, step, registerSync, registerSync, bare_register, bare_register, h]
  | registerDisconnect =>
    rw [step, step, registerDisconnect, registerDisconnect, bare_register, bare_register, h]
  | revise index requests =>
    have hrevise (c : Controller Keeper) : (c.step (.revise index requests)).bare =
        { c.bare with hud := c.bare.hud.revise index requests } :=
      congrArg (fun hud => { c.bare with hud }) (c.hud.bare_revise index requests)
    rw [hrevise, hrevise, h]
  | setView view =>
    exact congrArg (fun c : Controller Keeper =>
      { c with canvas := Canvas.setView c.canvas view }) h
  | setHover index hovered => rw [bare_hover, bare_hover, h]
  | clickHud index => rw [bare_clickHud, bare_clickHud, h]
  | listen kind =>
    exact congrArg (fun c : Controller Keeper =>
      { c with canvas := Canvas.subscribe c.canvas kind }) h
  | unlisten id =>
    exact congrArg (fun c : Controller Keeper =>
      { c with canvas := Canvas.unsubscribe c.canvas id }) h
  | setStyle style =>
    exact congrArg (fun c : Controller Keeper =>
      { c with canvas := Canvas.setStyle c.canvas style }) h
  | _ => exact h

/-! ## Ornamental steps -/

variable {C : Type} [Canvas C]

/-- Whether an event concerns the strip alone: the pointer, a key of no meaning, or a click on a
button that requests nothing or does not exist. -/
def ornamentalEvent (c : Controller C) : UserEvent → Bool
  | .pointerEnter | .pointerExit => true
  | .keyDown key | .keyUp key => key ≠ c.settings.additiveKey
  | .buttonClick index => c.requestsOf index = []
  | .gesture _ | .close => false

/-- Whether a step concerns the strip or the screen alone. -/
def ornamental (c : Controller C) : Step → Bool
  | .draw | .present | .setHover _ _ | .setLayout _ => true
  | .handle event | .dispatch event => c.ornamentalEvent event
  | _ => false

/-- A run from a state, and what is left of it when some ornamental steps are left out. -/
inductive Abridged : Controller C → List Step → List Step → Prop
  | done (c : Controller C) : Abridged c [] []
  | keep {c : Controller C} {s : Step} {steps kept : List Step} :
    Abridged (c.step s) steps kept → Abridged c (s :: steps) (s :: kept)
  | skip {c : Controller C} {s : Step} {steps kept : List Step} :
    c.ornamental s = true → Abridged (c.step s) steps kept → Abridged c (s :: steps) kept

/-- An ornamental event leaves the core alone. -/
theorem bare_dispatch_ornamental {c : Controller Keeper} {event : UserEvent}
    (h : c.ornamentalEvent event = true) : (c.dispatch event).bare = c.bare := by
  cases event with
  | pointerEnter => exact bare_pointerEntered c
  | pointerExit => exact bare_pointerExited c
  | keyDown key => rw [dispatch, keyPressed_of_ne (of_decide_eq_true h)]
  | keyUp key => rw [dispatch, keyReleased_of_ne (of_decide_eq_true h)]
  | buttonClick index =>
    have hrequests : c.requestsOf index = [] := of_decide_eq_true h
    rw [dispatch, bare_buttonClicked, hrequests]
    rfl
  | gesture vertices => cases h
  | close => cases h

/-- An ornamental step leaves the core alone. -/
theorem bare_step_ornamental {c : Controller Keeper} {s : Step} (h : c.ornamental s = true) :
    (c.step s).bare = c.bare := by
  cases s with
  | draw => rfl
  | present => rfl
  | setHover index hovered => exact bare_hover c index hovered
  | setLayout layout => rfl
  | handle event =>
    exact handle_cases (P := fun _ c' => c'.bare = c.bare) c event rfl (bare_dispatch_ornamental h)
  | dispatch event => exact bare_dispatch_ornamental h
  | _ => cases h

/-! ## Abridged runs -/

/-- A controller without what concerns the strip and the screen. -/
def core (c : Controller C) : Controller Keeper := (c.onto Keeper.of).bare

variable [LawfulCanvas C]

theorem core_step_congr {c d : Controller C} (h : c.core = d.core) (s : Step) :
    (c.step s).core = (d.step s).core := by
  rw [core, core, step_onto Keeper.canvasMap_of, step_onto Keeper.canvasMap_of]
  exact bare_step_congr h s

theorem core_step_ornamental {c : Controller C} {s : Step} (h : c.ornamental s = true) :
    (c.step s).core = c.core := by
  have hkeeper : (c.onto Keeper.of).ornamental s = true := h
  rw [core, step_onto Keeper.canvasMap_of]
  exact bare_step_ornamental hkeeper

/-- An abridged run from an equal core leads to an equal core. -/
theorem Abridged.core_eq {c d : Controller C} {steps kept : List Step}
    (h : Abridged c steps kept) (hcore : c.core = d.core) :
    (c.run steps).core = (d.run kept).core := by
  -- A skipped step moves the longer run on alone, so the other may start anywhere with its core.
  induction h generalizing d with
  | done c => exact hcore
  | keep _ ih => exact ih (core_step_congr hcore _)
  | skip hornamental _ ih => exact ih ((core_step_ornamental hornamental).trans hcore)

/-- Leaving out ornamental steps anywhere in a run changes neither the selection, the mode, the
connection and the styles at its end, nor the calls of selection callbacks and the notices about
selection and connection on the way, in their order. -/
theorem run_strip_does_not_interfere {start : Controller C} {steps kept : List Step}
    (h : Abridged start steps kept) :
    let full := start.run steps
    let short := start.run kept
    short.selection = full.selection ∧ short.additive = full.additive ∧
      short.isConnected = full.isConnected ∧ short.styles = full.styles ∧
      Canvas.style short.canvas = Canvas.style full.canvas ∧
      short.trace.filter Effect.essential = full.trace.filter Effect.essential := by
  intro full short
  have hcore : short.core = full.core := (h.core_eq rfl).symm
  have hkeeper : short.core.canvas = full.core.canvas := congrArg (·.canvas) hcore
  exact ⟨congrArg (·.selection) hcore, congrArg (·.additive) hcore,
    congrArg (·.isConnected) hcore, congrArg (·.styles) hcore,
    congrArg Keeper.style hkeeper, congrArg (·.trace) hcore⟩

/-- Under a pointer that moves in and out, with a key of no meaning held and a button of no use
clicked, a run selects, calls back and announces what its five essential steps do. -/
theorem selected_under_restless_pointer :
    let start := new (Headless.ofView .unit) [⟨0.5, 0.5⟩] {}
    let click : Step := .handle (.gesture [⟨0.5, 0.5⟩])
    let steps : List Step := [.registerSync [], .addCallback, .connect, .handle .pointerEnter,
      .handle (.keyDown .ctrl), click, .setHover 0 true, .handle (.buttonClick 0),
      .dispatch (.buttonClick 1), .handle (.keyDown .shift), .handle .pointerExit, .draw]
    let kept : List Step := [.registerSync [], .addCallback, .connect, click,
      .handle (.keyDown .shift)]
    let full := start.run steps
    Abridged start steps kept ∧ full.selection.indices = [0] ∧ full.additive = true ∧
      full.isConnected = true ∧ full.styles = (start.run kept).styles ∧
      Canvas.style full.canvas = Canvas.style (start.run kept).canvas ∧
      full.trace.filter Effect.essential = [.notified { kinds := .connected },
        .selectionCallback 0 [0],
        .notified { kinds := .selectionChanged, selection := some [0] }] := by
  intro start click steps kept full
  have habridged : Abridged start steps kept :=
    .keep <| .keep <| .keep <| .skip rfl <| .skip (by decide +kernel) <| .keep <| .skip rfl <|
      .skip (by decide +kernel) <| .skip (by decide +kernel) <| .keep <| .skip rfl <| .skip rfl <|
        .done _
  obtain ⟨hselection, hadditive, hconnected, hstyles, hcanvas, htrace⟩ :=
    run_strip_does_not_interfere habridged
  refine ⟨habridged, ?_, ?_, ?_, hstyles.symm, hcanvas.symm, ?_⟩
  · rw [← hselection]
    decide +kernel
  · rw [← hadditive]
    decide +kernel
  · rw [← hconnected]
    decide +kernel
  · rw [← htrace]
    decide +kernel

end Controller

end ScatterPick
