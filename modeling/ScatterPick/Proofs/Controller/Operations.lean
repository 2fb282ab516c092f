import ScatterPick.Controller.Run

/-!
# What each operation changes

One equation for each operation of a controller: the state after it is the state before it with the
listed fields replaced. What an equation does not list is left alone, so later arguments never look
into an operation again.
-/

namespace ScatterPick

/-- The requests of a callback are those it makes at least once, in whatever order. -/
theorem Requests.addAll_eq (r : Requests) (requests : List Request) :
    r.addAll requests =
      ⟨r.disconnect || decide (.disconnect ∈ requests),
        r.clearSelection || decide (.clearSelection ∈ requests)⟩ := by
  induction requests generalizing r with
  | nil => simp [addAll]
  | cons q rest ih =>
    rw [addAll, List.foldl_cons, ← addAll, ih]
    cases q with
    | disconnect => simp [add]
    | clearSelection => simp [add]

namespace Controller

variable {C : Type}

@[simp] theorem isConnected_iff {c : Controller C} : c.isConnected = true ↔ c.attached ≠ [] := by
  simp [isConnected]

/-- What a notice leaves in the trace. -/
def sent (c : Controller C) (n : Notice) : List Effect := if c.publishes then [.notified n] else []

/-- The subscribers after a notice. -/
def busAfter (c : Controller C) (n : Notice) : Broadcast :=
  if c.publishes then c.bus.emit n else c.bus

/-- The requests that the callback of a button makes when clicked. -/
def requestsOf (c : Controller C) (index : Nat) : List Request :=
  (c.hud.buttons[index]?.map (·.requests)).getD []

theorem requestsOf_of_missing {c : Controller C} {index : Nat}
    (h : c.hud.buttons[index]? = none) : c.requestsOf index = [] := by
  rw [requestsOf, h]
  rfl

theorem requestsOf_eq {c : Controller C} {index : Nat} {b : Button}
    (h : c.hud.buttons[index]? = some b) : c.requestsOf index = b.requests := by
  rw [requestsOf, h]
  rfl

/-- The calls of all selection callbacks with one list, in the order of registration. -/
def callbackEffects (c : Controller C) (indices : List Nat) : List Effect :=
  (List.range c.callbacks).map fun k => .selectionCallback k indices

theorem notify_eq (c : Controller C) (n : Notice) :
    c.notify n = { c with trace := c.trace ++ c.sent n, bus := c.busAfter n } := by
  unfold notify sent busAfter
  split
  · rfl
  · rw [List.append_nil]

variable [Canvas C]

theorem showSelection_eq (c : Controller C) (s : Selection) :
    c.showSelection s = { c with
      selection := s
      styles := c.styles.apply s c.settings.emphasis
      canvas := Canvas.requestRedraw (Canvas.setStyle c.canvas
        ⟨(c.styles.apply s c.settings.emphasis).alphas,
          (c.styles.apply s c.settings.emphasis).sizes⟩) } := rfl

/-! ## Connecting -/

/-- The state with one more listener for each interaction. -/
def attachAll (c : Controller C) : Controller C := interactionKinds.foldl attach c

private theorem foldl_attach_eq (c : Controller C) (kinds : List EventKind) :
    kinds.foldl attach c = { c with
      canvas := (kinds.foldl attach c).canvas
      attached := (kinds.foldl attach c).attached } := by
  induction kinds generalizing c with
  | nil => rfl
  | cons kind rest ih =>
    rw [List.foldl_cons, ih]
    rfl

private theorem foldl_attach_kinds (c : Controller C) (kinds : List EventKind) :
    (kinds.foldl attach c).attached.map (·.kind) = c.attached.map (·.kind) ++ kinds := by
  induction kinds generalizing c with
  | nil => simp
  | cons kind rest ih =>
    rw [List.foldl_cons, ih]
    simp [attach]

/-- Attaching concerns the canvas and the list of listeners alone. -/
theorem attachAll_eq (c : Controller C) :
    c.attachAll = { c with canvas := c.attachAll.canvas, attached := c.attachAll.attached } :=
  foldl_attach_eq c interactionKinds

/-- Attaching to a disconnected controller leaves one listener for each interaction. -/
theorem attachAll_kinds {c : Controller C} (h : c.attached = []) :
    c.attachAll.attached.map (·.kind) = interactionKinds := by
  rw [attachAll, foldl_attach_kinds, h]
  rfl

theorem connect_of_connected {c : Controller C} (h : c.attached ≠ []) : c.connect = c := by
  simp [connect, h]

theorem connect_eq {c : Controller C} (h : c.attached = []) :
    c.connect = { c with
      canvas := c.attachAll.canvas
      attached := c.attachAll.attached
      hud := (c.hud.setAdditive c.additive).setVisible false
      trace := c.trace ++ [.logged (.connected c.points.length c.hud.buttons.length)] ++
        c.sent { kinds := .connected }
      bus := c.busAfter { kinds := .connected } } := by
  have hc : c.isConnected = false := by simp [isConnected, h]
  rw [connect, hc, ← attachAll, attachAll_eq]
  simp only [notify_eq, Bool.false_eq_true, ite_false]
  rfl

theorem disconnect_of_disconnected {c : Controller C} (h : c.attached = []) :
    c.disconnect = c := by
  simp [disconnect, isConnected, h]

theorem disconnect_eq {c : Controller C} (h : c.attached ≠ []) :
    c.disconnect = { c with
      canvas := c.attached.foldl (fun canvas l => Canvas.unsubscribe canvas l.id) c.canvas
      attached := []
      additive := false
      hud := (c.hud.setAdditive false).setVisible false
      trace := c.trace ++ [.logged .disconnected] ++ c.sent { kinds := .disconnected }
      bus := c.busAfter { kinds := .disconnected } } := by
  rw [disconnect, isConnected_iff.mpr h]
  simp only [notify_eq, ite_true]
  rfl

/-! ## Selecting -/

/-- What is left of some indices in a controller: those of points. -/
def kept (c : Controller C) (indices : List Nat) : Selection :=
  ((Selection.ofList indices).bounded c.points.length).1

/-- The number of different indices that belong to no point. -/
def ignored (c : Controller C) (indices : List Nat) : Nat :=
  ((Selection.ofList indices).bounded c.points.length).2

theorem select_eq (c : Controller C) (indices : List Nat) :
    c.select indices = { c.showSelection (c.kept indices) with
      trace := c.trace ++
        (if c.ignored indices = 0 then []
          else [.logged (.indicesIgnored (c.ignored indices) c.points.length)]) ++
        c.sent { kinds := .selectionSet, selection := some (c.kept indices).indices }
      bus := c.busAfter
        { kinds := .selectionSet, selection := some (c.kept indices).indices } } := by
  by_cases h : ((Selection.ofList indices).bounded c.points.length).2 = 0
  · simp only [select, notify_eq, ignored, h, ite_true, List.append_nil]
    rfl
  · simp only [select, notify_eq, ignored, h, ite_false]
    rfl

theorem clear_eq (c : Controller C) :
    c.clear = { c.showSelection .empty with
      trace := c.trace ++ c.sent { kinds := .selectionSet, selection := some [] }
      bus := c.busAfter { kinds := .selectionSet, selection := some [] } } := by
  have hi : c.ignored [] = 0 := rfl
  rw [clear, select_eq, hi]
  simp only [ite_true, List.append_nil]
  rfl

/-! ## The pointer and the additive key -/

theorem pointerEntered_eq (c : Controller C) :
    c.pointerEntered = { c with
      canvas := Canvas.requestRedraw c.canvas
      hud := (c.hud.setAdditive c.additive).setVisible true
      trace := c.trace ++ [.logged (.hudShown (titleFor c.additive))] ++
        c.sent { kinds := .hudShown }
      bus := c.busAfter { kinds := .hudShown } } := by
  rw [pointerEntered, notify_eq]
  rfl

theorem pointerExited_eq (c : Controller C) :
    c.pointerExited = { c with
      canvas := Canvas.requestRedraw c.canvas
      hud := c.hud.setVisible false
      trace := c.trace ++ [.logged .hudHidden] ++ c.sent { kinds := .hudHidden }
      bus := c.busAfter { kinds := .hudHidden } } := by
  rw [pointerExited, notify_eq]
  rfl

theorem keyPressed_eq {c : Controller C} {key : Key} (h : key = c.settings.additiveKey) :
    c.keyPressed key = { c with
      canvas := Canvas.requestRedraw c.canvas
      additive := true
      hud := c.hud.setAdditive true
      trace := c.trace ++ [.logged (.additiveKeyDown key)] } := by
  rw [keyPressed, if_pos h]
  rfl

theorem keyPressed_of_ne {c : Controller C} {key : Key} (h : key ≠ c.settings.additiveKey) :
    c.keyPressed key = c := if_neg h

theorem keyReleased_eq {c : Controller C} {key : Key} (h : key = c.settings.additiveKey) :
    c.keyReleased key = { c with
      canvas := Canvas.requestRedraw c.canvas
      additive := false
      hud := c.hud.setAdditive false } := by
  rw [keyReleased, if_pos h]
  rfl

theorem keyReleased_of_ne {c : Controller C} {key : Key} (h : key ≠ c.settings.additiveKey) :
    c.keyReleased key = c := if_neg h

/-! ## Gestures and clicks -/

/-- The selection that a gesture leads to. -/
def merged (c : Controller C) (vertices : List (Point Float)) : Selection :=
  c.selection.merge (c.outcome vertices).hits c.additive

/-- What is logged about a gesture. -/
def reading (c : Controller C) (vertices : List (Point Float)) : LogEntry :=
  .gestureRead (c.outcome vertices).kind vertices.length (c.outcome vertices).hits.size
    c.selection.size (c.merged vertices).size

private theorem gestureFinished_cases (c : Controller C) (vertices : List (Point Float)) :
    c.gestureFinished vertices =
      if c.merged vertices = c.selection then (c.log (c.reading vertices)).draw
      else ((c.log (c.reading vertices)).showSelection (c.merged vertices)).runCallbacks.notify
        { kinds := .selectionChanged, selection := some (c.merged vertices).indices } := rfl

/-- A gesture that changes nothing asks for a repaint and is logged. -/
theorem gestureFinished_unchanged {c : Controller C} {vertices : List (Point Float)}
    (h : c.merged vertices = c.selection) :
    c.gestureFinished vertices = { c with
      canvas := Canvas.requestRedraw c.canvas
      trace := c.trace ++ [.logged (c.reading vertices)] } := by
  rw [gestureFinished_cases, if_pos h]
  rfl

/-- A gesture that changes the selection shows it, then calls back, then notifies. -/
theorem gestureFinished_changed {c : Controller C} {vertices : List (Point Float)}
    (h : c.merged vertices ≠ c.selection) :
    c.gestureFinished vertices = { c.showSelection (c.merged vertices) with
      trace := c.trace ++ [.logged (c.reading vertices)] ++
        c.callbackEffects (c.merged vertices).indices ++
        c.sent { kinds := .selectionChanged, selection := some (c.merged vertices).indices }
      bus := c.busAfter
        { kinds := .selectionChanged, selection := some (c.merged vertices).indices } } := by
  rw [gestureFinished_cases, if_neg h, notify_eq]
  rfl

/-- The state after clearing, if that was asked for. -/
def clearedIf (c : Controller C) (asked : Bool) : Controller C := if asked then c.clear else c

theorem honour_eq (c : Controller C) (r : Requests) :
    c.honour r =
      if r.disconnect then (c.clearedIf r.clearSelection).disconnect
      else c.clearedIf r.clearSelection := rfl

/-- The state right after the callback of button `index`, before its requests are honoured. -/
def afterCallback (c : Controller C) (index : Nat) (label : String) : Controller C :=
  { c with
    canvas := Canvas.requestRedraw c.canvas
    hud := c.hud.setHover index false
    trace := c.trace ++ [.buttonCallback index label c.selection.indices] ++
      [.logged (.buttonClicked label)] ++
      c.sent { kinds := .buttonClicked, button := some label }
    bus := c.busAfter { kinds := .buttonClicked, button := some label } }

theorem buttonClicked_of_missing {c : Controller C} {index : Nat}
    (h : c.hud.buttons[index]? = none) :
    c.buttonClicked index = { c with trace := c.trace ++ [.logged (.buttonUnknown index)] } := by
  simp [buttonClicked, Hud.click, h, log, record]

/-- A click runs the callback, then clears if that was asked for, then disconnects if that was. -/
theorem buttonClicked_eq {c : Controller C} {index : Nat} {b : Button}
    (h : c.hud.buttons[index]? = some b) :
    c.buttonClicked index = (c.afterCallback index b.label).honour
      ⟨decide (.disconnect ∈ c.requestsOf index),
        decide (.clearSelection ∈ c.requestsOf index)⟩ := by
  rw [requestsOf_eq h]
  simp only [buttonClicked, Hud.click, h, Option.map_some, notify_eq, Requests.addAll_eq,
    Bool.false_or]
  rfl

end Controller

end ScatterPick
