import ScatterPick.Canvas.Headless
import ScatterPick.Proofs.Controller.History
import ScatterPick.Proofs.Controller.Operations
import ScatterPick.Proofs.Event.Account
import ScatterPick.Proofs.Event.Delivery

/-!
# The notices of a run

Whatever changes the connection, the strip or the selection says so, after the change and once, and
nothing else is said. A subscriber from the start therefore knows of all three at any time.
-/

namespace ScatterPick

/-- What a step does to the broadcast alone. -/
def Step.operation : Step → Option Broadcast.Operation
  | .subscribe mask => some (.subscribe mask)
  | .dropReceiver receiver => some (.drop receiver)
  | .drain => some .drain
  | .emit notice => some (.emit notice)
  | _ => none

/-- Whether a step goes past the controller in what a subscriber hears or learns: it sends a notice
of the host program, gives up the subscriber, or shows or hides the strip by hand. -/
def Step.interferes (receiver : Nat) : Step → Bool
  | .emit _ | .setVisible _ => true
  | .dropReceiver r => r == receiver
  | _ => false

/-- Every notice with a category passes the mask of all categories. -/
theorem EventKind.all_accepts {n : Notice} (h : n.kinds.bits ≠ 0) :
    EventKind.all.accepts n = true := by
  have hbits : n.kinds.bits &&& EventKind.all.bits = n.kinds.bits := UInt64.and_neg_one
  rw [accepts, intersects, hbits]
  exact bne_iff_ne.mpr h

theorem Selection.indices_inj {s t : Selection} : s.indices = t.indices ↔ s = t := by
  cases s
  cases t
  simp

/-- An unlimited subscriber hears notices one after the other as they go out. -/
theorem Broadcast.Serves.pending_run_emit {b : Broadcast} {k : Nat} {mask : EventKind}
    (h : Serves b k mask) (said : List Notice) :
    (b.run (said.map .emit)).pending k = b.pending k ++ said.filter mask.accepts := by
  have hkept : Operation.drop k ∉ said.map .emit := by simp
  have hnone : b.collected k (said.map .emit) = [] := by
    clear h hkept
    induction said generalizing b with
    | nil => rfl
    | cons n rest ih => exact ih
  have hgot := h.collected_append_pending hkept
  rwa [hnone, emitted_map_emit, List.nil_append] at hgot

namespace Controller

variable {C : Type}

/-- What there is to know of a controller. -/
def account (c : Controller C) : Account := ⟨c.isConnected, c.hud.visible, c.selection.indices⟩

/-- `c'` comes from `c` by saying something, each time what had just come true. -/
structure Tells (c : Controller C) (said : List Notice) (c' : Controller C) : Prop where
  publishes : c'.publishes = c.publishes
  bus : c.publishes = true → c'.bus = c.bus.run (said.map .emit)
  account : c'.account = said.foldl Account.after c.account
  follows : c.account.Follows said
  audible : ∀ n ∈ said, EventKind.all.accepts n = true

namespace Tells

theorem of_silent {c c' : Controller C} (hpublishes : c'.publishes = c.publishes)
    (hbus : c'.bus = c.bus) (haccount : c'.account = c.account) : Tells c [] c' :=
  ⟨hpublishes, fun _ => hbus, haccount, trivial, nofun⟩

theorem refl (c : Controller C) : Tells c [] c := of_silent rfl rfl rfl

theorem of_notice {c c' : Controller C} {n : Notice} (hpublishes : c'.publishes = c.publishes)
    (hbus : c'.bus = c.busAfter n) (haccount : c'.account = c.account.after n)
    (hnews : c.account.News n) (haudible : EventKind.all.accepts n = true) : Tells c [n] c' := by
  refine ⟨hpublishes, fun hpub => ?_, haccount, ⟨hnews, trivial⟩, fun m hm => ?_⟩
  · rw [hbus, busAfter, if_pos hpub]
    rfl
  · rw [List.mem_singleton.mp hm]
    exact haudible

theorem trans {c c' c'' : Controller C} {said more : List Notice} (h : Tells c said c')
    (h' : Tells c' more c'') : Tells c (said ++ more) c'' := by
  refine ⟨h'.publishes.trans h.publishes, fun hpub => ?_, ?_, ?_, fun n hn => ?_⟩
  · rw [h'.bus (h.publishes.trans hpub), h.bus hpub, List.map_append, Broadcast.run_append]
  · rw [h'.account, h.account, List.foldl_append]
  · rw [Account.follows_append, ← h.account]
    exact ⟨h.follows, h'.follows⟩
  · rcases List.mem_append.mp hn with hn | hn
    · exact h.audible n hn
    · exact h'.audible n hn

end Tells

/-! ## What is said -/

/-- The notice of disconnecting, if there is anything to disconnect. -/
def saidOnDisconnecting (c : Controller C) : List Notice :=
  if c.attached = [] then [] else [{ kinds := .disconnected }]

/-- The notice of a selection by the host program or by the callback of a button. -/
def saidOnSelecting (s : Selection) : List Notice :=
  [{ kinds := .selectionSet, selection := some s.indices }]

/-- The notices about a click on a button: the click, then what its callback asked for. -/
def saidOnClicking (c : Controller C) (b : Button) : List Notice :=
  { kinds := .buttonClicked, button := some b.label } ::
    ((if .clearSelection ∈ b.requests then saidOnSelecting .empty else []) ++
      if .disconnect ∈ b.requests then c.saidOnDisconnecting else [])

variable [Canvas C]

/-- The notices about an event that comes through. -/
def saidBy (c : Controller C) : UserEvent → List Notice
  | .pointerEnter => [{ kinds := .hudShown }]
  | .pointerExit => [{ kinds := .hudHidden }]
  | .keyDown _ | .keyUp _ => []
  | .gesture vertices =>
    if c.merged vertices = c.selection then []
    else [{ kinds := .selectionChanged, selection := some (c.merged vertices).indices }]
  | .buttonClick index => c.hud.buttons[index]?.elim [] c.saidOnClicking
  | .close => c.saidOnDisconnecting

/-- The notices about a step. -/
def said (c : Controller C) : Step → List Notice
  | .connect => if c.attached = [] then [{ kinds := .connected }] else []
  | .disconnect => c.saidOnDisconnecting
  | .clear => saidOnSelecting .empty
  | .select indices => saidOnSelecting (c.kept indices)
  | s => (c.arriving s).elim [] c.saidBy

/-! ## Operations -/

theorem tells_connect (c : Controller C) : Tells c (c.said .connect) c.connect := by
  by_cases h : c.attached = []
  · have hattached : c.attachAll.attached ≠ [] := by
      intro hnil
      have hkinds := attachAll_kinds h
      rw [hnil] at hkinds
      cases hkinds
    have hon : (!c.attachAll.attached.isEmpty) = true := by simpa using hattached
    have hoff : c.isConnected = false := by simp [isConnected, h]
    rw [connect_eq h, said, if_pos h]
    refine .of_notice rfl rfl ?_ (.of_connection ?_ (by decide) (by decide))
      (EventKind.all_accepts (by decide))
    · exact congrArg (Account.mk · false c.selection.indices) hon
    · exact fun hsame => Bool.noConfusion (hoff.symm.trans (Option.some.inj hsame).symm)
  · rw [connect_of_connected h, said, if_neg h]
    exact .refl c

theorem tells_disconnect (c : Controller C) : Tells c c.saidOnDisconnecting c.disconnect := by
  by_cases h : c.attached = []
  · rw [disconnect_of_disconnected h, saidOnDisconnecting, if_pos h]
    exact .refl c
  · have hon : c.isConnected = true := isConnected_iff.mpr h
    rw [disconnect_eq h, saidOnDisconnecting, if_neg h]
    refine .of_notice rfl rfl rfl (.of_connection ?_ (by decide) (by decide))
      (EventKind.all_accepts (by decide))
    exact fun hsame => Bool.noConfusion ((Option.some.inj hsame).trans hon)

theorem tells_select (c : Controller C) (indices : List Nat) :
    Tells c (saidOnSelecting (c.kept indices)) (c.select indices) := by
  have hkind : EventKind.selectionSet.bits ≠ 0 := by decide
  rw [select_eq]
  exact .of_notice rfl rfl rfl ⟨nofun, nofun, nofun⟩ (EventKind.all_accepts hkind)

theorem tells_gestureFinished (c : Controller C) (vertices : List (Point Float)) :
    Tells c (c.saidBy (.gesture vertices)) (c.gestureFinished vertices) := by
  by_cases h : c.merged vertices = c.selection
  · rw [gestureFinished_unchanged h, saidBy, if_pos h]
    exact .of_silent rfl rfl rfl
  · have hkind : EventKind.selectionChanged.bits ≠ 0 := by decide
    rw [gestureFinished_changed h, saidBy, if_neg h]
    refine .of_notice rfl rfl rfl ⟨nofun, fun _ hsame => ?_, nofun⟩ (EventKind.all_accepts hkind)
    exact h (Selection.indices_inj.mp (Option.some.inj hsame))

theorem tells_honour (c : Controller C) (r : Requests) :
    Tells c ((if r.clearSelection then saidOnSelecting .empty else []) ++
      if r.disconnect then c.saidOnDisconnecting else []) (c.honour r) := by
  have hclear : Tells c (if r.clearSelection then saidOnSelecting .empty else [])
      (c.clearedIf r.clearSelection) := by
    unfold clearedIf
    split
    · exact tells_select c []
    · exact .refl c
  have hattached : (c.clearedIf r.clearSelection).saidOnDisconnecting = c.saidOnDisconnecting := by
    unfold clearedIf
    split
    · rw [clear_eq]
      rfl
    · rfl
  rw [honour_eq]
  by_cases hd : r.disconnect = true
  · rw [if_pos hd, if_pos hd, ← hattached]
    exact hclear.trans (tells_disconnect _)
  · rw [if_neg hd, if_neg hd, List.append_nil]
    exact hclear

theorem tells_buttonClicked (c : Controller C) (index : Nat) :
    Tells c (c.saidBy (.buttonClick index)) (c.buttonClicked index) := by
  cases hb : c.hud.buttons[index]? with
  | none =>
    rw [buttonClicked_of_missing hb, saidBy, hb]
    exact .of_silent rfl rfl rfl
  | some b =>
    have hkind : EventKind.buttonClicked.bits ≠ 0 := by decide
    have hclick : Tells c [{ kinds := .buttonClicked, button := some b.label }]
        (c.afterCallback index b.label) :=
      .of_notice rfl rfl rfl ⟨nofun, nofun, nofun⟩ (EventKind.all_accepts hkind)
    have hhonour := tells_honour (c.afterCallback index b.label)
      ⟨decide (.disconnect ∈ b.requests), decide (.clearSelection ∈ b.requests)⟩
    simp only [decide_eq_true_eq] at hhonour
    rw [buttonClicked_eq hb, requestsOf_eq hb, saidBy, hb]
    exact hclick.trans hhonour

theorem tells_dispatch (c : Controller C) (event : UserEvent) :
    Tells c (c.saidBy event) (c.dispatch event) := by
  cases event with
  | pointerEnter =>
    rw [dispatch, pointerEntered_eq]
    exact .of_notice rfl rfl rfl (.of_connection nofun (by decide) (by decide))
      (EventKind.all_accepts (by decide))
  | pointerExit =>
    rw [dispatch, pointerExited_eq]
    exact .of_notice rfl rfl rfl (.of_connection nofun (by decide) (by decide))
      (EventKind.all_accepts (by decide))
  | keyDown key =>
    by_cases hk : key = c.settings.additiveKey
    · rw [dispatch, keyPressed_eq hk]
      exact .of_silent rfl rfl rfl
    · rw [dispatch, keyPressed_of_ne hk]
      exact .refl c
  | keyUp key =>
    by_cases hk : key = c.settings.additiveKey
    · rw [dispatch, keyReleased_eq hk]
      exact .of_silent rfl rfl rfl
    · rw [dispatch, keyReleased_of_ne hk]
      exact .refl c
  | gesture vertices => exact tells_gestureFinished c vertices
  | buttonClick index => exact tells_buttonClicked c index
  | close => exact tells_disconnect c

/-- A step says what `said` lists, unless it goes past the controller. -/
theorem step_tells (c : Controller C) {s : Step} (hop : s.operation = none)
    (hvisible : ∀ visible, s ≠ .setVisible visible) : Tells c (c.said s) (c.step s) := by
  cases s with
  | connect => exact tells_connect c
  | disconnect => exact tells_disconnect c
  | clear => exact tells_select c []
  | select indices => exact tells_select c indices
  | dispatch event => exact tells_dispatch c event
  | handle event =>
    exact handle_cases (P := fun e => Tells c (e.elim [] c.saidBy)) c event (.refl c)
      (tells_dispatch c event)
  | clickHud index =>
    simp only [step]
    split
    · exact .refl c
    · rename_i hclick
      obtain ⟨b, -, hb⟩ := Option.map_eq_some_iff.mp hclick
      cases hb
      exact .of_silent rfl rfl rfl
  | setVisible visible => exact absurd rfl (hvisible visible)
  | subscribe mask => cases hop
  | dropReceiver receiver => cases hop
  | drain => cases hop
  | emit n => cases hop
  | _ => exact .of_silent rfl rfl rfl

/-- A step that concerns the broadcast alone. -/
theorem step_operation (c : Controller C) {s : Step} {op : Broadcast.Operation}
    (hop : s.operation = some op) : c.step s = { c with bus := c.bus.apply op } := by
  cases s with
  | subscribe mask => cases hop; rfl
  | dropReceiver receiver => cases hop; rfl
  | drain => cases hop; rfl
  | emit n => cases hop; rfl
  | _ => cases hop

/-! ## What a subscriber hears -/

/-- What a receiver took in a history, and what waits for it at the end. -/
def heard (k : Nat) (past : List (Controller C × Step)) (c : Controller C) : List Notice :=
  (past.flatMap fun p => p.2.operation.elim [] (p.1.bus.taken k)) ++ c.bus.pending k

/-- A subscriber that heard everything knows all there is to know. -/
structure Informs (k : Nat) (c : Controller C) (past : List (Controller C × Step)) : Prop where
  publishes : c.publishes = true
  serves : c.bus.Serves k .all
  account : c.account = (heard k past c).foldl Account.after .initial
  follows : Account.initial.Follows (heard k past c)

namespace Informs

variable {k : Nat} {c : Controller C} {past : List (Controller C × Step)}

/-- A step that says something is heard. -/
theorem of_tells (h : Informs k c past) {s : Step} (hop : s.operation = none)
    (hs : Tells c (c.said s) (c.step s)) : Informs k (c.step s) (past ++ [(c, s)]) := by
  have hbus := hs.bus h.publishes
  have hheard : heard k (past ++ [(c, s)]) (c.step s) = heard k past c ++ c.said s := by
    have hall : (c.said s).filter EventKind.all.accepts = c.said s :=
      List.filter_eq_self.mpr hs.audible
    rw [heard, heard, hbus, h.serves.pending_run_emit, hall, List.flatMap_append]
    simp [hop]
  have hkept : Broadcast.Operation.drop k ∉ (c.said s).map .emit := by simp
  refine ⟨hs.publishes.trans h.publishes, ?_, ?_, ?_⟩
  · rw [hbus]
    exact h.serves.run hkept
  · rw [hheard, List.foldl_append, ← h.account]
    exact hs.account
  · rw [hheard, Account.follows_append, ← h.account]
    exact ⟨h.follows, hs.follows⟩

/-- Taking notices loses none, and what other subscribers do does not matter. -/
theorem of_operation (h : Informs k c past) {s : Step} {op : Broadcast.Operation}
    (hop : s.operation = some op) (hkept : op ≠ .drop k) (hquiet : Broadcast.emitted [op] = []) :
    Informs k (c.step s) (past ++ [(c, s)]) := by
  have hheard : heard k (past ++ [(c, s)]) (c.step s) = heard k past c := by
    have htaken := h.serves.taken_append_pending hkept
    rw [hquiet, List.filter_nil, List.append_nil] at htaken
    rw [heard, heard, List.flatMap_append, ← htaken, List.append_assoc, step_operation c hop]
    simp [hop]
  refine ⟨?_, ?_, ?_, ?_⟩
  · rw [step_operation c hop]
    exact h.publishes
  · rw [step_operation c hop]
    exact h.serves.apply hkept
  · rw [hheard, ← h.account, step_operation c hop]
    rfl
  · rw [hheard]
    exact h.follows

theorem step (h : Informs k c past) {s : Step} (hs : s.interferes k = false) :
    Informs k (c.step s) (past ++ [(c, s)]) := by
  cases s with
  | subscribe mask => exact h.of_operation rfl nofun rfl
  | dropReceiver receiver =>
    refine h.of_operation rfl (fun hdrop => ?_) rfl
    obtain rfl := Broadcast.Operation.drop.inj hdrop
    simp [Step.interferes] at hs
  | drain => exact h.of_operation rfl nofun rfl
  | emit n => cases hs
  | setVisible visible => cases hs
  | _ => exact h.of_tells rfl (step_tells c rfl nofun)

end Informs

/-- A subscriber to everything from before the first step can tell at any time, from what it heard
so far, whether the controller is connected, whether its strip is visible and what is selected.
Connecting and disconnecting alternate, and a change of the selection is one. -/
theorem run_notices_tell_state (canvas : C) (points : List (Point Float))
    (settings : SelectionSettings) (layout : HudSettings) (earlier : List Broadcast.Operation)
    (steps : List Step)
    (hsteps : ∀ s ∈ steps, s.interferes (Broadcast.empty.run earlier).receivers.length = false) :
    let bus := Broadcast.empty.run earlier
    let start := (new canvas points settings layout).withEvents (bus.subscribe .all)
    let c := start.run steps
    let heard := heard bus.receivers.length (start.history steps) c
    (c.isConnected = true ↔ lastSaid Notice.connection heard = some true) ∧
      (c.hud.visible = true ↔ lastSaid Notice.visibility heard = some true) ∧
      c.selection.indices = (lastSaid Notice.selected heard).getD [] ∧
      (false :: heard.filterMap Notice.connection).IsChain (· ≠ ·) ∧
      ∀ before n rest, heard = before ++ n :: rest →
        (n.kinds = .selectionChanged →
          n.selection ≠ some ((lastSaid Notice.selected before).getD [])) ∧
        (n.kinds = .selectionChanged ∨ n.kinds = .selectionSet → n.selection ≠ none) := by
  intro bus start c heard
  have h : Informs bus.receivers.length c (start.history steps) := by
    refine run_induction (P := Informs bus.receivers.length) ?_ ?_ hsteps
    · have hserves : Broadcast.Serves start.bus bus.receivers.length .all :=
        (Broadcast.numbered_empty.run earlier).subscribe .all
      have hnothing : Controller.heard bus.receivers.length [] start = [] := by
        simp [Controller.heard, start, withEvents, Broadcast.pending, Broadcast.subscribe]
      refine ⟨rfl, hserves, ?_, ?_⟩
      · rw [hnothing]
        rfl
      · rw [hnothing]
        exact trivial
    · exact fun c past s hs hc => hc.step hs
  have haccount : c.account = heard.foldl Account.after .initial := h.account
  rw [Account.foldl_after] at haccount
  obtain ⟨hconnected, hvisible, hselected⟩ := Account.mk.inj haccount
  have hsaid (b : Option Bool) : b.getD false = true ↔ b = some true := by
    cases b <;> simp
  refine ⟨?_, ?_, hselected, h.follows.alternates, fun before n rest hsplit => ?_⟩
  · rw [hconnected]
    exact hsaid _
  · rw [hvisible]
    exact hsaid _
  · have hfollows : Account.initial.Follows (before ++ n :: rest) := hsplit ▸ h.follows
    have hnews := hfollows.news
    rw [Account.foldl_after] at hnews
    exact ⟨hnews.changed, hnews.carried⟩

/-- A click on a point and one on a button whose callback clears and disconnects, read off the
notices: connecting twice and repeating the click are not told. -/
theorem notices_tell_of_clearing_click :
    let steps : List Step := [.register "reset" .none [.disconnect, .clearSelection], .connect,
      .connect, .drain, .handle .pointerEnter, .handle (.gesture [⟨0.5, 0.5⟩]),
      .handle (.gesture [⟨0.5, 0.5⟩]), .handle (.buttonClick 0), .disconnect]
    let told : List Notice := [{ kinds := .connected }, { kinds := .hudShown },
      { kinds := .selectionChanged, selection := some [0] },
      { kinds := .buttonClicked, button := some "reset" },
      { kinds := .selectionSet, selection := some [] }, { kinds := .disconnected }]
    let bus := Broadcast.empty.run [.subscribe .hudShown, .drop 0]
    let start := (new (Headless.ofView .unit) [⟨0.5, 0.5⟩] {} {}).withEvents (bus.subscribe .all)
    let c := start.run steps
    (∀ s ∈ steps, s.interferes bus.receivers.length = false) ∧
      heard bus.receivers.length (start.history steps) c = told ∧
      c.isConnected = false ∧ c.hud.visible = false ∧ c.selection.indices = [] := by
  intro steps told bus start c
  have hsteps : ∀ s ∈ steps, s.interferes bus.receivers.length = false := by
    simp [steps, Step.interferes]
  have hheard : heard bus.receivers.length (start.history steps) c = told := by decide +kernel
  obtain ⟨hconnected, hvisible, hselected, -⟩ := run_notices_tell_state (Headless.ofView .unit)
    [⟨0.5, 0.5⟩] {} {} [.subscribe .hudShown, .drop 0] steps hsteps
  refine ⟨hsteps, hheard, ?_⟩
  simp only [c, start, bus] at hheard ⊢
  rw [hheard] at hconnected hvisible hselected
  rw [Bool.eq_false_iff, Bool.eq_false_iff, ne_eq, ne_eq, hconnected, hvisible, hselected]
  decide

end Controller

end ScatterPick
