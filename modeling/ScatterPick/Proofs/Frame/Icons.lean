import ScatterPick.Proofs.Config.Sanitizing
import ScatterPick.Proofs.Frame.Recording
import ScatterPick.Proofs.Hud.Lookups

/-!
# Icons in a window

Buttons are appended and keep their icons, and nothing but frames looks pictures up. So in every run
an icon is decoded once, in the first frame that shows its button: a failure is logged then and not
again, and whatever was found is what all later frames find.
-/

namespace ScatterPick

/-! ## Buttons -/

namespace Hud

/-- The icons of the buttons in order. -/
def icons (h : Hud) : List Icon := h.buttons.map (·.icon)

/-- A button that changes in another respect keeps its icon. -/
theorem map_icon_modify (buttons : List Button) (index : Nat) {f : Button → Button}
    (hf : ∀ b, (f b).icon = b.icon) :
    (buttons.modify index f).map (·.icon) = buttons.map (·.icon) := by
  refine List.ext_getElem? fun k => ?_
  rw [List.getElem?_map, List.getElem?_modify, List.getElem?_map]
  cases buttons[k]? with
  | none => rfl
  | some b =>
    by_cases hk : index = k
    · simp [hk, hf]
    · simp [hk]

theorem icons_setHover (h : Hud) (index : Nat) (hovered : Bool) :
    (h.setHover index hovered).icons = h.icons :=
  map_icon_modify h.buttons index fun _ => rfl

theorem icons_revise (h : Hud) (index : Nat) (requests : List Request) :
    (h.revise index requests).icons = h.icons :=
  map_icon_modify h.buttons index fun _ => rfl

theorem icons_push (h : Hud) (b : Button) : (h.push b).icons = h.icons ++ [b.icon] := by
  rw [icons, push, List.map_append]
  rfl

end Hud

/-- The failure of an icon that an effect tells of. -/
def Effect.iconFailure? : Effect → Option (Nat × ImageFailure)
  | .logged (.iconFailed index cause) => some (index, cause)
  | _ => none

namespace Controller

/-- The failures of icons that were logged so far, with the indices of the buttons. -/
def iconFailures {C : Type} (c : Controller C) : List (Nat × ImageFailure) :=
  c.trace.filterMap (·.iconFailure?)

/-! ## What leaves the icons to frames -/

section Host

variable {C : Type}

theorem iconFailures_sent (c : Controller C) (n : Notice) :
    (c.sent n).filterMap (·.iconFailure?) = [] := by
  unfold sent
  split
  · rfl
  · rfl

theorem iconFailures_callbackEffects (c : Controller C) (indices : List Nat) :
    (c.callbackEffects indices).filterMap (·.iconFailure?) = [] := by
  rw [callbackEffects, List.filterMap_map]
  exact List.filterMap_eq_nil_iff.mpr fun _ _ => rfl

/-- `c'` comes from `c` without a failure of an icon, and each button has its icon still. -/
structure Spares (c c' : Controller C) : Prop where
  failures : c'.iconFailures = c.iconFailures
  icons : c.hud.icons <+: c'.hud.icons

namespace Spares

/-- An operation that tells of no icon and changes none. -/
theorem of_quiet {c c' : Controller C} {effects : List Effect}
    (htrace : c'.trace = c.trace ++ effects) (hquiet : effects.filterMap (·.iconFailure?) = [])
    (hicons : c'.hud.icons = c.hud.icons) : Spares c c' := by
  refine ⟨?_, hicons ▸ List.prefix_rfl⟩
  rw [iconFailures, htrace, List.filterMap_append, hquiet, List.append_nil]
  rfl

/-- An operation that leaves the trace alone tells of nothing. -/
theorem of_silent {c c' : Controller C} (htrace : c'.trace = c.trace)
    (hicons : c'.hud.icons = c.hud.icons) : Spares c c' :=
  of_quiet (htrace.trans (List.append_nil _).symm) rfl hicons

/-- A notice tells of no icon. -/
theorem of_told {c c' : Controller C} {effects : List Effect} {n : Notice}
    (htrace : c'.trace = c.trace ++ effects ++ c.sent n)
    (hquiet : effects.filterMap (·.iconFailure?) = [])
    (hicons : c'.hud.icons = c.hud.icons) : Spares c c' := by
  refine of_quiet (htrace.trans (List.append_assoc ..)) ?_ hicons
  rw [List.filterMap_append, hquiet, iconFailures_sent]
  rfl

theorem refl (c : Controller C) : Spares c c := of_silent rfl rfl

theorem trans {c c' c'' : Controller C} (h : Spares c c') (h' : Spares c' c'') : Spares c c'' :=
  ⟨h'.failures.trans h.failures, h.icons.trans h'.icons⟩

end Spares

variable [Canvas C]

theorem spares_connect (c : Controller C) : Spares c c.connect := by
  by_cases h : c.attached = []
  · rw [connect_eq h]
    exact .of_told rfl rfl rfl
  · rw [connect_of_connected h]
    exact .refl c

theorem spares_disconnect (c : Controller C) : Spares c c.disconnect := by
  by_cases h : c.attached = []
  · rw [disconnect_of_disconnected h]
    exact .refl c
  · rw [disconnect_eq h]
    exact .of_told rfl rfl rfl

theorem spares_select (c : Controller C) (indices : List Nat) : Spares c (c.select indices) := by
  rw [select_eq]
  refine .of_told rfl ?_ rfl
  split
  · rfl
  · rfl

theorem spares_gestureFinished (c : Controller C) (vertices : List (Point Float)) :
    Spares c (c.gestureFinished vertices) := by
  by_cases h : c.merged vertices = c.selection
  · rw [gestureFinished_unchanged h]
    exact .of_quiet rfl rfl rfl
  · rw [gestureFinished_changed h]
    refine .of_told (congrArg (· ++ _) (List.append_assoc ..)) ?_ rfl
    rw [List.filterMap_append, iconFailures_callbackEffects]
    rfl

theorem spares_honour (c : Controller C) (r : Requests) : Spares c (c.honour r) := by
  have hclear : Spares c (c.clearedIf r.clearSelection) := by
    unfold clearedIf
    split
    · exact spares_select c []
    · exact .refl c
  rw [honour_eq]
  split
  · exact hclear.trans (spares_disconnect _)
  · exact hclear

theorem spares_buttonClicked (c : Controller C) (index : Nat) :
    Spares c (c.buttonClicked index) := by
  cases hb : c.hud.buttons[index]? with
  | none =>
    rw [buttonClicked_of_missing hb]
    exact .of_quiet rfl rfl rfl
  | some b =>
    have hcallback : Spares c (c.afterCallback index b.label) :=
      .of_told (congrArg (· ++ _) (List.append_assoc ..)) rfl (c.hud.icons_setHover index false)
    rw [buttonClicked_eq hb]
    exact hcallback.trans (spares_honour _ _)

theorem spares_dispatch (c : Controller C) (event : UserEvent) : Spares c (c.dispatch event) := by
  cases event with
  | pointerEnter =>
    rw [dispatch, pointerEntered_eq]
    exact .of_told rfl rfl rfl
  | pointerExit =>
    rw [dispatch, pointerExited_eq]
    exact .of_told rfl rfl rfl
  | keyDown key =>
    by_cases hk : key = c.settings.additiveKey
    · rw [dispatch, keyPressed_eq hk]
      exact .of_quiet rfl rfl rfl
    · rw [dispatch, keyPressed_of_ne hk]
      exact .refl c
  | keyUp key =>
    by_cases hk : key = c.settings.additiveKey
    · rw [dispatch, keyReleased_eq hk]
      exact .of_silent rfl rfl
    · rw [dispatch, keyReleased_of_ne hk]
      exact .refl c
  | gesture vertices => exact spares_gestureFinished c vertices
  | buttonClick index => exact spares_buttonClicked c index
  | close => exact spares_disconnect c

omit [Canvas C] in
/-- A button is appended behind the others. -/
theorem spares_register (c : Controller C) (label : String) (icon : Icon)
    (requests : List Request) : Spares c (c.register label icon requests) := by
  refine ⟨?_, ?_⟩
  · rw [iconFailures, register, log, record, List.filterMap_append]
    exact List.append_nil _
  · exact ⟨[icon], (c.hud.icons_push { label, icon, requests }).symm⟩

/-- Whatever the host program does leaves the icons to frames. -/
theorem spares_step (c : Controller C) (s : Step) : Spares c (c.step s) := by
  cases s with
  | connect => exact spares_connect c
  | disconnect => exact spares_disconnect c
  | clear => exact spares_select c []
  | select indices => exact spares_select c indices
  | dispatch event => exact spares_dispatch c event
  | handle event =>
    exact handle_cases (P := fun _ => Spares c) c event (.refl c) (spares_dispatch c event)
  | register label icon requests => exact spares_register c label icon requests
  | registerSync requests => exact spares_register c "sync" .sync requests
  | registerDisconnect => exact spares_register c "disconnect" .disconnect [.disconnect]
  | revise index requests => exact .of_silent rfl (c.hud.icons_revise index requests)
  | setHover index hovered => exact .of_silent rfl (c.hud.icons_setHover index hovered)
  | clickHud index =>
    simp only [step, Hud.click]
    cases c.hud.buttons[index]? with
    | none => exact .refl c
    | some b => exact .of_quiet rfl rfl (c.hud.icons_setHover index false)
  | _ => exact .of_silent rfl rfl

end Host

/-! ## A frame -/

/-- The request for the picture of a button. -/
def pictureOf? (i : FrameInput) (h : Hud) (index : Nat) : Option PictureRequest :=
  h.icons[index]?.map fun icon => ⟨index, icon, buttonPixels i h index⟩

/-- The pictures that something asks for: a frame asks for those of the buttons that it shows. -/
def picturesAsked : Controller Windowed × WindowStep → List PictureRequest
  | (c, .frame i) => c.shownButtons.filterMap (pictureOf? i c.hud)
  | (_, .host _) => []

/-- What the cache of the canvas answers something that happens. -/
def answersOf (d : Decoders) (p : Controller Windowed × WindowStep) : List PictureAnswer :=
  p.1.canvas.icons.answers d (picturesAsked p)

/-- `c'` comes from `c` by looking up pictures: the cache is the one after these requests, what
could not be decoded is logged, and each button has its icon still. -/
structure Looks (d : Decoders) (c : Controller Windowed) (asked : List PictureRequest)
    (c' : Controller Windowed) : Prop where
  cache : c'.canvas.icons = c.canvas.icons.afterAll d asked
  failures : c'.iconFailures = c.iconFailures ++
    failuresOf ((c.canvas.icons.answers d asked).filterMap (·.decoding?))
  icons : c.hud.icons <+: c'.hud.icons

namespace Looks

variable {d : Decoders} {c c' c'' : Controller Windowed} {asked more : List PictureRequest}

theorem of_spares (h : Spares c c') (hcache : c'.canvas.icons = c.canvas.icons) :
    Looks d c [] c' :=
  ⟨hcache, h.failures.trans (List.append_nil _).symm, h.icons⟩

theorem trans (h : Looks d c asked c') (h' : Looks d c' more c'') :
    Looks d c (asked ++ more) c'' := by
  refine ⟨?_, ?_, h.icons.trans h'.icons⟩
  · rw [h'.cache, h.cache, PictureCache.afterAll, PictureCache.afterAll, PictureCache.afterAll,
      List.foldl_append]
  · rw [h'.failures, h.failures, h.cache, PictureCache.answers_append, List.filterMap_append,
      failuresOf_append, List.append_assoc]

end Looks

variable (d : Decoders) (i : FrameInput) (c : Controller Windowed)

theorem pictureOf?_setHover (h : Hud) (hovering : Nat) (hovered : Bool) :
    pictureOf? i (h.setHover hovering hovered) = pictureOf? i h := by
  funext index
  have hpixels : buttonPixels i (h.setHover hovering hovered) index = buttonPixels i h index := by
    simp [buttonPixels, Hud.buttonRect, Hud.setHover]
  rw [pictureOf?, h.icons_setHover, hpixels]
  rfl

/-- Showing a button changes the cache and whether the button is hovered, and logs what could not be
decoded. -/
theorem showButton_eq {index : Nat} {b : Button} (hb : c.hud.buttons[index]? = some b) :
    let r : PictureRequest := ⟨index, b.icon, buttonPixels i c.hud index⟩
    c.showButton d i index = { c with
      canvas := { c.canvas with icons := c.canvas.icons.after d r }
      hud := c.hud.setHover index (i.touch index).hovered
      trace := c.trace ++ ((c.canvas.icons.answer d r).found.failure?.map fun cause =>
        .logged (.iconFailed index cause)).toList } := by
  intro r
  have hfound : (c.canvas.icons.answer d r).found =
    (c.canvas.icons.lookup d index b.icon (buttonPixels i c.hud index)).2 := rfl
  rw [showButton, hb, hfound]
  dsimp only
  cases (c.canvas.icons.lookup d index b.icon (buttonPixels i c.hud index)).2.failure? with
  | none =>
    rw [Option.map_none, Option.toList_none, List.append_nil]
    rfl
  | some cause => rfl

/-- Showing a button looks up its picture, and what other buttons ask for stays the same. -/
theorem looks_showButton (index : Nat) :
    Looks d c (pictureOf? i c.hud index).toList (c.showButton d i index) ∧
      pictureOf? i (c.showButton d i index).hud = pictureOf? i c.hud := by
  have hasked : pictureOf? i c.hud index =
      c.hud.buttons[index]?.map fun b => ⟨index, b.icon, buttonPixels i c.hud index⟩ := by
    rw [pictureOf?, Hud.icons, List.getElem?_map, Option.map_map]
    rfl
  rw [hasked]
  cases hb : c.hud.buttons[index]? with
  | none =>
    rw [showButton, hb]
    exact ⟨.of_spares (.refl c) rfl, rfl⟩
  | some b =>
    rw [showButton_eq d i c hb]
    refine ⟨⟨rfl, ?_, ?_⟩, pictureOf?_setHover i c.hud index _⟩
    · have hlogged := (c.canvas.icons.answer d
        ⟨index, b.icon, buttonPixels i c.hud index⟩).failuresOf_singleton
      rw [iconFailures, List.filterMap_append, ← iconFailures, Option.map_some, Option.toList_some,
        PictureCache.answers, PictureCache.answers, hlogged]
      cases (c.canvas.icons.answer d
        ⟨index, b.icon, buttonPixels i c.hud index⟩).found.failure? with
      | none => rfl
      | some cause => rfl
    · have hsame := c.hud.icons_setHover index (i.touch index).hovered
      exact ⟨[], (List.append_nil _).trans hsame.symm⟩

/-- A frame looks up the pictures of the buttons that it shows. -/
theorem looks_showButtons :
    Looks d c (picturesAsked (c, .frame i)) (c.showButtons d i) := by
  rw [showButtons, picturesAsked]
  generalize c.shownButtons = indices
  induction indices generalizing c with
  | nil => exact .of_spares (.refl c) rfl
  | cons index rest ih =>
    obtain ⟨hfirst, hsame⟩ := looks_showButton d i c index
    have hrest := ih (c.showButton d i index)
    rw [hsame] at hrest
    have hboth := hfirst.trans hrest
    rw [List.foldl_cons]
    cases hr : pictureOf? i c.hud index with
    | none =>
      rw [hr] at hboth
      rw [List.filterMap_cons_none hr]
      exact hboth
    | some r =>
      rw [hr] at hboth
      rw [List.filterMap_cons_some hr]
      exact hboth

/-- The host program and events leave the cache alone. -/
theorem looks_step (s : Step) : Looks d c [] (c.step s) := by
  refine .of_spares (spares_step c s) ?_
  have hreplayed : c.step s = (c.onStandIn.step s).onto c.canvas.replay := run_windowed c [s]
  rw [hreplayed]
  rfl

theorem looks_foldl_handle (events : List UserEvent) : Looks d c [] (events.foldl handle c) := by
  induction events generalizing c with
  | nil => exact .of_spares (.refl c) rfl
  | cons event rest ih => exact (looks_step d c (.handle event)).trans (ih _)

/-- What happens looks up the pictures that it asks for. -/
theorem looks_windowStep (s : WindowStep) :
    Looks d c (picturesAsked (c, s)) (c.windowStep d s) := by
  cases s with
  | frame i =>
    have hobserved : Looks d (c.showButtons d i) [] (c.observeFrame d i).1 := by
      refine .of_spares (.of_silent rfl rfl) ?_
      have hobserve := observe_eq i c.hud.layout c.settings.additiveKey (c.overButton i)
        (c.showButtons d i).canvas
      rw [observeFrame, hobserve]
    have hhandled := looks_foldl_handle d (c.observeFrame d i).1 (c.observeFrame d i).2
    have hended : Looks d ((c.observeFrame d i).2.foldl handle (c.observeFrame d i).1) []
        (c.frame d i) := .of_spares (.of_silent rfl rfl) rfl
    have hall := (looks_showButtons d i c).trans (hobserved.trans (hhandled.trans hended))
    rwa [List.append_nil, List.append_nil, List.append_nil] at hall
  | host s => exact looks_step d c s

theorem icon_of_mem_picturesAsked {c : Controller Windowed} {s : WindowStep} {r : PictureRequest}
    (hr : r ∈ picturesAsked (c, s)) : c.hud.icons[r.index]? = some r.icon := by
  cases s with
  | frame i =>
    obtain ⟨index, -, hasked⟩ := List.mem_filterMap.mp hr
    obtain ⟨icon, hicon, rfl⟩ := Option.map_eq_some_iff.mp hasked
    exact hicon
  | host s => cases hr

/-! ## Runs -/

/-- A run looks up the pictures that its steps ask for, one after the other in one cache, and each
button has the icon still for which it was asked. -/
theorem looks_runWindow (steps : List WindowStep) :
    let past := c.windowHistory d steps
    let asked := past.flatMap picturesAsked
    let c' := c.runWindow d steps
    Looks d c asked c' ∧ past.flatMap (answersOf d) = c.canvas.icons.answers d asked ∧
      ∀ r ∈ asked, c'.hud.icons[r.index]? = some r.icon := by
  refine runWindow_induction d
    (P := fun c' past => Looks d c (past.flatMap picturesAsked) c' ∧
      past.flatMap (answersOf d) = c.canvas.icons.answers d (past.flatMap picturesAsked) ∧
      ∀ r ∈ past.flatMap picturesAsked, c'.hud.icons[r.index]? = some r.icon)
    ⟨.of_spares (.refl c) rfl, rfl, nofun⟩ (fun c' past s (_ : True) h => ?_) (fun _ _ => trivial)
  obtain ⟨hlooks, hanswers, hicons⟩ := h
  have hstep := looks_windowStep d c' s
  rw [List.flatMap_append, List.flatMap_append, List.flatMap_singleton, List.flatMap_singleton]
  refine ⟨hlooks.trans hstep, ?_, fun r hr => ?_⟩
  · rw [hanswers, PictureCache.answers_append, ← hlooks.cache]
    rfl
  · have hbefore : c'.hud.icons[r.index]? = some r.icon := by
      rcases List.mem_append.mp hr with hr | hr
      · exact hicons r hr
      · exact icon_of_mem_picturesAsked hr
    obtain ⟨hindex, -⟩ := List.getElem?_eq_some_iff.mp hbefore
    obtain ⟨more, hmore⟩ := hstep.icons
    rw [← hmore, List.getElem?_append_left hindex]
    exact hbefore

/-- No failure is logged before the first frame. -/
theorem iconFailures_new (look : MarkerLook) (points : List (Point Float))
    (settings : SelectionSettings) (layout : HudSettings) (publishes : Bool) :
    (new (Windowed.ofLook look) points settings layout publishes).iconFailures = [] := by
  refine List.filterMap_eq_nil_iff.mpr fun e he => ?_
  obtain ⟨entry, hentry, rfl⟩ := List.mem_map.mp he
  have hlevel := settings.level_of_mem_warnings hentry
  cases entry with
  | iconFailed index cause => cases hlevel
  | _ => rfl

/-- What the cache keeps and what was logged is what was decoded, once for each button at most. -/
structure Keeps (decodings : List (Nat × Except ImageFailure Picture)) : Prop where
  once : (decodings.map (·.1)).Nodup
  drawn : c.canvas.icons.drawn = (picturesOf decodings).reverse
  failed : c.canvas.icons.failed = (failuresOf decodings).reverse
  /-- No button has both a picture and a failure. -/
  disjoint : ∀ index, c.canvas.icons.hasFailed index = true → c.canvas.icons.picture? index = none
  logged : c.iconFailures = failuresOf decodings
  loggedOnce : (c.iconFailures.map (·.1)).Nodup

/-- A request is answered from the cache, which stays as it is. -/
def Recalls (r : PictureRequest) (picture : Option Picture) : Prop :=
  c.canvas.icons.lookup d r.index r.icon r.size = (c.canvas.icons, ⟨picture, none⟩)

/-- Nothing is kept under an index, and no failure of it was logged. -/
structure Untouched (index : Nat) : Prop where
  picture : c.canvas.icons.picture? index = none
  failed : c.canvas.icons.hasFailed index = false
  logged : ∀ cause, (index, cause) ∉ c.iconFailures

/-- Whatever happens in a window, each icon is decoded once, namely for the first frame that shows
its button. Every later frame finds the picture of then, or none after a failure, whatever size it
asks for. What was decoded is what the cache keeps, and its failures are those in the log. A button
that was asked for has its icon still, and to ask again, in any size, decodes nothing. An icon
without a picture is never decoded nor kept, and no failure of it is logged. -/
theorem runWindow_icons_decoded_once (look : MarkerLook) (points : List (Point Float))
    (settings : SelectionSettings) (layout : HudSettings) (publishes : Bool)
    (steps : List WindowStep) :
    let start := new (Windowed.ofLook look) points settings layout publishes
    let c := start.runWindow d steps
    let answers := (start.windowHistory d steps).flatMap (answersOf d)
    PictureCache.DecodesOnce d answers ∧ c.Keeps (answers.filterMap (·.decoding?)) ∧
      (∀ a ∈ answers, c.hud.icons[a.request.index]? = some a.request.icon ∧
        ∀ size, c.Recalls d ⟨a.request.index, a.request.icon, size⟩ a.found.picture) ∧
      ∀ index icon, c.hud.icons[index]? = some icon → icon.isEncoded = false →
        (∀ a ∈ answers, a.request.index = index → a.found = ⟨none, none⟩) ∧ c.Untouched index := by
  intro start c answers
  obtain ⟨hlooks, hanswers, hicons⟩ := looks_runWindow d start steps
  generalize (start.windowHistory d steps).flatMap picturesAsked = asked at hlooks hanswers hicons
  have hanswered : answers = PictureCache.empty.answers d asked := hanswers
  have hcache : c.canvas.icons = PictureCache.empty.afterAll d asked := hlooks.cache
  have hkeeps : KeepsIcons asked := by
    intro r hr s hs hindex
    have hboth := hicons r hr
    rw [hindex, hicons s hs] at hboth
    exact (Option.some.inj hboth).symm
  have honce : PictureCache.DecodesOnce d answers := by
    rw [hanswered]
    exact PictureCache.decodesOnce_answers hkeeps
  have hgave : PictureCache.Gave answers c.canvas.icons := by
    rw [hanswered, hcache]
    exact PictureCache.gave_answers hkeeps
  have hlogged : c.iconFailures = failuresOf (answers.filterMap (·.decoding?)) := by
    have hfailures := hlooks.failures
    rw [iconFailures_new, ← hanswers] at hfailures
    exact hfailures
  have hkept : c.Keeps (answers.filterMap (·.decoding?)) := by
    obtain ⟨hdrawn, hfailed⟩ := PictureCache.kept_afterAll (d := d) (c := .empty) asked
    rw [← hcache, ← hanswered] at hdrawn hfailed
    refine ⟨honce.nodup, hdrawn.trans (List.append_nil _), hfailed.trans (List.append_nil _),
      fun _ => hgave.disjoint, hlogged, ?_⟩
    rw [hlogged]
    exact nodup_failuresOf honce.nodup
  have hhas (a : PictureAnswer) (ha : a ∈ answers) :
      c.hud.icons[a.request.index]? = some a.request.icon := by
    rw [hanswered] at ha
    exact hicons a.request (PictureCache.request_of_mem_answers ha)
  refine ⟨honce, hkept, fun a ha => ⟨hhas a ha, (hgave.told a ha).lookup_again⟩, ?_⟩
  intro index icon hicon hplain
  have hsame (a : PictureAnswer) (ha : a ∈ answers) (hindex : a.request.index = index) :
      a.request.icon.isEncoded = false := by
    have hboth := hhas a ha
    rw [hindex, hicon] at hboth
    rw [← Option.some.inj hboth]
    exact hplain
  obtain ⟨hpicture, hfailed⟩ :
      c.canvas.icons.picture? index = none ∧ c.canvas.icons.hasFailed index = false := by
    by_cases hasked : ∃ a ∈ answers, a.request.index = index
    · obtain ⟨a, ha, hindex⟩ := hasked
      have htold := hgave.told a ha
      have hnone := htold.plain (hsame a ha hindex)
      rw [← hindex, htold.picture, htold.failed, hnone, hsame a ha hindex]
      exact ⟨rfl, rfl⟩
    · exact hgave.unasked index fun a ha hindex => hasked ⟨a, ha, hindex⟩
  refine ⟨fun a ha hindex => (hgave.told a ha).plain (hsame a ha hindex), hpicture, hfailed, ?_⟩
  intro cause hcause
  rw [hlogged, ← List.mem_reverse, ← hkept.failed] at hcause
  have hno := List.any_eq_false.mp hfailed _ hcause
  exact hno (beq_self_eq_true index)

/-- A drawing is shown in a large frame, then in a small one and again in a large one, beside a
picture that cannot be read and a glyph. It is drawn for the first frame alone, and the failure of
the picture is logged once and not found out again in any size. -/
theorem icons_shown_in_three_frames :
    let d : Decoders :=
      { drawing := fun _ size => .ok ⟨size, size, #[]⟩, picture := fun _ => .error .undecodable }
    let large : FrameInput :=
      { available := 1200.0, frame := ⟨0.0, 200.0, 1000.0, 1200.0⟩, view := .unit
        pointer := none, place := none, pressed := false, down := false
        released := false, touches := [], modifiers := {}, strokes := [], closing := false }
    let small : FrameInput := { large with frame := ⟨0.0, 20.0, 100.0, 120.0⟩ }
    let steps : List WindowStep :=
      [.host (.register "draw" (.drawing [60]) []), .host (.setVisible true), .frame large,
        .host (.register "read" (.picture [0]) []), .host (.register "wait" (.glyph "~") []),
        .frame small, .frame large]
    let start := new (Windowed.ofLook {}) [] {} {} true
    let c := start.runWindow d steps
    let answers := (start.windowHistory d steps).flatMap (answersOf d)
    answers.map (fun a => (a.request.index, a.found.decoded.isSome)) =
        [(0, true), (0, false), (1, true), (2, false), (0, false), (1, false), (2, false)] ∧
      PictureCache.DecodesOnce d answers ∧ c.iconFailures = [(1, .undecodable)] ∧
      c.Recalls d ⟨1, .picture [0], 48⟩ none ∧
      c.hud.icons[2]? = some (.glyph "~") ∧ c.Untouched 2 := by
  intro d large small steps start c answers
  obtain ⟨honce, -, hasked, hplain⟩ := runWindow_icons_decoded_once d {} [] {} {} true steps
  have htried : ∃ a ∈ answers, (a.request.index = 1 ∧ a.request.icon = .picture [0]) ∧
      a.found.picture = none := by
    decide +kernel
  obtain ⟨a, ha, ⟨hindex, hicon⟩, hfound⟩ := htried
  have hagain := (hasked a ha).2 48
  rw [hindex, hicon, hfound] at hagain
  have hglyph : c.hud.icons[2]? = some (.glyph "~") := by decide +kernel
  exact ⟨by decide +kernel, honce, by decide +kernel, hagain, hglyph, (hplain 2 _ hglyph rfl).2⟩

end Controller

end ScatterPick
