import Mathlib.Data.List.DropRight
import ScatterPick.Canvas.Headless
import ScatterPick.Proofs.Controller.Mode

/-!
# The mode read off the history

Which mode a run reaches is decided by the last marks in its history: the last change of the
connection, and since the last connecting the last turn of the additive key and of the pointer.
-/

namespace ScatterPick

/-- Whether a step goes past the check for listeners or edits the strip by hand where it shows the
mode. -/
def Step.bypasses : Step → Bool
  | .dispatch _ => true
  | s => s.editsMode

namespace Controller

variable {C : Type}

/-! ## Marks -/

/-- The change of the connection in a step. Connecting counts while disconnected; disconnecting,
closing and a click on a button whose callback asks for it count while connected. -/
def connectionMark (p : Controller C × Step) : Option Bool :=
  match p.1.signal p.2 with
  | some .attach => if p.1.isConnected then none else some true
  | some .detach => if p.1.isConnected then some false else none
  | _ => none

/-- The turn of the additive key in a step. -/
def keyMark (p : Controller C × Step) : Option Bool :=
  match p.1.signal p.2 with
  | some (.key down) => some down
  | _ => none

/-- Whether the pointer entered or left in a step. -/
def pointerMark (p : Controller C × Step) : Option Bool :=
  match p.1.signal p.2 with
  | some (.pointer inside) => some inside
  | _ => none

/-- The part of a history after the last connecting. -/
def sinceConnecting (past : List (Controller C × Step)) : List (Controller C × Step) :=
  past.rtakeWhile fun p => connectionMark p ≠ some true

theorem sinceConnecting_concat_connecting {past : List (Controller C × Step)}
    {p : Controller C × Step} (h : connectionMark p = some true) :
    sinceConnecting (past ++ [p]) = [] :=
  List.rtakeWhile_concat_neg _ _ _ (by simp [h])

theorem sinceConnecting_concat {past : List (Controller C × Step)} {p : Controller C × Step}
    (h : connectionMark p ≠ some true) :
    sinceConnecting (past ++ [p]) = sinceConnecting past ++ [p] :=
  List.rtakeWhile_concat_pos _ _ _ (by simp [h])

/-- The last mark was left by some step. -/
theorem exists_of_lastMark {α : Type} {mark : Controller C × Step → Option α}
    {past : List (Controller C × Step)} {m : α} (h : lastMark mark past = some m) :
    ∃ p ∈ past, mark p = some m :=
  List.mem_filterMap.mp (List.mem_of_getLast? h)

/-! ## Only a connected controller is told of keys and the pointer -/

/-- A handled signal of key or pointer comes through to a connected controller only. -/
theorem attached_of_signal {c : Controller C} {s : Step} {g : Signal} (hs : s.bypasses = false)
    (h : c.signal s = some g) (hattach : g ≠ .attach) (hdetach : g ≠ .detach) :
    c.attached ≠ [] := by
  cases s with
  | connect => exact absurd (Option.some.inj h).symm hattach
  | disconnect => exact absurd (Option.some.inj h).symm hdetach
  | dispatch event => cases hs
  | handle event =>
    obtain ⟨e, harrive, he⟩ := Option.bind_eq_some_iff.mp h
    obtain rfl := arriving_handle harrive
    have haccepts : c.accepts e = true := by
      by_contra hno
      rw [arriving, if_neg hno] at harrive
      cases harrive
    refine attached_of_accepts haccepts fun hclose => hdetach ?_
    subst hclose
    exact (Option.some.inj he).symm
  | _ => cases h

/-! ## The mode follows the marks -/

/-- A mode is what the marks of a history say. -/
structure Follows (m : Mode) (past : List (Controller C × Step)) : Prop where
  connected : m.listening ≠ [] ↔ lastMark connectionMark past = some true
  additive : m.additive = true ↔
    m.listening ≠ [] ∧ lastMark keyMark (sinceConnecting past) = some true
  visible : m.visible = true ↔
    m.listening ≠ [] ∧ lastMark pointerMark (sinceConnecting past) = some true
  title_before : (∀ p ∈ past, connectionMark p ≠ some true) → m.title = ""
  title_after : ∀ p ∈ past, connectionMark p = some true → m.title = titleFor m.additive

namespace Follows

variable {m : Mode} {past : List (Controller C × Step)}

theorem additive_of_disconnected (h : Follows m past) (hm : m.listening = []) :
    m.additive = false := by
  rw [Bool.eq_false_iff, ne_eq, h.additive]
  exact fun hc => hc.1 hm

theorem title_of_connected (h : Follows m past) (hm : m.listening ≠ []) :
    m.title = titleFor m.additive := by
  obtain ⟨p, hp, hmark⟩ := exists_of_lastMark (h.connected.mp hm)
  exact h.title_after p hp hmark

/-- Being connected takes a connecting step. -/
theorem connected_before (h : Follows m past) (hm : m.listening ≠ [])
    {p : Controller C × Step} : ¬ ∀ q ∈ past ++ [p], connectionMark q ≠ some true := by
  intro hall
  obtain ⟨q, hq, hattach⟩ := exists_of_lastMark (h.connected.mp hm)
  exact hall q (List.mem_append_left _ hq) hattach

/-- A step without a mark leaves a mode that follows the history. -/
theorem concat_unmarked (h : Follows m past) {p : Controller C × Step}
    (hconnection : connectionMark p = none) (hkey : keyMark p = none)
    (hpointer : pointerMark p = none) : Follows m (past ++ [p]) := by
  have hsince : sinceConnecting (past ++ [p]) = sinceConnecting past ++ [p] :=
    sinceConnecting_concat (by simp [hconnection])
  refine ⟨?_, ?_, ?_, fun hall => ?_, fun q hq hmark => ?_⟩
  · rw [lastMark_concat, hconnection, Option.none_or]
    exact h.connected
  · rw [hsince, lastMark_concat, hkey, Option.none_or]
    exact h.additive
  · rw [hsince, lastMark_concat, hpointer, Option.none_or]
    exact h.visible
  · exact h.title_before fun q hq => hall q (List.mem_append_left _ hq)
  · rcases List.mem_append.mp hq with hq | hq
    · exact h.title_after q hq hmark
    · rw [List.mem_singleton.mp hq, hconnection] at hmark
      cases hmark

/-- Connecting starts anew: additive mode is off, the strip hidden. -/
theorem concat_connecting (h : Follows m past) (hm : m.listening = [])
    {p : Controller C × Step} (hmark : connectionMark p = some true) :
    Follows (m.after .attach) (past ++ [p]) := by
  have hadditive := h.additive_of_disconnected hm
  rw [Mode.after, if_pos hm]
  refine ⟨?_, ?_, ?_, fun hall => ?_, fun q hq _ => rfl⟩
  · rw [lastMark_concat, hmark]
    simp [interactionKinds]
  · rw [sinceConnecting_concat_connecting hmark]
    simp [hadditive]
  · rw [sinceConnecting_concat_connecting hmark]
    simp
  · exact absurd hmark (hall p (by simp))

/-- Disconnecting switches everything off and keeps a title. -/
theorem concat_disconnecting (h : Follows m past) (hm : m.listening ≠ [])
    {p : Controller C × Step} (hmark : connectionMark p = some false) :
    Follows (m.after .detach) (past ++ [p]) := by
  rw [Mode.after, if_neg hm]
  refine ⟨?_, ?_, ?_, fun hall => ?_, fun q hq _ => rfl⟩
  · rw [lastMark_concat, hmark]
    simp
  · simp
  · simp
  · exact absurd hall (h.connected_before hm)

/-- While connected, a step that leaves the connection alone turns what it marks and keeps the rest.
The title names the flag. -/
theorem concat_turning (h : Follows m past) (hm : m.listening ≠ []) {p : Controller C × Step}
    (hconnection : connectionMark p = none) {m' : Mode} (hlistening : m'.listening = m.listening)
    (hadditive : m'.additive = (keyMark p).getD m.additive)
    (hvisible : m'.visible = (pointerMark p).getD m.visible)
    (htitle : m'.title = titleFor m'.additive) : Follows m' (past ++ [p]) := by
  have hsince : sinceConnecting (past ++ [p]) = sinceConnecting past ++ [p] :=
    sinceConnecting_concat (by simp [hconnection])
  refine ⟨?_, ?_, ?_, fun hall => ?_, fun q hq _ => htitle⟩
  · rw [lastMark_concat, hconnection, Option.none_or, hlistening]
    exact h.connected
  · rw [hsince, lastMark_concat, hadditive, hlistening]
    cases keyMark p with
    | none => exact h.additive
    | some down => simp [hm]
  · rw [hsince, lastMark_concat, hvisible, hlistening]
    cases pointerMark p with
    | none => exact h.visible
    | some inside => simp [hm]
  · exact absurd hall (h.connected_before hm)

end Follows

variable [Canvas C]

/-- A step that respects the listeners keeps the mode in line with the history. -/
theorem Follows.step {c : Controller C} {past : List (Controller C × Step)}
    (h : Follows c.mode past) {s : Step} (hs : s.bypasses = false) :
    Follows (c.step s).mode (past ++ [(c, s)]) := by
  have hedits : s.editsMode = false := by
    cases s with
    | dispatch event => rfl
    | _ => exact hs
  rw [step_mode c hedits]
  cases hsignal : c.signal s with
  | none =>
    exact h.concat_unmarked (by simp [connectionMark, hsignal]) (by simp [keyMark, hsignal])
      (by simp [pointerMark, hsignal])
  | some g =>
    rw [Option.elim_some]
    have hlistening (hattach : g ≠ .attach) (hdetach : g ≠ .detach) : c.mode.listening ≠ [] := by
      rw [ne_eq, mode_listening_eq_nil]
      exact attached_of_signal hs hsignal hattach hdetach
    cases g with
    | attach =>
      by_cases hm : c.mode.listening = []
      · have hc : c.isConnected = false := isConnected_eq_false_iff.mpr hm
        exact h.concat_connecting hm (by simp [connectionMark, hsignal, hc])
      · have hc : c.isConnected = true := isConnected_iff_listening.mpr hm
        rw [Mode.after, if_neg hm]
        exact h.concat_unmarked (by simp only [connectionMark, hsignal, hc, ite_true])
          (by simp [keyMark, hsignal]) (by simp [pointerMark, hsignal])
    | detach =>
      by_cases hm : c.mode.listening = []
      · have hc : c.isConnected = false := isConnected_eq_false_iff.mpr hm
        rw [Mode.after, if_pos hm]
        exact h.concat_unmarked (by simp [connectionMark, hsignal, hc])
          (by simp [keyMark, hsignal]) (by simp [pointerMark, hsignal])
      · have hc : c.isConnected = true := isConnected_iff_listening.mpr hm
        exact h.concat_disconnecting hm (by simp only [connectionMark, hsignal, hc, ite_true])
    | key down =>
      have hm : c.mode.listening ≠ [] := hlistening (by simp) (by simp)
      refine h.concat_turning hm (by simp [connectionMark, hsignal]) rfl ?_ ?_ rfl
      · simp [keyMark, hsignal, Mode.after]
      · simp [pointerMark, hsignal, Mode.after]
    | pointer inside =>
      have hm : c.mode.listening ≠ [] := hlistening (by simp) (by simp)
      have hmark : connectionMark (c, s) = none := by simp [connectionMark, hsignal]
      cases inside with
      | true =>
        refine h.concat_turning hm hmark rfl ?_ ?_ rfl
        · simp [keyMark, hsignal, Mode.after]
        · simp [pointerMark, hsignal, Mode.after]
      | false =>
        refine h.concat_turning hm hmark rfl ?_ ?_ (h.title_of_connected hm)
        · simp [keyMark, hsignal, Mode.after]
        · simp [pointerMark, hsignal, Mode.after]

end Controller

end ScatterPick
