import Mathlib.Data.List.Induction
import ScatterPick.Event.Broadcast

/-!
# What notices tell

A subscriber that follows the notices of a controller knows whether it is connected, whether its
strip is visible and what is selected. Each of these is what the last notice about it said.
-/

namespace ScatterPick

namespace Notice

/-- What a notice says about the connection. -/
def connection (n : Notice) : Option Bool :=
  if n.kinds = .connected then some true
  else if n.kinds = .disconnected then some false
  else none

/-- What a notice says about the strip, which connecting and disconnecting hide. -/
def visibility (n : Notice) : Option Bool :=
  if n.kinds = .hudShown then some true
  else if n.kinds = .hudHidden ∨ n.kinds = .connected ∨ n.kinds = .disconnected then some false
  else none

/-- The selection that a notice about the selection carries. -/
def selected (n : Notice) : Option (List Nat) :=
  if n.kinds = .selectionChanged ∨ n.kinds = .selectionSet then n.selection else none

end Notice

/-- The last thing that notices say about a topic. -/
def lastSaid {α : Type} (topic : Notice → Option α) (heard : List Notice) : Option α :=
  (heard.filterMap topic).getLast?

/-- Keeping what each notice says about a topic leaves the last thing said. -/
theorem foldl_getD_eq_lastSaid {α : Type} (topic : Notice → Option α) (a : α)
    (heard : List Notice) :
    heard.foldl (fun known n => (topic n).getD known) a = (lastSaid topic heard).getD a := by
  induction heard using List.reverseRecOn with
  | nil => rfl
  | append_singleton heard n ih =>
    rw [List.foldl_append, ih, List.foldl_cons, List.foldl_nil, lastSaid, lastSaid,
      List.filterMap_append, List.getLast?_append]
    cases h : topic n with
    | none => simp [h]
    | some m => simp [h]

/-- What a subscriber knows of a controller. -/
structure Account where
  connected : Bool
  visible : Bool
  selected : List Nat
  deriving DecidableEq, Repr

namespace Account

/-- What is known before the first notice. -/
def initial : Account := ⟨false, false, []⟩

/-- What is known after one more notice. -/
def after (a : Account) (n : Notice) : Account where
  connected := n.connection.getD a.connected
  visible := n.visibility.getD a.visible
  selected := n.selected.getD a.selected

theorem foldl_after (a : Account) (heard : List Notice) :
    heard.foldl after a =
      ⟨(lastSaid Notice.connection heard).getD a.connected,
        (lastSaid Notice.visibility heard).getD a.visible,
        (lastSaid Notice.selected heard).getD a.selected⟩ := by
  rw [← foldl_getD_eq_lastSaid, ← foldl_getD_eq_lastSaid, ← foldl_getD_eq_lastSaid]
  induction heard generalizing a with
  | nil => rfl
  | cons n rest ih => exact ih (a.after n)

/-- A notice is news: it says of the connection what was not known, a changed selection is another
one, and a notice about the selection carries it. -/
structure News (a : Account) (n : Notice) : Prop where
  connection : n.connection ≠ some a.connected
  changed : n.kinds = .selectionChanged → n.selection ≠ some a.selected
  carried : n.kinds = .selectionChanged ∨ n.kinds = .selectionSet → n.selection ≠ none

/-- A notice that is not about the selection has to be news about the connection alone. -/
theorem News.of_connection {a : Account} {n : Notice}
    (hconnection : n.connection ≠ some a.connected) (hchanged : n.kinds ≠ .selectionChanged)
    (hset : n.kinds ≠ .selectionSet) : a.News n :=
  ⟨hconnection, fun h => absurd h hchanged, fun h => absurd h (not_or.mpr ⟨hchanged, hset⟩)⟩

/-- Every notice is news at its time. -/
def Follows : Account → List Notice → Prop
  | _, [] => True
  | a, n :: rest => a.News n ∧ (a.after n).Follows rest

theorem follows_append {a : Account} {heard more : List Notice} :
    a.Follows (heard ++ more) ↔ a.Follows heard ∧ (heard.foldl after a).Follows more := by
  induction heard generalizing a with
  | nil => simp [Follows]
  | cons n rest ih => rw [List.cons_append, Follows, ih, Follows, and_assoc, List.foldl_cons]

theorem Follows.news {a : Account} {before rest : List Notice} {n : Notice}
    (h : a.Follows (before ++ n :: rest)) : (before.foldl after a).News n :=
  (follows_append.mp h).2.1

/-- Connecting and disconnecting alternate. -/
theorem Follows.alternates {a : Account} {heard : List Notice} (h : a.Follows heard) :
    (a.connected :: heard.filterMap Notice.connection).IsChain (· ≠ ·) := by
  induction heard generalizing a with
  | nil => exact .singleton _
  | cons n rest ih =>
    have hrest := ih h.2
    cases hn : n.connection with
    | none =>
      rw [after, hn] at hrest
      rw [List.filterMap_cons_none hn]
      exact hrest
    | some b =>
      have hne : a.connected ≠ b := fun hb => h.1.connection (hb ▸ hn)
      rw [after, hn] at hrest
      rw [List.filterMap_cons_some hn]
      exact hrest.cons_cons hne

end Account

end ScatterPick
