import ScatterPick.Canvas.Headless
import ScatterPick.Canvas.Windowed

/-!
# Laws of canvases

View, style and listeners of a canvas are separate: each one reads back what was last handed over,
and neither a repaint nor presenting the plot touches any of them.
-/

namespace ScatterPick

/-- A canvas that keeps what it is given. -/
class LawfulCanvas (C : Type) [Canvas C] : Prop where
  style_setStyle : ∀ (c : C) style, Canvas.style (Canvas.setStyle c style) = style
  style_setView : ∀ (c : C) view, Canvas.style (Canvas.setView c view) = Canvas.style c
  style_setListeners : ∀ (c : C) l, Canvas.style (Canvas.setListeners c l) = Canvas.style c
  style_requestRedraw : ∀ c : C, Canvas.style (Canvas.requestRedraw c) = Canvas.style c
  style_present : ∀ c : C, Canvas.style (Canvas.present c) = Canvas.style c
  listeners_setListeners : ∀ (c : C) l, Canvas.listeners (Canvas.setListeners c l) = l
  listeners_setView : ∀ (c : C) view, Canvas.listeners (Canvas.setView c view) = Canvas.listeners c
  listeners_setStyle :
    ∀ (c : C) style, Canvas.listeners (Canvas.setStyle c style) = Canvas.listeners c
  listeners_requestRedraw : ∀ c : C, Canvas.listeners (Canvas.requestRedraw c) = Canvas.listeners c
  listeners_present : ∀ c : C, Canvas.listeners (Canvas.present c) = Canvas.listeners c
  view_setView : ∀ (c : C) view, Canvas.view (Canvas.setView c view) = view
  view_setStyle : ∀ (c : C) style, Canvas.view (Canvas.setStyle c style) = Canvas.view c
  view_setListeners : ∀ (c : C) l, Canvas.view (Canvas.setListeners c l) = Canvas.view c
  view_requestRedraw : ∀ c : C, Canvas.view (Canvas.requestRedraw c) = Canvas.view c
  view_present : ∀ c : C, Canvas.view (Canvas.present c) = Canvas.view c

attribute [simp] LawfulCanvas.style_setStyle LawfulCanvas.style_setView
  LawfulCanvas.style_setListeners LawfulCanvas.style_requestRedraw LawfulCanvas.style_present
  LawfulCanvas.listeners_setListeners LawfulCanvas.listeners_setView
  LawfulCanvas.listeners_setStyle LawfulCanvas.listeners_requestRedraw
  LawfulCanvas.listeners_present LawfulCanvas.view_setView LawfulCanvas.view_setStyle
  LawfulCanvas.view_setListeners LawfulCanvas.view_requestRedraw LawfulCanvas.view_present

instance : LawfulCanvas Headless := by constructor <;> intros <;> rfl

instance : LawfulCanvas Windowed := by constructor <;> intros <;> rfl

namespace Canvas

variable {C : Type} [Canvas C] [LawfulCanvas C]

@[simp] theorem style_subscribe (c : C) (kind : EventKind) :
    style (subscribe c kind) = style c := by simp [subscribe]

@[simp] theorem style_unsubscribe (c : C) (id : Nat) :
    style (unsubscribe c id) = style c := by simp [unsubscribe]

@[simp] theorem listeners_subscribe (c : C) (kind : EventKind) :
    listeners (subscribe c kind) = (listeners c).add kind := by simp [subscribe]

@[simp] theorem listeners_unsubscribe (c : C) (id : Nat) :
    listeners (unsubscribe c id) = (listeners c).remove id := by simp [unsubscribe]

/-- Detaching listeners one after the other leaves the style alone. -/
theorem style_foldl_unsubscribe (l : List Listener) (c : C) :
    style (l.foldl (fun c listener => unsubscribe c listener.id) c) = style c := by
  induction l generalizing c with
  | nil => rfl
  | cons first rest ih => rw [List.foldl_cons, ih, style_unsubscribe]

end Canvas

end ScatterPick
