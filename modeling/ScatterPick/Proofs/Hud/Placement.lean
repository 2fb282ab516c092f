import Mathlib.Tactic.Linarith
import Mathlib.Tactic.Ring
import ScatterPick.Geometry.Exact
import ScatterPick.Hud.Basic

/-!
# Buttons stand apart and within reach

In exact arithmetic the buttons of the strip stand in one row above the frame: in the order of their
registration, with equal gaps between them, and flush with the right border. They are counted from
the right, so one more button moves all others to the left. The strip that is kept free above the
frame is high enough for them, and the hover area is wide enough as long as they are no wider than
the frame.
-/

namespace ScatterPick.Strip

variable {α : Type} [Field α] [LinearOrder α]

/-- The inside of a rectangle, borders excluded. -/
def Interior (r : ScreenRect α) (p : Point α) : Prop :=
  r.left < p.x ∧ p.x < r.right ∧ r.top < p.y ∧ p.y < r.bottom

section

variable (length : α → α → α) {count index : ℕ}

/-- The screen rectangle of a button in exact arithmetic. -/
def exactRect (size gap : α) (frame : ScreenRect α) (count index : ℕ) : ScreenRect α :=
  letI := Coordinate.exact length
  onScreen frame (buttonRect size gap count index)

/-- The hover area in exact arithmetic, where strip and plot share some height. -/
def exactArea (size gap available : α) (frame : ScreenRect α) : ScreenRect α :=
  letI := Coordinate.exact length
  hoverArea frame (height available size gap)

/-- Whether a place lies in a rectangle, in exact arithmetic. -/
def exactContains (r : ScreenRect α) (p : Point α) : Bool :=
  letI := Coordinate.exact length
  r.contains p

theorem exactContains_iff {r : ScreenRect α} {p : Point α} : exactContains length r p = true ↔
    (r.left ≤ p.x ∧ p.x ≤ r.right) ∧ r.top ≤ p.y ∧ p.y ≤ r.bottom := by
  simp [exactContains, ScreenRect.contains, Coordinate.atMost, and_assoc]

theorem exactArea_eq (size gap available : α) (frame : ScreenRect α) :
    exactArea length size gap available frame =
      { frame with top := frame.top - available * (size + 2 * gap) } := by
  simp [exactArea, hoverArea, height, Coordinate.natural]

theorem exists_behind {count index : ℕ} (h : index < count) :
    ∃ behind, count = index + behind + 1 :=
  ⟨count - index - 1, by omega⟩

/-- A button is known by the number of buttons behind it. -/
theorem exactRect_eq (size gap : α) (frame : ScreenRect α) (index behind : ℕ) :
    exactRect length size gap frame (index + behind + 1) index =
      { left := frame.right - ((behind + 1) * size + behind * gap) * (frame.right - frame.left)
        top := frame.top - (gap + size) * (frame.bottom - frame.top)
        right := frame.right - behind * (size + gap) * (frame.right - frame.left)
        bottom := frame.top - gap * (frame.bottom - frame.top) } := by
  have hbehind : index + behind + 1 - 1 - index = behind := by omega
  simp only [exactRect, onScreen, buttonRect, ScreenRect.width, ScreenRect.height,
    Coordinate.natural, hbehind, Nat.cast_one, ScreenRect.mk.injEq]
  refine ⟨?_, ?_, ?_, ?_⟩ <;> ring

/-- The distance between neighbours is the gap. -/
theorem exactRect_next (size gap : α) (frame : ScreenRect α) (hindex : index + 1 < count) :
    (exactRect length size gap frame count (index + 1)).left =
      (exactRect length size gap frame count index).right + gap * (frame.right - frame.left) := by
  obtain ⟨behind, rfl⟩ := exists_behind hindex
  have hcount : index + 1 + behind + 1 = index + (behind + 1) + 1 := by omega
  rw [exactRect_eq, hcount, exactRect_eq]
  push_cast
  ring

/-- The last button ends at the right border. -/
theorem exactRect_last (size gap : α) (frame : ScreenRect α) (count : ℕ) :
    (exactRect length size gap frame (count + 1) count).right = frame.right := by
  have hlast := exactRect_eq length size gap frame count 0
  rw [Nat.add_zero] at hlast
  rw [hlast]
  simp

/-- One more button moves the others to the left. -/
theorem exactRect_succ (size gap : α) (frame : ScreenRect α) (hindex : index < count) :
    exactRect length size gap frame (count + 1) index =
      { exactRect length size gap frame count index with
        left := (exactRect length size gap frame count index).left -
          (size + gap) * (frame.right - frame.left)
        right := (exactRect length size gap frame count index).right -
          (size + gap) * (frame.right - frame.left) } := by
  obtain ⟨behind, rfl⟩ := exists_behind hindex
  have hcount : index + behind + 1 + 1 = index + (behind + 1) + 1 := by omega
  rw [hcount, exactRect_eq, exactRect_eq, ScreenRect.mk.injEq]
  push_cast
  refine ⟨by ring, rfl, by ring, rfl⟩

end

/-- What the size of a strip and the frame below it are assumed to be: buttons have a size, gaps may
be missing, and the frame is no higher than the height that it shares with the strip. -/
structure Sound (size gap available : α) (frame : ScreenRect α) : Prop where
  size : 0 < size
  gap : 0 ≤ gap
  width : frame.left < frame.right
  height : frame.top < frame.bottom
  fits : frame.bottom - frame.top ≤ available

variable [IsStrictOrderedRing α] (length : α → α → α)
variable {size gap available : α} {frame : ScreenRect α} {count index : ℕ}

/-- A button has a width and a height. -/
theorem exactRect_nonempty (h : Sound size gap available frame) (hindex : index < count) :
    (exactRect length size gap frame count index).left <
        (exactRect length size gap frame count index).right ∧
      (exactRect length size gap frame count index).top <
        (exactRect length size gap frame count index).bottom := by
  obtain ⟨behind, rfl⟩ := exists_behind hindex
  have hwidth := mul_pos h.size (sub_pos.mpr h.width)
  have hheight := mul_pos h.size (sub_pos.mpr h.height)
  rw [exactRect_eq]
  constructor <;> linarith

/-- A button ends before every later one begins. -/
theorem exactRect_right_le_left (h : Sound size gap available frame) {later : ℕ}
    (hlater : index < later) (hcount : later < count) :
    (exactRect length size gap frame count index).right ≤
      (exactRect length size gap frame count later).left := by
  -- From one button to the next only the gap lies between, and each button has a width.
  induction later with
  | zero => omega
  | succ later ih =>
    have hgap : 0 ≤ gap * (frame.right - frame.left) :=
      mul_nonneg h.gap (sub_nonneg.mpr h.width.le)
    have hnext := exactRect_next length size gap frame hcount
    rcases Nat.lt_succ_iff_lt_or_eq.mp hlater with hbefore | rfl
    · have hbefore := ih hbefore (by omega)
      have hwide := (exactRect_nonempty length h (show later < count by omega)).1
      linarith
    · linarith

/-- Two buttons have no place inside both. -/
theorem exactRect_disjoint (h : Sound size gap available frame) {other : ℕ} (hindex : index < count)
    (hother : other < count) (hne : index ≠ other) (p : Point α) :
    ¬(Interior (exactRect length size gap frame count index) p ∧
      Interior (exactRect length size gap frame count other) p) := by
  rintro ⟨⟨hleft, hright, -⟩, hleft', hright', -⟩
  rcases Nat.lt_or_gt_of_ne hne with hlt | hgt
  · have := exactRect_right_le_left length h hlt hother
    linarith
  · have := exactRect_right_le_left length h hgt hindex
    linarith

/-- A button stands above the frame and below the top of the strip. -/
theorem exactRect_between (h : Sound size gap available frame) (hindex : index < count) :
    (exactRect length size gap frame count index).bottom ≤ frame.top ∧
      frame.top - available * (size + 2 * gap) ≤
        (exactRect length size gap frame count index).top := by
  obtain ⟨behind, rfl⟩ := exists_behind hindex
  have hgap := mul_nonneg h.gap (sub_nonneg.mpr h.height.le)
  have hsum : 0 ≤ size + gap := add_nonneg h.size.le h.gap
  have hfits := mul_le_mul_of_nonneg_left h.fits hsum
  have hspare := mul_nonneg h.gap ((sub_nonneg.mpr h.height.le).trans h.fits)
  rw [exactRect_eq]
  constructor <;> linarith

/-- No button reaches beyond the right border. -/
theorem exactRect_right_le (h : Sound size gap available frame) (hindex : index < count) :
    (exactRect length size gap frame count index).right ≤ frame.right := by
  obtain ⟨behind, rfl⟩ := exists_behind hindex
  have hbehind : 0 ≤ behind * (size + gap) * (frame.right - frame.left) :=
    mul_nonneg (mul_nonneg behind.cast_nonneg (add_nonneg h.size.le h.gap))
      (sub_nonneg.mpr h.width.le)
  rw [exactRect_eq]
  linarith

/-- No button begins before the first one. -/
theorem exactRect_first_le (h : Sound size gap available frame) (hindex : index < count) :
    (exactRect length size gap frame count 0).left ≤
      (exactRect length size gap frame count index).left := by
  rcases Nat.eq_zero_or_pos index with rfl | hpos
  · exact le_rfl
  · have hwide := (exactRect_nonempty length h (hpos.trans hindex)).1
    exact hwide.le.trans (exactRect_right_le_left length h hpos hindex)

/-- The first button begins within the frame exactly if the sizes of all buttons and the gaps
between them add up to no more than the width of the frame. -/
theorem exactRect_first_iff (h : Sound size gap available frame) (hcount : 0 < count) :
    frame.left ≤ (exactRect length size gap frame count 0).left ↔
      count * size + (count - 1) * gap ≤ 1 := by
  obtain ⟨behind, rfl⟩ := exists_behind hcount
  have hsum : ((0 + behind + 1 : ℕ) : α) * size + ((0 + behind + 1 : ℕ) - 1) * gap =
      (behind + 1) * size + behind * gap := by
    push_cast
    ring
  rw [exactRect_eq, hsum, ← mul_le_iff_le_one_left (sub_pos.mpr h.width), le_sub_comm]

/-- The buttons lie in the hover area exactly if the first one begins within the frame. -/
theorem exactRect_within_iff (h : Sound size gap available frame) (hcount : 0 < count) :
    (∀ index < count, ∀ p,
        exactContains length (exactRect length size gap frame count index) p = true →
          exactContains length (exactArea length size gap available frame) p = true) ↔
      frame.left ≤ (exactRect length size gap frame count 0).left := by
  constructor
  · -- The upper left corner of the first button is a place of it.
    intro hwithin
    obtain ⟨hleft, htop⟩ := exactRect_nonempty length h hcount
    have hcorner := hwithin 0 hcount ⟨_, _⟩
      ((exactContains_iff length).mpr ⟨⟨le_rfl, hleft.le⟩, le_rfl, htop.le⟩)
    rw [exactContains_iff, exactArea_eq] at hcorner
    exact hcorner.1.1
  · intro hfirst index hindex p hp
    obtain ⟨⟨hleft, hright⟩, htop, hbottom⟩ := (exactContains_iff length).mp hp
    obtain ⟨habove, hbelow⟩ := exactRect_between length h hindex
    rw [exactContains_iff, exactArea_eq]
    refine ⟨⟨?_, ?_⟩, hbelow.trans htop, hbottom.trans (habove.trans h.height.le)⟩
    · exact (hfirst.trans (exactRect_first_le length h hindex)).trans hleft
    · exact hright.trans (exactRect_right_le length h hindex)

/-- How some buttons stand in the strip above a frame. -/
structure StandInRow (size gap available : α) (frame : ScreenRect α) (count : ℕ) : Prop where
  /-- A button has a width and a height. -/
  nonempty : ∀ index < count,
    (exactRect length size gap frame count index).left <
        (exactRect length size gap frame count index).right ∧
      (exactRect length size gap frame count index).top <
        (exactRect length size gap frame count index).bottom
  /-- No place is inside two buttons. -/
  disjoint : ∀ index < count, ∀ other < count, index ≠ other → ∀ p,
    ¬(Interior (exactRect length size gap frame count index) p ∧
      Interior (exactRect length size gap frame count other) p)
  /-- Between neighbours lies the gap. -/
  next : ∀ index, index + 1 < count →
    (exactRect length size gap frame count (index + 1)).left =
      (exactRect length size gap frame count index).right + gap * (frame.right - frame.left)
  /-- A button stands left of those that were registered after it. -/
  ordered : ∀ index later, index < later → later < count →
    (exactRect length size gap frame count index).right ≤
      (exactRect length size gap frame count later).left
  /-- The button that was registered last ends with the frame. -/
  last : (exactRect length size gap frame count (count - 1)).right = frame.right
  /-- The buttons stand above the frame. -/
  above : ∀ index < count, (exactRect length size gap frame count index).bottom ≤ frame.top
  /-- The buttons stand below the top of the hover area, which is that of the strip. -/
  below : ∀ index < count, (exactArea length size gap available frame).top ≤
    (exactRect length size gap frame count index).top

/-- The buttons of a strip stand in a row above the frame. The pointer can reach all of them without
leaving the hover area, whose top is that of the strip, exactly if the row is no wider than the
frame. One more button moves all others to the left by its size and a gap. -/
theorem buttons_stand_in_row (h : Sound size gap available frame) (hcount : 0 < count) :
    StandInRow length size gap available frame count ∧
    (exactArea length size gap available frame).top = frame.top - available * (size + 2 * gap) ∧
    ((∀ index < count, ∀ p,
        exactContains length (exactRect length size gap frame count index) p = true →
          exactContains length (exactArea length size gap available frame) p = true) ↔
      count * size + (count - 1) * gap ≤ 1) ∧
    (∀ index < count, exactRect length size gap frame (count + 1) index =
      { exactRect length size gap frame count index with
        left := (exactRect length size gap frame count index).left -
          (size + gap) * (frame.right - frame.left)
        right := (exactRect length size gap frame count index).right -
          (size + gap) * (frame.right - frame.left) }) ∧
    ∀ (hud : Hud) (b : Button) (index : ℕ), (hud.push b).buttonRect index =
      buttonRect hud.layout.size hud.layout.gap (hud.buttons.length + 1) index := by
  have htop := congrArg ScreenRect.top (exactArea_eq length size gap available frame)
  refine ⟨?_, htop, (exactRect_within_iff length h hcount).trans
    (exactRect_first_iff length h hcount), fun index => exactRect_succ length size gap frame, ?_⟩
  · exact {
      nonempty := fun index => exactRect_nonempty length h
      disjoint := fun index hindex other hother hne p =>
        exactRect_disjoint length h hindex hother hne p
      next := fun index => exactRect_next length size gap frame
      ordered := fun index later hlater hlast => exactRect_right_le_left length h hlater hlast
      last := by
        obtain ⟨before, rfl⟩ := Nat.exists_eq_succ_of_ne_zero hcount.ne'
        exact exactRect_last length size gap frame before
      above := fun index hindex => (exactRect_between length h hindex).1
      below := fun index hindex => htop.trans_le (exactRect_between length h hindex).2 }
  · intro hud b index
    rw [Hud.buttonRect, Hud.push, List.length_append]
    rfl

/-- Three buttons fit above a frame of 200 by 100 with a size of a quarter and gaps of an eighth,
four do not: the hover area ends right of where the first of them begins. -/
theorem three_stand_in_row :
    let length : ℚ → ℚ → ℚ := fun a b => |a| + |b|
    let frame : ScreenRect ℚ := ⟨10, 80, 210, 180⟩
    Sound (1 / 4) (1 / 8) 120 frame ∧ StandInRow length (1 / 4) (1 / 8) 120 frame 3 ∧
      (∀ index < 3, ∀ p, exactContains length (exactRect length (1 / 4) (1 / 8) frame 3 index) p →
        exactContains length (exactArea length (1 / 4) (1 / 8) 120 frame) p) ∧
      ¬(∀ index < 4, ∀ p,
        exactContains length (exactRect length (1 / 4) (1 / 8) frame 4 index) p →
          exactContains length (exactArea length (1 / 4) (1 / 8) 120 frame) p) := by
  intro length frame
  have h : Sound (1 / 4) (1 / 8) 120 frame :=
    ⟨by decide +kernel, by decide +kernel, by decide +kernel, by decide +kernel, by decide +kernel⟩
  obtain ⟨hrow, -, hthree, -⟩ := buttons_stand_in_row length h (by decide : 0 < 3)
  obtain ⟨-, -, hfour, -⟩ := buttons_stand_in_row length h (by decide : 0 < 4)
  refine ⟨h, hrow, hthree.mpr (by norm_num), fun hwithin => ?_⟩
  have hsum := hfour.mp hwithin
  norm_num at hsum

end ScatterPick.Strip
