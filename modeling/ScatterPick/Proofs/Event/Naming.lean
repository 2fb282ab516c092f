import ScatterPick.Proofs.Event.Flags
import ScatterPick.Proofs.Text.Hexadecimal

/-!
# Kinds by their names

The text of a kind is a list of words: names of categories, and at the end the flags without a name
as one number. Every word stands for a kind, and the kind with the text is all of these together, so
no two kinds share a text.
-/

namespace ScatterPick.EventKind

/-- The names that a word can be, with what they stand for. -/
def vocabulary : List (EventKind × String) := (empty, "EMPTY") :: (all, "ALL") :: names

/-- The kind that a word stands for: flags by their number, or a name. -/
def ofWord? : List Char → Option EventKind
  | '0' :: 'x' :: digits => (Text.hexValue? digits).map fun n => ⟨UInt64.ofNat n⟩
  | name => (vocabulary.find? (·.2.toList == name)).map (·.1)

/-- The kind that a text stands for: that of its words together. -/
def ofText? (s : String) : Option EventKind :=
  ((s.toList.splitOn '|').mapM ofWord?).map unionAll

/-! ## Words -/

/-- A word of a text, with the kind that it stands for. -/
structure Means (w : EventKind × String) : Prop where
  read : ofWord? w.2.toList = some w.1
  unbroken : '|' ∉ w.2.toList

/-- Every name stands for its kind. -/
theorem means_name {w : EventKind × String} (h : w ∈ vocabulary) : Means w := by
  have hall : ∀ w ∈ vocabulary, ofWord? w.2.toList = some w.1 ∧ '|' ∉ w.2.toList := by
    decide +kernel
  exact ⟨(hall w h).1, (hall w h).2⟩

/-- The number of a mask stands for the mask. -/
theorem means_number (bits : UInt64) :
    Means (⟨bits⟩, "0x" ++ String.ofList (Nat.toDigits 16 bits.toNat)) := by
  have hspelled := Text.hexValue?_toDigits bits.toNat
  have hchars : ("0x" ++ String.ofList (Nat.toDigits 16 bits.toNat)).toList =
      '0' :: 'x' :: Nat.toDigits 16 bits.toNat := by simp
  refine ⟨?_, ?_⟩
  · rw [hchars, ofWord?, hspelled]
    simp
  · rw [hchars]
    intro hbar
    have hdigit : '|' ∈ Nat.toDigits 16 bits.toNat := by simpa using hbar
    obtain ⟨d, hd⟩ := Text.exists_hexDigit?_of_mem hspelled hdigit
    have hnone : Text.hexDigit? '|' = none := by decide
    rw [hnone] at hd
    cases hd

/-- Words are read one after the other. -/
theorem mapM_ofWord? {ws : List (EventKind × String)} (hws : ∀ w ∈ ws, Means w) :
    (ws.map (·.2.toList)).mapM ofWord? = some (ws.map (·.1)) := by
  induction ws with
  | nil => rfl
  | cons w rest ih =>
    rw [List.forall_mem_cons] at hws
    simp [hws.1.read, ih hws.2]

/-- A text of words stands for all that they stand for. -/
theorem ofText?_intercalate {ws : List (EventKind × String)} (hne : ws ≠ [])
    (hws : ∀ w ∈ ws, Means w) :
    ofText? ("|".intercalate (ws.map (·.2))) = some (unionAll (ws.map (·.1))) := by
  have hbar : "|".toList = ['|'] := rfl
  have hsplit : (['|'].intercalate (ws.map (·.2.toList))).splitOn '|' = ws.map (·.2.toList) := by
    refine List.splitOn_intercalate '|' (fun chars hchars => ?_) (by simpa using hne)
    obtain ⟨w, hw, rfl⟩ := List.mem_map.mp hchars
    exact (hws w hw).unbroken
  rw [ofText?, String.toList_intercalate, List.map_map, hbar]
  change ((['|'].intercalate (ws.map (·.2.toList))).splitOn '|' |>.mapM ofWord?).map unionAll = _
  rw [hsplit, mapM_ofWord? hws, Option.map_some]

/-- A name alone is the text of its kind. -/
theorem ofText?_name {w : EventKind × String} (h : w ∈ vocabulary) : ofText? w.2 = some w.1 := by
  have hread : ofText? ("|".intercalate ([w].map (·.2))) = some (unionAll ([w].map (·.1))) :=
    ofText?_intercalate (List.cons_ne_nil w [])
      fun v hv => means_name (List.mem_singleton.mp hv ▸ h)
  rw [List.map_singleton, List.map_singleton, String.intercalate_singleton] at hread
  have hunion : unionAll [w.1] = w.1 := ext_has fun n => by rw [has_unionAll]; simp
  rwa [hunion] at hread

/-! ## The words of a kind -/

/-- The words of the text of a kind, with what they stand for. -/
def wording (a : EventKind) : List (EventKind × String) :=
  names.filter (a.contains ·.1) ++
    if a.unnamed == 0 then []
    else [(⟨a.unnamed⟩, "0x" ++ String.ofList (Nat.toDigits 16 a.unnamed.toNat))]

theorem parts_eq (a : EventKind) : a.parts = a.wording.map (·.2) := by
  simp only [parts, wording]
  split
  · rw [List.append_nil]
  · rw [List.map_append, List.map_singleton]

theorem means_wording {a : EventKind} {w : EventKind × String} (h : w ∈ a.wording) : Means w := by
  rcases List.mem_append.mp h with hname | hnumber
  · refine means_name (List.mem_cons_of_mem _ (List.mem_cons_of_mem _ ?_))
    exact (List.mem_filter.mp hname).1
  · split at hnumber
    · cases hnumber
    · obtain rfl := List.mem_singleton.mp hnumber
      exact means_number a.unnamed

/-- The bits of the known categories. -/
def namedBits : List Nat := [0, 1, 2, 3, 4, 5, 6, 16, 17, 18, 19, 20, 21, 22]

/-- Every name is that of a single category. -/
theorem exists_bit_of_mem_names {w : EventKind × String} (h : w ∈ names) :
    ∃ bit < 64, w.1 = flag bit := by
  have hflags : names.map (·.1) = namedBits.map flag := rfl
  have hw : w.1 ∈ namedBits.map flag := hflags ▸ List.mem_map_of_mem h
  obtain ⟨bit, hbit, heq⟩ := List.mem_map.mp hw
  have hlt : ∀ bit ∈ namedBits, bit < 64 := by decide
  exact ⟨bit, hlt bit hbit, heq.symm⟩

/-- The named flags of a kind are those of its names. -/
theorem has_named (a : EventKind) (n : Nat) :
    (names.filter (a.contains ·.1)).any (·.1.has n) = (a.has n && known.has n) := by
  have hknown : known.has n = names.any (·.1.has n) := by
    have hunion : known = unionAll (names.map (·.1)) := rfl
    rw [hunion, has_unionAll, List.any_map]
    rfl
  have hflag (w : EventKind × String) (hw : w ∈ names) :
      (a.contains w.1 && w.1.has n) = (a.has n && w.1.has n) := by
    obtain ⟨bit, hlt, hbit⟩ := exists_bit_of_mem_names hw
    rw [hbit, contains_flag hlt, has_flag hlt]
    by_cases h : bit = n
    · rw [h]
    · rw [decide_eq_false h, Bool.and_false, Bool.and_false]
  rw [hknown, List.any_filter, List.and_any_distrib_left, Bool.eq_iff_iff, List.any_eq_true,
    List.any_eq_true]
  exact exists_congr fun w => and_congr_right fun hw => by rw [hflag w hw]

/-- The words of a kind stand for the kind. -/
theorem unionAll_wording (a : EventKind) : unionAll (a.wording.map (·.1)) = a := by
  refine ext_has fun n => ?_
  have hnumber : (if a.unnamed == 0 then [] else
      [((⟨a.unnamed⟩ : EventKind), "0x" ++ String.ofList (Nat.toDigits 16 a.unnamed.toNat))]).any
        (·.1.has n) = (a.has n && !known.has n) := by
    rw [← has_unnamed]
    split
    next h =>
      rw [beq_iff_eq.mp h]
      exact (has_empty n).symm
    next => simp
  have hwords : (unionAll (a.wording.map (·.1))).has n = a.wording.any (·.1.has n) := by
    rw [has_unionAll, List.any_map]
    rfl
  rw [hwords, wording, List.any_append, has_named, hnumber, ← Bool.and_or_distrib_left,
    Bool.or_not_self, Bool.and_true]

/-- Every kind is read back from its text, by putting together what its words stand for. So two
kinds with the same text are equal. -/
theorem text_names_kind :
    (∀ a : EventKind, ofText? a.text = some a) ∧ ∀ a b : EventKind, a.text = b.text → a = b := by
  have hread (a : EventKind) : ofText? a.text = some a := by
    by_cases hempty : a = empty
    · rw [hempty]
      exact ofText?_name (w := (empty, "EMPTY")) List.mem_cons_self
    by_cases hall : a = all
    · rw [hall]
      exact ofText?_name (w := (all, "ALL")) (List.mem_cons_of_mem _ List.mem_cons_self)
    have htext : a.text = "|".intercalate (a.wording.map (·.2)) := by
      have hsome : a.isEmpty = false := by
        rw [isEmpty, beq_eq_false_iff_ne]
        exact fun hbits => hempty (congrArg mk hbits)
      rw [text, hsome, if_neg Bool.false_ne_true, if_neg hall, parts_eq]
    have hwords : a.wording ≠ [] := by
      intro hnone
      have hunion := unionAll_wording a
      rw [hnone] at hunion
      exact hempty hunion.symm
    rw [htext, ofText?_intercalate hwords fun w => means_wording, unionAll_wording]
  refine ⟨hread, fun a b h => ?_⟩
  exact Option.some.inj ((hread a).symm.trans ((congrArg ofText? h).trans (hread b)))

/-- A category and a flag without a name make one text, which is read back and belongs to no other
mask. -/
theorem text_names_unnamed_flag :
    let a : EventKind := hudShown.union (flag 40)
    let b : EventKind := ⟨0x10000000000 ||| hudShown.bits⟩
    a.text = "HUD_SHOWN|0x10000000000" ∧ ofText? "HUD_SHOWN|0x10000000000" = some a ∧ a = b := by
  intro a b
  have htext : a.text = "HUD_SHOWN|0x10000000000" := by decide +kernel
  have hsame : a.text = b.text := by decide +kernel
  obtain ⟨hread, hinj⟩ := text_names_kind
  refine ⟨htext, ?_, hinj a b hsame⟩
  rw [← htext]
  exact hread a

end ScatterPick.EventKind
