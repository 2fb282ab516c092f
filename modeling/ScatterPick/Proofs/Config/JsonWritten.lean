import ScatterPick.Proofs.Config.JsonParts
import ScatterPick.Proofs.Config.Numbers
import ScatterPick.Proofs.Json.Indented

/-!
# Parts of settings as they are written in JSON

A number in its written form is one of its spellings. So the text of an object with members that are
written from the values of settings, in any order and among others, gives these values, and so does
the text of an array of the first of them.
-/

namespace ScatterPick

open Json Number

/-! ## Numbers -/

namespace Number

end Number

namespace Json

/-- A value whose numbers are numerals. -/
inductive WellFormed : Json → Prop
  | null : WellFormed .null
  | number {text : String} : IsNumeral text.toList → WellFormed (.number text)
  | text (value : String) : WellFormed (.text value)
  | array {items : List Json} : (∀ v ∈ items, WellFormed v) → WellFormed (.array items)
  | object {members : List (String × Json)} : (∀ m ∈ members, WellFormed m.2) →
    WellFormed (.object members)

/-- A member with the text of its value. -/
def memberText (level : Nat) (m : String × Json) : String × List Char := (m.1, m.2.indented level)

theorem forall₂_memberLine (level : Nat) (members : List (String × Json)) :
    List.Forall₂ (fun m : String × List Char => IsMember m.1 m.2)
      (members.map (memberText level)) (members.map (memberLine level)) := by
  rw [List.forall₂_map_left_iff, List.forall₂_map_right_iff, List.forall₂_same]
  exact fun m _ => isMember_memberLine level m

theorem WellFormed.isValue {v : Json} (h : WellFormed v) (level : Nat) :
    IsValue (v.indented level) := by
  induction h generalizing level with
  | null => exact .word List.mem_cons_self
  | number htext => exact .numeral htext
  | text value => exact .text (isText_writeText value)
  | @array items _ ih =>
    refine .array (fun text htext => ?_) (bracketed_array level items)
    obtain ⟨v, hv, rfl⟩ := List.mem_map.mp htext
    exact ih v hv (level + 1)
  | @object members _ ih =>
    refine .object (fun t ht => ?_) (forall₂_memberLine (level + 1) members)
      (bracketed_object level members)
    obtain ⟨m, hm, rfl⟩ := List.mem_map.mp ht
    exact ih m hm (level + 1)

/-- A value that gives the values of fields, as they are written, with the names that it gives. -/
inductive Holds (fields : List (Known Json)) : List String → Json → Prop
  | object {names : List String} {members : List (String × Json)} :
    members.map Prod.fst = names → names.Nodup →
      (∀ m ∈ members, Known.Allows fields WellFormed m.1 m.2) → Holds fields names (.object members)
  /-- The first values, in the order of the fields. -/
  | array {count : Nat} {names : List String} {values : List Json} :
    (fields.take count).map (·.name) = names →
      List.Forall₂ (fun f v => f.Stands v) (fields.take count) values →
        Holds fields names (.array values)

/-- The text of what is written for a field may stand for it. -/
structure Writes (written : Known Json) (field : Known (List Char)) : Prop where
  name : field.name = written.name
  spells : ∀ v, written.Stands v → ∀ level, field.Stands (v.indented level)

variable {written : List (Known Json)} {fields : List (Known (List Char))}

theorem isValue_allowed (h : List.Forall₂ Writes written fields) {name : String} {v : Json}
    (hv : Known.Allows written WellFormed name v) (level : Nat) :
    Known.Allows fields IsValue name (v.indented level) := by
  rcases Known.find?_pair h (fun _ _ h => h.name) name with
    ⟨w, field, hw, hfield, -, hwrites⟩ | ⟨hw, hfield⟩
  · rw [Known.Allows, hw] at hv
    rw [Known.Allows, hfield]
    exact hwrites.spells v hv level
  · rw [Known.Allows, hw] at hv
    rw [Known.Allows, hfield]
    exact hv.isValue level

/-- The texts of the values of fields stand for them. -/
theorem stand_indented (h : List.Forall₂ Writes written fields) {values : List Json}
    (hvalues : List.Forall₂ (fun f v => f.Stands v) written values) (level : Nat) :
    List.Forall₂ (fun f v => f.Stands (v.indented level)) fields values := by
  induction h generalizing values with
  | nil =>
    cases hvalues
    exact .nil
  | cons hwrites _ ih =>
    cases hvalues with
    | cons hvalue hvalues => exact .cons (hwrites.spells _ hvalue level) (ih hvalues)

/-- A value that is written from fields has a text that gives them. -/
theorem Holds.gives {names : List String} {v : Json} (hholds : Holds written names v)
    (h : List.Forall₂ Writes written fields) (level : Nat) :
    Gives fields names (v.indented level) := by
  cases hholds with
  | @object _ members hnames hnodup hvalues =>
    have hmembers : (members.map (memberText (level + 1))).map Prod.fst = names := by
      rw [← hnames, List.map_map]
      rfl
    rw [← hmembers] at hnodup ⊢
    refine .object hnodup (fun t ht => ?_) (forall₂_memberLine (level + 1) members)
      (bracketed_object level members)
    obtain ⟨m, hm, rfl⟩ := List.mem_map.mp ht
    exact isValue_allowed h (hvalues m hm) (level + 1)
  | @array count _ values hnames hvalues =>
    have htake := List.forall₂_take count h
    have hfields : (fields.take count).map (·.name) = names := by
      rw [← hnames, ← List.forall₂_eq_eq_eq, List.forall₂_map_left_iff, List.forall₂_map_right_iff]
      exact htake.flip.imp fun _ _ h => h.name
    rw [← hfields]
    refine .array ?_ (bracketed_array level values)
    rw [List.forall₂_map_right_iff]
    exact stand_indented htake hvalues (level + 1)

end Json

/-! ## Settings -/

theorem Json.Writes.of_holds {name : String} {written : List (Known Json)}
    {fields : List (Known (List Char))} {names : List String}
    (h : List.Forall₂ Writes written fields) :
    Writes ⟨name, Holds written names⟩ ⟨name, Gives fields names⟩ where
  name := rfl
  spells _ hv level := hv.gives h level

namespace Settings

variable {s : Settings}

end Settings

end ScatterPick
