import ScatterPick.Proofs.Json.Group

/-!
# The indented form as a layout

The form of a value over several lines is one of its layouts, so that settings are read back from it
member by member.
-/

namespace ScatterPick.Json

/-! ## Collections -/

/-- A member on a line of its own. -/
def memberLine (level : Nat) (m : String × Json) : List Char :=
  writeText m.1 ++ ':' :: ' ' :: m.2.indented level

theorem isMember_memberLine (level : Nat) (m : String × Json) :
    IsMember m.1 (m.2.indented level) (memberLine level m) :=
  ⟨writeText m.1, [], [' '], isText_writeText m.1, nil_isGap, space_isGap, rfl⟩

theorem indentedItems_append (level outer : Nat) (items : List Json) :
    indentedItems level items ++ newline outer =
      items.foldr (fun v text => ',' :: (newline level ++ (v.indented level ++ text)))
        (newline outer) := by
  induction items with
  | nil => rfl
  | cons v items ih =>
    rw [List.foldr_cons, ← ih]
    simp [indentedItems]

theorem indentedMembers_append (level outer : Nat) (members : List (String × Json)) :
    indentedMembers level members ++ newline outer =
      members.foldr (fun m text => ',' :: (newline level ++ (memberLine level m ++ text)))
        (newline outer) := by
  induction members with
  | nil => rfl
  | cons m members ih =>
    rw [List.foldr_cons, ← ih]
    simp [indentedMembers, memberLine]

/-- The items of an array stand between its brackets. -/
theorem bracketed_array (level : Nat) (items : List Json) :
    Bracketed '[' ']' (items.map fun v => v.indented (level + 1))
      ((Json.array items).indented level) := by
  cases items with
  | nil => exact .nil nil_isGap
  | cons v items =>
    have htext : (Json.array (v :: items)).indented level = '[' :: (newline (level + 1) ++
        (v.indented (level + 1) ++
          ((indentedItems (level + 1) items ++ newline level) ++ [']']))) := by
      simp [indented]
    rw [htext, indentedItems_append]
    exact .cons (newline_isGap _) (further_lines _ _ _ items)

/-- The members of an object stand between its brackets. -/
theorem bracketed_object (level : Nat) (members : List (String × Json)) :
    Bracketed '\x7b' '\x7d' (members.map (memberLine (level + 1)))
      ((Json.object members).indented level) := by
  cases members with
  | nil => exact .nil nil_isGap
  | cons m members =>
    have htext : (Json.object (m :: members)).indented level = '\x7b' :: (newline (level + 1) ++
        (memberLine (level + 1) m ++
          ((indentedMembers (level + 1) members ++ newline level) ++ ['\x7d']))) := by
      simp [indented, memberLine]
    rw [htext, indentedMembers_append]
    exact .cons (newline_isGap _) (further_lines _ _ _ members)

/-! ## Values of settings -/

theorem spellsColor_indented (level : Nat) (color : Color) :
    SpellsColor color (color.toJson.indented level) := by
  refine ⟨_, ?_, bracketed_array level _⟩
  simp only [List.map_cons, List.map_nil, indented]
  exact .cons (spellsNumber_byte _) (.cons (spellsNumber_byte _) (.cons (spellsNumber_byte _) .nil))

theorem spellsKey_indented (level : Nat) (key : Key) :
    SpellsKey key (key.toJson.indented level) := by
  cases key with
  | other name =>
    exact .other (isText_writeText name) (isMember_memberLine (level + 1) ("Other", .text name))
      (bracketed_object level [("Other", .text name)])
  | shift => exact .named (fun _ h => by cases h) (isText_writeText "Shift")
  | ctrl => exact .named (fun _ h => by cases h) (isText_writeText "Ctrl")
  | alt => exact .named (fun _ h => by cases h) (isText_writeText "Alt")

/-! ## Groups of settings -/

section Group

variable {σ : Type} {fields : List (GroupField σ)}

/-- A member of an object as it is written, and what becomes of a group of settings as it is
read. -/
structure Member (σ : Type) where
  name : String
  value : Json
  put : σ → Except Problem σ

/-- The entry that a member makes. -/
def Member.entry (level : Nat) (m : Member σ) : Entry σ := ⟨m.name, m.value.indented level, m.put⟩

/-- A member fits a group if there is a field for it, which reads what is written. -/
def Member.Fits (fields : List (GroupField σ)) (level : Nat) (m : Member σ) : Prop :=
  ∃ f, fields.find? (·.name == m.name) = some f ∧ (m.entry level).ReadBy f

/-- What becomes of a group of settings as all members are read. -/
def groupBack (members : List (Member σ)) (default : σ) : Except Problem σ :=
  members.foldlM (fun group m => m.put group) default

/-- A group is read back member by member. -/
theorem yields_group (name : String) (default : σ) (level : Nat) {members : List (Member σ)}
    (hfits : ∀ m ∈ members, m.Fits fields (level + 1)) (hnodup : (members.map (·.name)).Nodup) :
    Yields (readGroup name fields default)
      ((Json.object (members.map fun m => (m.name, m.value))).indented level)
      (groupBack members default) := by
  have hback : groupBack members default =
      putAll (members.map (Member.entry (level + 1))) default := by
    rw [groupBack, putAll, List.foldlM_map]
    rfl
  have hlines : List.Forall₂ (fun (e : Entry σ) member => IsMember e.name e.text member)
      (members.map (Member.entry (level + 1)))
      ((members.map fun m => (m.name, m.value)).map (memberLine (level + 1))) := by
    rw [List.map_map, List.forall₂_map_left_iff, List.forall₂_map_right_iff, List.forall₂_same]
    exact fun m _ => isMember_memberLine (level + 1) (m.name, m.value)
  rw [hback]
  refine yields_object name default (bracketed_object level _) hlines (fun e he => ?_) ?_
  · obtain ⟨m, hm, rfl⟩ := List.mem_map.mp he
    exact .inl (hfits m hm)
  · rwa [List.map_map]

end Group

end ScatterPick.Json
