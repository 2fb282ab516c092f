import Mathlib.Data.List.TakeWhile
import ScatterPick.Proofs.Config.Keeping
import ScatterPick.Proofs.Json.Group

/-!
# Parts of settings in JSON

JSON texts that give a part of some settings: objects with some of the members in any order, among
members that nobody asked for, and arrays of the first values. Whatever the layout is, the part is
read, and the rest has its defaults.
-/

namespace ScatterPick

open Json

/-! ## Groups -/

namespace Json

/-- The texts that give the values of fields, with the names that they give. -/
inductive Gives (fields : List (Known (List Char))) : List String → List Char → Prop
  | object {members : List (String × List Char)} {items : List (List Char)} {text : List Char} :
    (members.map Prod.fst).Nodup → (∀ m ∈ members, Known.Allows fields IsValue m.1 m.2) →
      List.Forall₂ (fun m => IsMember m.1 m.2) members items → Bracketed '\x7b' '\x7d' items text →
        Gives fields (members.map Prod.fst) text
  /-- The first values, in the order of the fields. -/
  | array {count : Nat} {values : List (List Char)} {text : List Char} :
    List.Forall₂ (fun f value => f.Stands value) (fields.take count) values →
      Bracketed '[' ']' values text → Gives fields ((fields.take count).map (·.name)) text

theorem Gives.opens {fields : List (Known (List Char))} {names : List String} {text : List Char}
    (h : Gives fields names text) : Opens text := by
  cases h with
  | object _ _ _ htext => exact Bracketed.opens (Or.inr htext)
  | array _ htext => exact Bracketed.opens (Or.inl htext)

section Group

variable {σ : Type}

/-- A reader of a group takes what stands for a field, and puts it where it belongs. -/
structure Reads (put : List String → σ → σ) (field : Known (List Char)) (f : GroupField σ) :
    Prop where
  name : f.name = field.name
  opens : ∀ text, field.Stands text → Opens text
  yields : ∀ text, field.Stands text → ∀ group,
    Yields (f.read group) text (.ok (put [field.name] group))

variable {put : List String → σ → σ} {fields : List (Known (List Char))}
  {readers : List (GroupField σ)}

/-- A member as an entry that puts its field. -/
def entryOf (put : List String → σ → σ) (m : String × List Char) : Entry σ :=
  ⟨m.1, m.2, fun group => .ok (put [m.1] group)⟩

/-- Reading entries that put their fields puts all of them. -/
theorem putAll_ok (members : List (String × List Char)) (group : σ) :
    putAll (members.map (entryOf put)) group =
      .ok ((members.map Prod.fst).foldl (fun group name => put [name] group) group) := by
  induction members generalizing group with
  | nil => rfl
  | cons m members ih => exact ih (put [m.1] group)

/-- Values stand as entries for the readers of their fields. -/
theorem exists_elements (h : List.Forall₂ (Reads put) fields readers) {values : List (List Char)}
    (hvalues : List.Forall₂ (fun f value => f.Stands value) fields values) :
    ∃ members : List (String × List Char), members.map Prod.fst = fields.map (·.name) ∧
      members.map Prod.snd = values ∧
      List.Forall₂ (fun (e : Entry σ) f => Opens e.text ∧ e.ReadBy f) (members.map (entryOf put))
        readers := by
  induction h generalizing values with
  | nil =>
    cases hvalues
    exact ⟨[], rfl, rfl, .nil⟩
  | @cons field f fields readers hread _ ih =>
    cases hvalues with
    | @cons _ value _ values hvalue hvalues =>
      obtain ⟨members, hnames, htexts, hentries⟩ := ih hvalues
      exact ⟨(field.name, value) :: members, congrArg (field.name :: ·) hnames,
        congrArg (value :: ·) htexts,
        .cons ⟨hread.opens value hvalue, hread.yields value hvalue⟩ hentries⟩

/-- A text that gives fields is read as a group with these fields. -/
theorem Gives.yields {names : List String} {text : List Char} (hgives : Gives fields names text)
    (hput : IsOverlay (fields.map (·.name)) put) (h : List.Forall₂ (Reads put) fields readers)
    (name : String) (default : σ) :
    Yields (readGroup name readers default) text (.ok (put names default)) := by
  rw [← hput.foldl]
  cases hgives with
  | @object members items _ hnodup hallows hmembers htext =>
    rw [← putAll_ok]
    refine yields_object name default htext ?_ (fun e he => ?_) ?_
    · rwa [List.forall₂_map_left_iff]
    · obtain ⟨m, hm, rfl⟩ := List.mem_map.mp he
      have hvalue := hallows m hm
      rcases Known.find?_pair h (fun _ _ h => h.name) m.1 with
        ⟨field, f, hfield, hreader, hname, hread⟩ | ⟨hfield, hreader⟩
      · rw [Known.Allows, hfield] at hvalue
        refine .inl ⟨f, hreader, ?_⟩
        have hyields := hread.yields m.2 hvalue
        rwa [hname] at hyields
      · rw [Known.Allows, hfield] at hvalue
        have hkept := hput.unknown m.1 (Known.not_mem_of_find? hfield)
        exact .inr ⟨hreader, hvalue, funext fun group => congrArg Except.ok (hkept group)⟩
    · rwa [List.map_map]
  | @array count values _ hvalues htext =>
    obtain ⟨members, hnames, htexts, hentries⟩ :=
      exists_elements (List.forall₂_take count h) hvalues
    have hentry : (fun e : Entry σ => e.text) ∘ entryOf put = Prod.snd := rfl
    rw [← hnames, ← putAll_ok, ← List.take_append_drop count readers]
    refine yields_array name default ?_ hentries
    rwa [List.map_map, hentry, htexts]

end Group

end Json

/-! ## Settings -/

/-- What may stand in a JSON text for the fields of selection settings. -/
def SelectionSettings.jsonValues (s : SelectionSettings) : List (Known (List Char)) :=
  [⟨"alpha_other", SpellsNumber readSingle s.alphaOther⟩,
    ⟨"expand_selected", SpellsOptional s.expandSelected⟩,
    ⟨"click_tolerance", SpellsNumber readDouble s.clickTolerance⟩,
    ⟨"additive_key", SpellsKey s.additiveKey⟩]

/-- What may stand in a JSON text for the settings of the strip. -/
def HudSettings.jsonValues (h : HudSettings) : List (Known (List Char)) :=
  [⟨"gap", SpellsNumber readSingle h.gap⟩, ⟨"size", SpellsNumber readSingle h.size⟩,
    ⟨"color", SpellsColor h.color⟩, ⟨"hover_color", SpellsColor h.hoverColor⟩,
    ⟨"title_font_size", SpellsNumber readSingle h.titleFontSize⟩]

/-- What may stand in a JSON text for the look of points. -/
def MarkerLook.jsonValues (l : MarkerLook) : List (Known (List Char)) :=
  [⟨"color", SpellsColor l.color⟩, ⟨"radius", SpellsNumber readSingle l.radius⟩]

/-- What may stand in a JSON text for the groups of settings, if some fields are named. -/
def Settings.jsonValues (s : Settings) (n : Named) : List (Known (List Char)) :=
  [⟨"selection", Gives s.selection.jsonValues n.selection⟩,
    ⟨"hud", Gives s.hud.jsonValues n.hud⟩, ⟨"look", Gives s.look.jsonValues n.look⟩]

/-- A JSON text gives the named part of some settings, and nothing else that is known. -/
def Settings.JsonGives (s : Settings) (n : Named) (text : List Char) : Prop :=
  ∃ before body after, IsGap before ∧ IsGap after ∧ Gives (s.jsonValues n) n.groups body ∧
    text = before ++ (body ++ after)

end ScatterPick
