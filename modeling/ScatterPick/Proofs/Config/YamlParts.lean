import ScatterPick.Proofs.Config.Keeping
import ScatterPick.Proofs.Yaml.Reading

/-!
# Parts of settings in YAML

Documents that give a part of some settings: mappings with some of the members in any order, among
members that nobody asked for. The part is read, and the rest has its defaults.
-/

namespace ScatterPick

open Yaml

/-! ## Groups -/

namespace Yaml

/-- The name of a member. -/
def IsName (d : Document) (name : String) (key : Node) : Prop :=
  ∃ mark tag style, d.follow key = .scalar mark tag style name

/-- A mapping that gives the values of fields, with the names that it gives. What stands under the
name of no field does not matter. -/
def Gives (d : Document) (fields : List (Known (Document × Node))) (names : List String)
    (n : Node) : Prop :=
  ∃ mark tag members, d.follow n = .mapping mark tag members ∧ names.Nodup ∧
    List.Forall₂ (fun name (m : Node × Node) => IsName d name m.1 ∧
      Known.Allows fields (fun _ => True) name (d, m.2)) names members

section Group

variable {σ : Type}

/-- A reader of a group takes what stands for a field, and puts it where it belongs. -/
structure Reads (d : Document) (put : List String → σ → σ) (field : Known (Document × Node))
    (f : GroupField σ) : Prop where
  name : f.name = field.name
  read : ∀ n, field.Stands (d, n) → ∀ group path,
    f.read d group path n = .ok (put [field.name] group)

theorem Reads.of_read {α : Type} {d : Document} {put : List String → σ → σ} {name : String}
    {Stands : Document × Node → Prop} {read : Document → Reader α} {set : σ → α → σ} {a : α}
    (hread : ∀ n, Stands (d, n) → ∀ path, read d path n = .ok a)
    (hput : ∀ group, put [name] group = set group a) :
    Reads d put ⟨name, Stands⟩ (yamlField name read set) where
  name := rfl
  read n hn group path := by
    simp only [yamlField, hread n hn path, hput]
    rfl

variable {d : Document} {put : List String → σ → σ} {fields : List (Known (Document × Node))}
  {readers : List (GroupField σ)}

/-- Members are read one after the other, each at most once. -/
theorem readMembers_given (hput : IsOverlay (fields.map (·.name)) put)
    (h : List.Forall₂ (Reads d put) fields readers) {names : List String}
    {members : List (Node × Node)}
    (hmembers : List.Forall₂ (fun name (m : Node × Node) => IsName d name m.1 ∧
      Known.Allows fields (fun _ => True) name (d, m.2)) names members)
    (hnodup : names.Nodup) {seen : List String} (hseen : ∀ name ∈ names, name ∉ seen)
    (path : Path) (group : σ) :
    readMembers d readers path seen group members = .ok (put names group) := by
  rw [← hput.foldl]
  induction hmembers generalizing seen group with
  | nil => rfl
  | @cons name m names members hmember _ ih =>
    obtain ⟨key, value⟩ := m
    obtain ⟨⟨mark, tag, style, hkey⟩, hvalue⟩ := hmember
    rw [List.nodup_cons] at hnodup
    have hname : readText d .fieldName path key = .ok name := by
      simp only [readText, Document.located, hkey]
      rfl
    have hmore {seen' : List String} (hsubset : seen' ⊆ name :: seen) :
        readMembers d readers path seen' (put [name] group) members =
          .ok (names.foldl (fun group name => put [name] group) (put [name] group)) := by
      refine ih hnodup.2 (fun other hother hmem => ?_) (put [name] group)
      rcases List.mem_cons.mp (hsubset hmem) with rfl | hold
      · exact hnodup.1 hother
      · exact hseen other (List.mem_cons_of_mem _ hother) hold
    rcases Known.find?_pair h (fun _ _ h => h.name) name with
      ⟨field, f, hfield, hreader, rfl, hread⟩ | ⟨hfield, hreader⟩
    · rw [Known.Allows, hfield] at hvalue
      have hnew : seen.contains field.name = false := by
        simpa using hseen field.name List.mem_cons_self
      have hf := hread.read value hvalue group (memberPath path key)
      simp only [readMembers, hname, hreader, hnew, hf, bind, Except.bind, Bool.false_eq_true,
        if_false, List.foldl_cons]
      exact hmore (List.Subset.refl _)
    · have hkept := hput.unknown name (Known.not_mem_of_find? hfield) group
      have hmore := hmore (List.subset_cons_self name seen)
      simp only [readMembers, hname, hreader, bind, Except.bind, List.foldl_cons]
      rwa [hkept] at hmore ⊢

/-- A mapping that gives fields is read as a group with these fields. -/
theorem Gives.read {names : List String} {n : Node} (hgives : Gives d fields names n)
    (hput : IsOverlay (fields.map (·.name)) put) (h : List.Forall₂ (Reads d put) fields readers)
    (name : String) (default : σ) (path : Path) :
    readGroup d name readers default path n = .ok (put names default) := by
  obtain ⟨mark, tag, members, hn, hnodup, hmembers⟩ := hgives
  have hread := readMembers_given hput h hmembers hnodup (fun _ _ => List.not_mem_nil) path default
  simp only [readGroup, Document.located, hn, hread]
  rfl

end Group

end Yaml

/-! ## Settings -/

/-- What may stand in a document for the fields of selection settings. -/
def SelectionSettings.yamlValues (s : SelectionSettings) : List (Known (Document × Node)) :=
  [⟨"alpha_other", fun p => SpellsSingle s.alphaOther (p.1.follow p.2)⟩,
    ⟨"expand_selected", fun p => SpellsOptional s.expandSelected (p.1.follow p.2)⟩,
    ⟨"click_tolerance", fun p => SpellsDouble s.clickTolerance (p.1.follow p.2)⟩,
    ⟨"additive_key", fun p => SpellsKey s.additiveKey (p.1.follow p.2)⟩]

/-- What may stand in a document for the settings of the strip. -/
def HudSettings.yamlValues (s : HudSettings) : List (Known (Document × Node)) :=
  [⟨"gap", fun p => SpellsSingle s.gap (p.1.follow p.2)⟩,
    ⟨"size", fun p => SpellsSingle s.size (p.1.follow p.2)⟩,
    ⟨"color", fun p => SpellsColor p.1 s.color (p.1.follow p.2)⟩,
    ⟨"hover_color", fun p => SpellsColor p.1 s.hoverColor (p.1.follow p.2)⟩,
    ⟨"title_font_size", fun p => SpellsSingle s.titleFontSize (p.1.follow p.2)⟩]

/-- What may stand in a document for the look of points. -/
def MarkerLook.yamlValues (s : MarkerLook) : List (Known (Document × Node)) :=
  [⟨"color", fun p => SpellsColor p.1 s.color (p.1.follow p.2)⟩,
    ⟨"radius", fun p => SpellsSingle s.radius (p.1.follow p.2)⟩]

/-- What may stand in a document for the groups of settings, if some fields are named. -/
def Settings.yamlValues (s : Settings) (n : Named) : List (Known (Document × Node)) :=
  [⟨"selection", fun p => Gives p.1 s.selection.yamlValues n.selection p.2⟩,
    ⟨"hud", fun p => Gives p.1 s.hud.yamlValues n.hud p.2⟩,
    ⟨"look", fun p => Gives p.1 s.look.yamlValues n.look p.2⟩]

/-- A YAML text gives the named part of some settings, and nothing else that is known. -/
def Settings.YamlGives (s : Settings) (n : Named) (text : String) : Prop :=
  ∃ d, Document.read? text = some d ∧ Gives d (s.yamlValues n) n.groups d.root

section

variable {d : Document} {names : List String} {path : Path} {n : Node}

theorem SelectionSettings.read_keeping {s : SelectionSettings}
    (h : Gives d s.yamlValues names n) :
    Yaml.readGroup d "SelectionConfig" yamlFields {} path n = .ok (s.keeping names) := by
  refine h.read s.onto_isOverlay ?_ "SelectionConfig" {} path
  refine .cons (.of_read (fun _ h _ => h.read) fun _ => by simp [onto]) ?_
  refine .cons (.of_read (fun _ h _ => h.read) fun _ => by simp [onto]) ?_
  refine .cons (.of_read (fun _ h _ => h.read) fun _ => by simp [onto]) ?_
  exact .cons (.of_read (fun _ h _ => h.read) fun _ => by simp [onto]) .nil

theorem HudSettings.read_keeping {s : HudSettings} (h : Gives d s.yamlValues names n) :
    Yaml.readGroup d "HudConfig" yamlFields {} path n = .ok (s.keeping names) := by
  refine h.read s.onto_isOverlay ?_ "HudConfig" {} path
  refine .cons (.of_read (fun _ h _ => h.read) fun _ => by simp [onto]) ?_
  refine .cons (.of_read (fun _ h _ => h.read) fun _ => by simp [onto]) ?_
  refine .cons (.of_read (fun _ h _ => h.read) fun _ => by simp [onto]) ?_
  refine .cons (.of_read (fun _ h _ => h.read) fun _ => by simp [onto]) ?_
  exact .cons (.of_read (fun _ h _ => h.read) fun _ => by simp [onto]) .nil

theorem MarkerLook.read_keeping {s : MarkerLook} (h : Gives d s.yamlValues names n) :
    Yaml.readGroup d "PointLook" yamlFields {} path n = .ok (s.keeping names) := by
  refine h.read s.onto_isOverlay ?_ "PointLook" {} path
  refine .cons (.of_read (fun _ h _ => h.read) fun _ => by simp [onto]) ?_
  exact .cons (.of_read (fun _ h _ => h.read) fun _ => by simp [onto]) .nil

end

theorem Settings.ofDocument_keeping {s : Settings} {n : Named} {d : Document}
    (h : Gives d (s.yamlValues n) n.groups d.root) :
    Settings.ofDocument d = .ok (s.keeping n) := by
  refine h.read (s.trimmed n).onto_isOverlay ?_ "PersistedConfig" {} .root
  refine .cons (.of_read (fun _ h _ => SelectionSettings.read_keeping h)
    fun _ => by simp [onto, trimmed]) ?_
  refine .cons (.of_read (fun _ h _ => HudSettings.read_keeping h)
    fun _ => by simp [onto, trimmed]) ?_
  exact .cons (.of_read (fun _ h _ => MarkerLook.read_keeping h)
    fun _ => by simp [onto, trimmed]) .nil

/-- A part of some settings is read from a YAML text that gives it. -/
theorem Settings.readYaml_of_gives {s : Settings} {n : Named} {text : String}
    (h : s.YamlGives n text) : Settings.readYaml text = .ok (s.keeping n) := by
  obtain ⟨d, hdocument, hgives⟩ := h
  simp only [Settings.readYaml, hdocument, ofDocument_keeping hgives]

end ScatterPick
