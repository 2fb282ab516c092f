import ScatterPick.Proofs.Config.Numbers
import ScatterPick.Proofs.Config.YamlParts
import ScatterPick.Proofs.Number.Special

/-!
# Settings read back from YAML

A text of members gives the part of the settings that its members were written from, in any order
and among members of other names. Numbers that are not finite make no difference: YAML has words
for them. Whole settings are read back as they were.
-/

namespace ScatterPick

open Yaml Number

/-! ## Numbers -/

theorem float?_yamlSingle {x : Float32} (h : x.isFinite = true → SingleReadsBack x) :
    (float? (Style.yamlSingle.single x)).map narrow = some x := by
  cases hx : x.isFinite with
  | true => exact (h hx).2
  | false =>
    rcases single_of_not_finite hx with rfl | rfl | rfl
    · decide +kernel
    · decide +kernel
    · decide +kernel

theorem float?_yamlDouble {x : Float} (h : x.isFinite = true → DoubleReadsBack x) :
    float? (Style.yamlDouble.double x) = some x := by
  cases hx : x.isFinite with
  | true => exact (h hx).2
  | false =>
    rcases double_of_not_finite hx with rfl | rfl | rfl
    · decide +kernel
    · decide +kernel
    · decide +kernel

section Numbers

variable {k : Nat}

theorem conveys_yamlSingle {x : Float32} (h : x.isFinite = true → SingleReadsBack x) :
    Conveys k (.scalar (yamlSingle x)) fun n => ∀ d : Document,
      SpellsSingle x (d.follow n) := by
  have hx := float?_yamlSingle h
  obtain ⟨y, hy, -⟩ := Option.map_eq_some_iff.mp hx
  exact (conveys_number hy).imp fun n hn d => ⟨_, hx, hn.follow d⟩

theorem conveys_yamlDouble {x : Float} (h : x.isFinite = true → DoubleReadsBack x) :
    Conveys k (.scalar (Style.yamlDouble.double x).toList) fun n => ∀ d : Document,
      SpellsDouble x (d.follow n) :=
  (conveys_number (float?_yamlDouble h)).imp fun _ hn d => ⟨_, float?_yamlDouble h, hn.follow d⟩

theorem conveys_yamlExpansion {x : Option Float32}
    (h : ∀ y ∈ x, y.isFinite = true → SingleReadsBack y) :
    Conveys k (.scalar ((x.map yamlSingle).getD "null".toList)) fun n => ∀ d : Document,
      SpellsOptional x (d.follow n) := by
  cases x with
  | none =>
    have hnull : PlainScalar "null".toList := ⟨.word (by decide), by decide, by decide⟩
    exact (conveys_plain hnull (by decide)).imp fun n hn d => ⟨"null", rfl, hn.follow d⟩
  | some y => exact conveys_yamlSingle (h y rfl)

end Numbers

/-! ## Blocks -/

namespace Yaml

/-- A block of any shape, with plain scalars and texts between double quotes. -/
inductive Block.IsValue : Block → Prop
  | plain {cs : List Char} : PlainScalar cs → cs.all isAllowed = true → IsValue (.scalar cs)
  | quoted (cs : List Char) : IsValue (.scalar (writeDouble cs))
  | empty : IsValue .empty
  | items {scalars : List (List Char)} : scalars ≠ [] → (∀ cs ∈ scalars, PlainScalar cs) →
    (∀ cs ∈ scalars, cs.all isAllowed = true) → IsValue (.items scalars)
  | group {members : List (String × Block)} : members ≠ [] →
    (∀ m ∈ members, isFieldName m.1.toList = true) → (∀ m ∈ members, IsValue m.2) →
      IsValue (.group members)

theorem Block.IsValue.conveys {b : Block} (h : Block.IsValue b) (k : Nat) :
    Conveys k b fun _ => True := by
  induction h generalizing k with
  | plain hplain hallowed =>
    have hconveys := conveys_plain (k := k) (s := String.ofList _)
      (by rwa [String.toList_ofList]) (by rwa [String.toList_ofList])
    rw [String.toList_ofList] at hconveys
    exact hconveys.imp fun _ _ => trivial
  | quoted cs =>
    exact ⟨all_isAllowed_scalar (all_isAllowed_writeDouble cs), _, spells_double cs,
      (builds_scalar _ _).imp fun _ _ => trivial⟩
  | empty => exact conveys_empty.imp fun _ _ => trivial
  | items hne hplain hallowed => exact (conveys_items hne hplain hallowed).imp fun _ _ => trivial
  | @group members hne hnames hvalues ih =>
    let es : List Described := members.map fun m => ⟨m.1, m.2, fun _ => True⟩
    have hentries : es.map Described.entry = members := by
      simp [es, Described.entry, Function.comp_def]
    rw [← hentries]
    refine (conveys_members (by simpa [es] using hne) fun e he => ?_).imp fun _ _ => trivial
    obtain ⟨m, hm, rfl⟩ := List.mem_map.mp he
    exact ⟨hnames m hm, ih m hm (k + 2)⟩

/-- Members that give the values of fields, as they are written, with the names that they give. -/
structure Block.Gives (fields : List (Known Block)) (names : List String)
    (members : List (String × Block)) : Prop where
  nonempty : members ≠ []
  named : members.map Prod.fst = names
  nodup : names.Nodup
  spelled : ∀ m ∈ members, isFieldName m.1.toList = true
  values : ∀ m ∈ members, Known.Allows fields Block.IsValue m.1 m.2

/-- A mapping of such members, which may have none. -/
inductive Block.Holds (fields : List (Known Block)) : List String → Block → Prop
  | group {names : List String} {members : List (String × Block)} :
    Block.Gives fields names members → Holds fields names (.group members)
  | empty : Holds fields [] .empty

/-- What a whole file consists of. -/
def Block.document : Block → List Char
  | .group members => writeMembers 0 members
  | b => (b.value 0).tail

/-- What is written for a field conveys what may stand for it. -/
structure Writes (k : Nat) (written : Known Block) (field : Known (Document × Node)) : Prop where
  name : field.name = written.name
  conveys : ∀ b, written.Stands b → Conveys k b fun n => ∀ d, field.Stands (d, n)

section Gives

variable {k : Nat} {written : List (Known Block)} {fields : List (Known (Document × Node))}
  {names : List String} {members : List (String × Block)}

theorem conveys_allowed (h : List.Forall₂ (Writes k) written fields) {name : String} {b : Block}
    (hb : Known.Allows written Block.IsValue name b) :
    Conveys k b fun n => ∀ d, Known.Allows fields (fun _ => True) name (d, n) := by
  rcases Known.find?_pair h (fun _ _ h => h.name) name with
    ⟨w, field, hw, hfield, -, hwrites⟩ | ⟨hw, hfield⟩
  · rw [Known.Allows, hw] at hb
    refine (hwrites.conveys b hb).imp fun n hn d => ?_
    rw [Known.Allows, hfield]
    exact hn d
  · rw [Known.Allows, hw] at hb
    refine (hb.conveys k).imp fun n _ d => ?_
    rw [Known.Allows, hfield]
    trivial

/-- A member with what may stand for its value. -/
def describe (fields : List (Known (Document × Node))) (m : String × Block) : Described :=
  ⟨m.1, m.2, fun n => ∀ d, Known.Allows fields (fun _ => True) m.1 (d, n)⟩

theorem map_describe (fields : List (Known (Document × Node))) (members : List (String × Block)) :
    (members.map (describe fields)).map Described.entry = members := by
  rw [List.map_map]
  exact List.map_id members

theorem gives_described (hgives : Block.Gives written names members) {pairs : List (Node × Node)}
    (h : AreDescribed (members.map (describe fields)) pairs) {d : Document} {n : Node} {mark : Mark}
    (hn : d.follow n = .mapping mark none pairs) : Gives d fields names n := by
  refine ⟨mark, none, pairs, hn, hgives.nodup, ?_⟩
  rw [AreDescribed, List.forall₂_map_left_iff] at h
  rw [← hgives.named, List.forall₂_map_left_iff]
  refine h.imp fun m p hp => ⟨?_, hp.2 d⟩
  obtain ⟨mark, hname⟩ := hp.1.follow d
  exact ⟨mark, none, .plain, hname⟩

theorem describe_fits (h : List.Forall₂ (Writes k) written fields)
    (hgives : Block.Gives written names members) :
    ∀ e ∈ members.map (describe fields), e.Fits k := by
  intro e he
  obtain ⟨m, hm, rfl⟩ := List.mem_map.mp he
  exact ⟨hgives.spelled m hm, conveys_allowed h (hgives.values m hm)⟩

/-- A group that is written from fields gives them. -/
theorem Block.Gives.conveys (hgives : Block.Gives written names members)
    (h : List.Forall₂ (Writes (k + 2)) written fields) :
    Conveys k (.group members) fun n => ∀ d, Yaml.Gives d fields names n := by
  have hconveys :=
    conveys_members (k := k) (by simpa using hgives.nonempty) (describe_fits h hgives)
  rw [map_describe] at hconveys
  refine hconveys.imp fun n hn d => ?_
  obtain ⟨mark, pairs, rfl, hpairs⟩ := hn
  exact gives_described hgives hpairs rfl

theorem gives_empty (d : Document) (fields : List (Known (Document × Node))) (mark : Mark) :
    Yaml.Gives d fields [] (.mapping mark none []) :=
  ⟨mark, none, [], rfl, List.nodup_nil, .nil⟩

/-- A mapping that is written from fields gives them. -/
theorem Block.Holds.conveys {b : Block} (hholds : Block.Holds written names b)
    (h : List.Forall₂ (Writes (k + 2)) written fields) :
    Conveys k b fun n => ∀ d, Yaml.Gives d fields names n := by
  cases hholds with
  | group hgives => exact hgives.conveys h
  | empty =>
    refine conveys_empty.imp fun n hn d => ?_
    obtain ⟨mark, rfl⟩ := hn
    exact gives_empty d fields mark

theorem read?_empty : Document.read? (String.ofList Block.empty.document) =
    some ⟨.mapping .start none [], []⟩ := by
  have hscan : scan Block.empty.document = some #[⟨.flowMapping, .start⟩,
      ⟨.flowMappingEnd, Mark.start.next⟩, ⟨.streamEnd, ⟨3, 1, 0⟩⟩] := rfl
  rw [Document.read?, String.toList_ofList, hscan]
  rfl

/-- A file that is written from fields has a document that gives them. -/
theorem Block.Holds.document {b : Block} (hholds : Block.Holds written names b)
    (h : List.Forall₂ (Writes 0) written fields) :
    ∃ d, Document.read? (String.ofList b.document) = some d ∧
      Yaml.Gives d fields names d.root := by
  cases hholds with
  | @group _ members hgives =>
    obtain ⟨d, mark, pairs, hdocument, hroot, hpairs⟩ :=
      read?_described (by simpa using hgives.nonempty) (describe_fits h hgives)
    rw [map_describe] at hdocument
    exact ⟨d, hdocument, gives_described hgives hpairs (by rw [hroot]; rfl)⟩
  | empty => exact ⟨_, read?_empty, gives_empty _ fields .start⟩

end Gives

end Yaml

/-! ## Settings -/

/-- What is written for the fields of selection settings. -/
def SelectionSettings.yamlBlocks (s : SelectionSettings) : List (Known Block) :=
  [⟨"alpha_other", (· = .scalar (yamlSingle s.alphaOther))⟩,
    ⟨"expand_selected", (· = .scalar ((s.expandSelected.map yamlSingle).getD "null".toList))⟩,
    ⟨"click_tolerance", (· = .scalar (Style.yamlDouble.double s.clickTolerance).toList)⟩,
    ⟨"additive_key", (· = .scalar s.additiveKey.toYaml)⟩]

/-- What is written for the settings of the strip. -/
def HudSettings.yamlBlocks (s : HudSettings) : List (Known Block) :=
  [⟨"gap", (· = .scalar (yamlSingle s.gap))⟩, ⟨"size", (· = .scalar (yamlSingle s.size))⟩,
    ⟨"color", (· = s.color.toYaml)⟩, ⟨"hover_color", (· = s.hoverColor.toYaml)⟩,
    ⟨"title_font_size", (· = .scalar (yamlSingle s.titleFontSize))⟩]

/-- What is written for the look of points. -/
def MarkerLook.yamlBlocks (s : MarkerLook) : List (Known Block) :=
  [⟨"color", (· = s.color.toYaml)⟩, ⟨"radius", (· = .scalar (yamlSingle s.radius))⟩]

/-- What is written for the groups of settings, if some fields are named. -/
def Settings.yamlBlocks (s : Settings) (n : Named) : List (Known Block) :=
  [⟨"selection", Block.Holds s.selection.yamlBlocks n.selection⟩,
    ⟨"hud", Block.Holds s.hud.yamlBlocks n.hud⟩, ⟨"look", Block.Holds s.look.yamlBlocks n.look⟩]

theorem Yaml.Writes.of_conveys {k : Nat} {name : String} {b : Block}
    {Stands : Document × Node → Prop} (h : Conveys k b fun n => ∀ d, Stands (d, n)) :
    Writes k ⟨name, (· = b)⟩ ⟨name, Stands⟩ where
  name := rfl
  conveys _ hb := hb ▸ h

theorem Yaml.Writes.of_holds {k : Nat} {name : String} {written : List (Known Block)}
    {fields : List (Known (Document × Node))} {names : List String}
    (h : List.Forall₂ (Writes (k + 2)) written fields) :
    Writes k ⟨name, Block.Holds written names⟩ ⟨name, fun p => Gives p.1 fields names p.2⟩ where
  name := rfl
  conveys _ hb := hb.conveys h

theorem writes_selection {s : SelectionSettings}
    (halpha : s.alphaOther.isFinite = true → SingleReadsBack s.alphaOther)
    (hexpand : ∀ x ∈ s.expandSelected, x.isFinite = true → SingleReadsBack x)
    (htolerance : s.clickTolerance.isFinite = true → DoubleReadsBack s.clickTolerance) :
    List.Forall₂ (Writes 2) s.yamlBlocks s.yamlValues :=
  .cons (.of_conveys (conveys_yamlSingle halpha)) <|
  .cons (.of_conveys (conveys_yamlExpansion hexpand)) <|
  .cons (.of_conveys (conveys_yamlDouble htolerance)) <|
  .cons (.of_conveys (conveys_key s.additiveKey)) .nil

theorem writes_hud {s : HudSettings} (hgap : s.gap.isFinite = true → SingleReadsBack s.gap)
    (hsize : s.size.isFinite = true → SingleReadsBack s.size)
    (hfont : s.titleFontSize.isFinite = true → SingleReadsBack s.titleFontSize) :
    List.Forall₂ (Writes 2) s.yamlBlocks s.yamlValues :=
  .cons (.of_conveys (conveys_yamlSingle hgap)) <|
  .cons (.of_conveys (conveys_yamlSingle hsize)) <|
  .cons (.of_conveys (conveys_color 2 s.color)) <|
  .cons (.of_conveys (conveys_color 2 s.hoverColor)) <|
  .cons (.of_conveys (conveys_yamlSingle hfont)) .nil

theorem writes_look {s : MarkerLook}
    (hradius : s.radius.isFinite = true → SingleReadsBack s.radius) :
    List.Forall₂ (Writes 2) s.yamlBlocks s.yamlValues :=
  .cons (.of_conveys (conveys_color 2 s.color)) <|
  .cons (.of_conveys (conveys_yamlSingle hradius)) .nil

namespace Settings

variable {s : Settings}

/-- A file that is written from a part of some settings, in any order and among members of other
names, gives the part. -/
theorem yamlGives_of_holds (h : s.NumbersReadBack) {n : Named} {b : Block}
    (hholds : Block.Holds (s.yamlBlocks n) n.groups b) :
    s.YamlGives n (String.ofList b.document) := by
  have hsingle {x : Float32} (hx : x ∈ s.requiredSingles) (hfinite : x.isFinite = true) :
      SingleReadsBack x := h.single x (List.mem_append_right _ hx) hfinite
  have hexpand : ∀ x ∈ s.selection.expandSelected, x.isFinite = true → SingleReadsBack x :=
    fun x hx => h.single x (List.mem_append_left _ (Option.mem_toList.mpr hx))
  refine hholds.document (.cons (.of_holds (writes_selection (hsingle ?_) hexpand h.double)) <|
    .cons (.of_holds (writes_hud (hsingle ?_) (hsingle ?_) (hsingle ?_))) <|
    .cons (.of_holds (writes_look (hsingle ?_))) .nil) <;>
  simp [requiredSingles]

theorem selection_toYaml (s : SelectionSettings) :
    Block.Holds s.yamlBlocks allNamed.selection s.toYaml := by
  refine .group ⟨List.cons_ne_nil _ _, rfl, by decide, ?_, ?_⟩
  · simp only [List.forall_mem_cons]
    exact ⟨by decide, by decide, by decide, by decide, fun _ h => by cases h⟩
  · simp only [List.forall_mem_cons]
    exact ⟨rfl, rfl, rfl, rfl, fun _ h => by cases h⟩

theorem hud_toYaml (s : HudSettings) : Block.Holds s.yamlBlocks allNamed.hud s.toYaml := by
  refine .group ⟨List.cons_ne_nil _ _, rfl, by decide, ?_, ?_⟩
  · simp only [List.forall_mem_cons]
    exact ⟨by decide, by decide, by decide, by decide, by decide, fun _ h => by cases h⟩
  · simp only [List.forall_mem_cons]
    exact ⟨rfl, rfl, rfl, rfl, rfl, fun _ h => by cases h⟩

theorem look_toYaml (s : MarkerLook) : Block.Holds s.yamlBlocks allNamed.look s.toYaml := by
  refine .group ⟨List.cons_ne_nil _ _, rfl, by decide, ?_, ?_⟩
  · simp only [List.forall_mem_cons]
    exact ⟨by decide, by decide, fun _ h => by cases h⟩
  · simp only [List.forall_mem_cons]
    exact ⟨rfl, rfl, fun _ h => by cases h⟩

theorem groups_toYaml (s : Settings) : Block.Holds (s.yamlBlocks allNamed) allNamed.groups
    (.group [("selection", s.selection.toYaml), ("hud", s.hud.toYaml),
      ("look", s.look.toYaml)]) := by
  refine .group ⟨List.cons_ne_nil _ _, rfl, by decide, ?_, ?_⟩
  · simp only [List.forall_mem_cons]
    exact ⟨by decide, by decide, by decide, fun _ h => by cases h⟩
  · simp only [List.forall_mem_cons]
    exact ⟨selection_toYaml s.selection, hud_toYaml s.hud, look_toYaml s.look,
      fun _ h => by cases h⟩

/-- The text of settings gives all of them. -/
theorem yamlGives_writeYaml (h : s.NumbersReadBack) : s.YamlGives allNamed s.writeYaml := by
  have hgives := yamlGives_of_holds h (groups_toYaml s)
  rwa [Block.document] at hgives

/-- Settings are read back from YAML as they were, whichever numbers they hold. -/
theorem readYaml_writeYaml (h : s.NumbersReadBack) : Settings.readYaml s.writeYaml = .ok s := by
  rw [readYaml_of_gives (yamlGives_writeYaml h), keeping_allNamed]

end Settings

end ScatterPick
