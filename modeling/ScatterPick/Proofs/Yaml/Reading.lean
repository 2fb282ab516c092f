import ScatterPick.Config.YamlForm
import ScatterPick.Proofs.Yaml.Allowed
import ScatterPick.Proofs.Yaml.Building
import ScatterPick.Proofs.Yaml.Members
import ScatterPick.Proofs.Yaml.Numbers

/-!
# Reading values as they are written

What a node has to be for a reader to take it to a value, directly or by way of an alias. A written
value conveys such a node, and a group of members conveys a mapping with a node for each of them.
-/

namespace ScatterPick.Yaml

open Builder Number

/-- A value that is indented by `k` conveys a node with a property. -/
structure Conveys (k : Nat) (b : Block) (P : Node → Prop) : Prop where
  allowed : (b.value k).all isAllowed = true
  words : ∃ ws, Spells k (b.value k) ws ∧ Builds ws P

theorem Conveys.imp {k : Nat} {b : Block} {P Q : Node → Prop} (h : Conveys k b P)
    (hPQ : ∀ n, P n → Q n) : Conveys k b Q := by
  obtain ⟨hallowed, ws, hspells, hbuilds⟩ := h
  exact ⟨hallowed, ws, hspells, hbuilds.imp hPQ⟩

/-! ## Scalars -/

section

variable {k : Nat}

theorem all_isAllowed_scalar {cs : List Char} (h : cs.all isAllowed = true) :
    (Block.value k (.scalar cs)).all isAllowed = true := by
  have hend : (lineEnd cs).all isAllowed = true := by
    rw [lineEnd]
    split <;> rfl
  rw [Block.value, List.all_cons, List.all_append, h, hend]
  rfl

theorem conveys_plain {s : String} (h : PlainScalar s.toList)
    (hallowed : s.toList.all isAllowed = true) : Conveys k (.scalar s.toList) (IsPlain s) := by
  have hspells := spells_plain (k := k) h
  rw [String.ofList_toList] at hspells
  exact ⟨all_isAllowed_scalar hallowed, _, hspells, builds_scalar .plain s⟩

/-- A text after the tag of other keys. -/
theorem conveys_other (s : String) : Conveys 2 (.scalar ("!Other ".toList ++ writeText s)) fun n =>
    ∃ mark style, n = .scalar mark (some "!Other") style s := by
  obtain ⟨style, hspells⟩ := spells_text s
  have htag : ("!Other ".toList).all isAllowed = true := by decide
  have hallowed : ("!Other ".toList ++ writeText s).all isAllowed = true := by
    rw [List.all_append, htag, all_isAllowed_writeText]
    rfl
  have hend : lineEnd ("!Other ".toList ++ writeText s) = lineEnd (writeText s) :=
    lineEnd_append (by decide) (writeText s)
  have hvalue : Block.value 2 (.scalar ("!Other ".toList ++ writeText s)) =
      ' ' :: ("!Other".toList ++ ' ' :: (writeText s ++ lineEnd (writeText s))) := by
    rw [Block.value, hend]
    rfl
  refine ⟨all_isAllowed_scalar hallowed, _, hvalue ▸ spells_tagged hspells, ?_⟩
  refine (builds_tagged style s).imp fun n hn => ?_
  obtain ⟨mark, rfl⟩ := hn
  exact ⟨mark, style, rfl⟩

theorem conveys_number {s : String} {x : Float} (h : float? s = some x) :
    Conveys k (.scalar s.toList) (IsPlain s) :=
  conveys_plain (plainScalar_number h).1 (plainScalar_number h).2

theorem conveys_items {scalars : List (List Char)} (hne : scalars ≠ [])
    (h : ∀ cs ∈ scalars, PlainScalar cs) (hallowed : ∀ cs ∈ scalars, cs.all isAllowed = true) :
    Conveys k (.items scalars) fun n => ∃ mark items, n = .sequence mark none items ∧
      List.Forall₂ IsPlain (scalars.map String.ofList) items := by
  have hwords : itemWords scalars =
      (scalars.map String.ofList).flatMap fun s => [.entry, .scalar .plain s] := by
    rw [itemWords, List.flatMap_map]
  have htexts : scalars.map String.ofList ≠ [] := by simpa using hne
  have hbuilds := builds_items htexts
  rw [← hwords] at hbuilds
  refine ⟨?_, _, spells_items hne h, hbuilds⟩
  have hline (cs : List Char) (hcs : cs ∈ scalars) :
      (List.replicate k ' ' ++ ['-', ' '] ++ cs ++ ['\n']).all isAllowed = true := by
    simp [hallowed cs hcs, isAllowed]
  rw [Block.value, List.all_cons, List.all_flatMap, List.all_eq_true.mpr hline]
  rfl

end

/-! ## Readers of scalars -/

/-- The numbers that a plain text stands for. -/
def SpellsSingle (x : Float32) (n : Node) : Prop :=
  ∃ s, (float? s).map narrow = some x ∧ IsPlain s n

/-- A double that a plain text stands for. -/
def SpellsDouble (x : Float) (n : Node) : Prop := ∃ s, float? s = some x ∧ IsPlain s n

/-- An absent number is null or left empty. -/
def SpellsOptional (x : Option Float32) (n : Node) : Prop :=
  match x with
  | none => ∃ s, (s.isEmpty || isNull s) = true ∧ IsPlain s n
  | some x => SpellsSingle x n

/-- An integer from 0 to 255 that a plain text stands for. -/
def SpellsByte (b : UInt8) (n : Node) : Prop :=
  ∃ s, unsigned? (Nat.pow 2 64) s.toList = some b.toNat ∧ IsPlain s n

section

variable {d : Document} {path : Path} {n : Node}

theorem readFloat_plain (wanted : Wanted) {s : String} {x : Float} (hs : float? s = some x)
    (hn : IsPlain s (d.follow n)) : readFloat d wanted path n = .ok x := by
  obtain ⟨mark, hn⟩ := hn
  simp only [readFloat, Document.located, hn, numberText?, decide_true, Bool.true_or, if_true,
    Option.bind_some, hs]
  rfl

theorem SpellsDouble.read {x : Float} (h : SpellsDouble x (d.follow n)) :
    readDouble d path n = .ok x := by
  obtain ⟨s, hs, hn⟩ := h
  exact readFloat_plain .double hs hn

theorem SpellsSingle.read {x : Float32} (h : SpellsSingle x (d.follow n)) :
    readSingle d path n = .ok x := by
  obtain ⟨s, hs, hn⟩ := h
  obtain ⟨y, hy, rfl⟩ := Option.map_eq_some_iff.mp hs
  rw [readSingle, readFloat_plain .single hy hn]
  rfl

theorem SpellsOptional.read {x : Option Float32} (h : SpellsOptional x (d.follow n)) :
    readOptional d path n = .ok x := by
  cases x with
  | none =>
    obtain ⟨s, hs, mark, hn⟩ := h
    have habsent : isAbsent (.scalar mark none .plain s) = .ok true := congrArg Except.ok hs
    simp only [readOptional, hn, habsent, bind, Except.bind, if_true]
    rfl
  | some x =>
    obtain ⟨s, hs, mark, hn⟩ := h
    have hread : readSingle d path (.scalar mark none .plain s) = .ok x :=
      SpellsSingle.read ⟨s, hs, mark, rfl⟩
    obtain ⟨y, hy, -⟩ := Option.map_eq_some_iff.mp hs
    obtain ⟨hempty, hnull⟩ := not_absent_of_number hy
    have habsent : isAbsent (.scalar mark none .plain s) = .ok false := by
      rw [isAbsent, hempty, hnull]
      rfl
    simp only [readOptional, hn, habsent, hread, bind, Except.bind, Bool.false_eq_true, if_false]
    rfl

theorem SpellsByte.read {b : UInt8} (h : SpellsByte b (d.follow n)) :
    readByte d path n = .ok b := by
  obtain ⟨s, hs, mark, hn⟩ := h
  have hrange : b.toNat < 256 := b.toNat_lt
  simp only [readByte, Document.located, hn, numberText?, decide_true, Bool.true_or, if_true,
    Option.bind_some, hs, hrange, UInt8.ofNat_toNat]
  rfl

theorem readItems_bytes {bytes : List UInt8} {items : List Node}
    (h : List.Forall₂ (fun b item => SpellsByte b (d.follow item)) bytes items) (index : Nat) :
    readItems (readByte d) path index items = .ok bytes := by
  induction h generalizing index with
  | nil => rfl
  | cons hitem _ ih =>
    rw [readItems, hitem.read, ih]
    rfl

end

/-! ## Colours and keys -/

/-- A colour is a sequence of three numbers. -/
def SpellsColor (d : Document) (color : Color) (n : Node) : Prop :=
  ∃ mark tag items, n = .sequence mark tag items ∧
    List.Forall₂ (fun b item => SpellsByte b (d.follow item))
      [color.red, color.green, color.blue] items

/-- A key is its name, or the name of another key after a tag. -/
inductive SpellsKey : Key → Node → Prop
  | named {key : Key} (mark : Mark) (style : ScalarStyle) : (∀ name, key ≠ .other name) →
    SpellsKey key (.scalar mark none style key.text)
  | other (mark : Mark) (style : ScalarStyle) (name : String) :
    SpellsKey (.other name) (.scalar mark (some "!Other") style name)

section

variable {d : Document} {path : Path} {n : Node}

theorem SpellsColor.read {color : Color} (h : SpellsColor d color (d.follow n)) :
    readColor d path n = .ok color := by
  obtain ⟨mark, tag, items, hn, hitems⟩ := h
  have hlength : items.length = 3 := hitems.length_eq.symm
  have htake : items.take 3 = items := List.take_of_length_le (by omega)
  simp only [readColor, Document.located, hn, bind, Except.bind, pure, Except.pure, htake,
    readItems_bytes hitems, hlength, if_true]
  rfl

theorem SpellsKey.read {key : Key} (h : SpellsKey key (d.follow n)) :
    readKey d path n = .ok key := by
  generalize hn : d.follow n = m at h
  rw [readKey, hn]
  cases h with
  | other mark style name => rfl
  | named mark style hkey =>
    cases key with
    | other name => exact absurd rfl (hkey name)
    | shift => rfl
    | ctrl => rfl
    | alt => rfl

end

theorem Builder.IsPlain.follow {s : String} {n : Node} (h : IsPlain s n) (d : Document) :
    IsPlain s (d.follow n) := by
  obtain ⟨mark, rfl⟩ := h
  exact ⟨mark, rfl⟩

/-! ## Values as they are written -/

/-- A colour is written as a sequence that spells it. -/
theorem conveys_color (k : Nat) (color : Color) :
    Conveys k color.toYaml fun n => ∀ d : Document, SpellsColor d color (d.follow n) := by
  have hplain (cs : List Char)
      (hcs : cs ∈ [color.red, color.green, color.blue].map fun n => digits n.toNat) :
      PlainScalar cs ∧ cs.all isAllowed = true := by
    obtain ⟨n, -, rfl⟩ := List.mem_map.mp hcs
    exact ⟨(byteDigits_plain n).1, (byteDigits_plain n).2.1⟩
  have hne : [color.red, color.green, color.blue].map (fun n => digits n.toNat) ≠ [] := by simp
  refine (conveys_items hne (fun cs hcs => (hplain cs hcs).1)
    fun cs hcs => (hplain cs hcs).2).imp fun n hn d => ?_
  obtain ⟨mark, items, rfl, hitems⟩ := hn
  rw [List.map_map, List.forall₂_map_left_iff] at hitems
  refine ⟨mark, none, items, rfl, hitems.imp fun b item hitem => ?_⟩
  refine ⟨String.ofList (digits b.toNat), ?_, Builder.IsPlain.follow hitem d⟩
  rw [String.toList_ofList]
  exact (byteDigits_plain b).2.2

/-- A key is written as a scalar that spells it. -/
theorem conveys_key (key : Key) :
    Conveys 2 (.scalar key.toYaml) fun n => ∀ d : Document, SpellsKey key (d.follow n) := by
  have hnamed (h : ∀ name, key ≠ .other name) (htext : key.toYaml = key.text.toList)
      (hplain : isWord key.text.toList = true ∧ lineStart key.text.toList = true ∧
        startsIndicator key.text.toList = false ∧ key.text.toList.all isAllowed = true) :
      Conveys 2 (.scalar key.toYaml) fun n => ∀ d : Document, SpellsKey key (d.follow n) := by
    obtain ⟨hword, hline, hstart, hallowed⟩ := hplain
    rw [htext]
    refine (conveys_plain ⟨.word hword, hline, hstart⟩ hallowed).imp fun n hn d => ?_
    obtain ⟨mark, rfl⟩ := hn
    exact .named mark .plain h
  cases key with
  | other name =>
    refine (conveys_other name).imp fun n hn d => ?_
    obtain ⟨mark, style, rfl⟩ := hn
    exact .other mark style name
  | shift => exact hnamed (fun _ h => by cases h) rfl (by decide)
  | ctrl => exact hnamed (fun _ h => by cases h) rfl (by decide)
  | alt => exact hnamed (fun _ h => by cases h) rfl (by decide)

/-! ## Members as they are written -/

/-- A member of a group as it is written, with what is known of its node. -/
structure Described where
  name : String
  block : Block
  Describes : Node → Prop

/-- A member as the writer takes it. -/
def Described.entry (e : Described) : String × Block := (e.name, e.block)

/-- A member can be read back if its value conveys what is known of it. -/
structure Described.Fits (k : Nat) (e : Described) : Prop where
  name : isFieldName e.name.toList = true
  value : Conveys k e.block e.Describes

/-- The members of a mapping are as they are described. -/
def AreDescribed : List Described → List (Node × Node) → Prop :=
  List.Forall₂ fun e p => IsPlain e.name p.1 ∧ e.Describes p.2

variable {es : List Described} {k : Nat}

theorem isAllowed_of_fieldChar {c : Char} (h : isFieldChar c = true) : isAllowed c = true := by
  simp only [isFieldChar, Bool.or_eq_true, decide_eq_true_eq] at h
  rcases h with hlower | rfl
  · have hrange : (decide ('a' ≤ c) && decide (c ≤ 'z')) = true := hlower
    simp only [Bool.and_eq_true, decide_eq_true_eq] at hrange
    obtain ⟨hleast, hgreatest⟩ := hrange
    exact isAllowed_of_ascii (Nat.le_trans (by decide) hleast) (Nat.le_trans hgreatest (by decide))
  · rfl

theorem all_isAllowed_members (h : ∀ e ∈ es, e.Fits k) :
    (writeMembers k (es.map Described.entry)).all isAllowed = true := by
  induction es with
  | nil => rfl
  | cons e es ih =>
    obtain ⟨hname, hvalue⟩ := h e List.mem_cons_self
    simp only [isFieldName, Bool.and_eq_true] at hname
    have hallowed : e.name.toList.all isAllowed = true := List.all_eq_true.mpr fun c hc =>
      isAllowed_of_fieldChar (List.all_eq_true.mp hname.1.2 c hc)
    have hspaces : (List.replicate k ' ').all isAllowed = true := by simp [isAllowed]
    rw [List.map_cons, Described.entry, writeMembers, Block.write_eq, List.all_append,
      List.all_append, List.all_append, List.all_cons, hspaces, hallowed, hvalue.allowed,
      ih fun e' he' => h e' (List.mem_cons_of_mem _ he')]
    rfl

/-- Members that fit spell words that build them. -/
theorem exists_spelled (h : ∀ e ∈ es, e.Fits k) :
    ∃ spelled : List SpelledMember, spelled.map SpelledMember.entry = es.map Described.entry ∧
      (∀ m ∈ spelled, m.Fits k) ∧
      BuildsMembers (spelled.flatMap SpelledMember.words) (AreDescribed es) := by
  induction es with
  | nil =>
    refine ⟨[], rfl, by simp, BuildsMembers.nil.imp fun pairs hpairs => ?_⟩
    rw [hpairs]
    exact .nil
  | cons e es ih =>
    obtain ⟨hname, -, ws, hspells, hbuilds⟩ := h e List.mem_cons_self
    obtain ⟨spelled, hentries, hfits, hmore⟩ := ih fun e' he' => h e' (List.mem_cons_of_mem _ he')
    refine ⟨⟨e.name, e.block, ws⟩ :: spelled, congrArg (e.entry :: ·) hentries, ?_, ?_⟩
    · rintro m (_ | ⟨_, hm⟩)
      · exact ⟨hname, hspells⟩
      · exact hfits m hm
    · refine (BuildsMembers.cons hbuilds hmore).imp fun pairs hpairs => ?_
      obtain ⟨mark, n, rest, rfl, hn, hrest⟩ := hpairs
      exact .cons ⟨⟨mark, rfl⟩, hn⟩ hrest

theorem spelled_ne_nil {spelled : List SpelledMember} (hne : es ≠ [])
    (h : spelled.map SpelledMember.entry = es.map Described.entry) : spelled ≠ [] := by
  rintro rfl
  exact hne (List.map_eq_nil_iff.mp h.symm)

/-- A group of members conveys a mapping of what is known of them. -/
theorem conveys_members (hne : es ≠ []) (h : ∀ e ∈ es, e.Fits (k + 2)) :
    Conveys k (.group (es.map Described.entry)) fun n =>
      ∃ mark pairs, n = .mapping mark none pairs ∧ AreDescribed es pairs := by
  obtain ⟨spelled, hentries, hfits, hbuilds⟩ := exists_spelled h
  refine ⟨?_, _, hentries ▸ spells_group (spelled_ne_nil hne hentries) hfits, builds_group hbuilds⟩
  rw [Block.value, List.all_cons, all_isAllowed_members h]
  rfl

theorem conveys_empty : Conveys k .empty fun n => ∃ mark, n = .mapping mark none [] :=
  ⟨rfl, _, spells_empty, builds_empty⟩

/-- A text of members is a document whose root is a mapping of what is known of them. -/
theorem read?_described (hne : es ≠ []) (h : ∀ e ∈ es, e.Fits 0) :
    ∃ d mark pairs, Document.read? (String.ofList (writeMembers 0 (es.map Described.entry))) =
      some d ∧ d.root = .mapping mark none pairs ∧ AreDescribed es pairs := by
  obtain ⟨spelled, hentries, hfits, hbuilds⟩ := exists_spelled h
  obtain ⟨tokens, hscan, hwords⟩ := scan_members (spelled_ne_nil hne hentries) hfits
    (hentries ▸ all_isAllowed_members h)
  obtain ⟨d, mark, pairs, hdocument, hroot, hpairs⟩ := ofTokens?_members hbuilds hwords
  refine ⟨d, mark, pairs, ?_, hroot, hpairs⟩
  rw [Document.read?, String.toList_ofList, ← hentries, hscan]
  exact hdocument

end ScatterPick.Yaml
