import ScatterPick.Config.JsonForm
import ScatterPick.Proofs.Json.Skipping

/-!
# Values of settings in any layout

Numbers, keys and colours are read back from their texts, whatever the layout. A group of settings
is read member by member from an object, in whatever order and past members that nobody asked for,
or value by value from an array.
-/

namespace ScatterPick.Json

/-! ## Numbers -/

/-- The texts that a reader of numbers takes to a number. -/
def SpellsNumber {α : Type} (read : Reader α) (x : α) (text : List Char) : Prop :=
  Opens text ∧ ReadsBack read (String.ofList text) x

theorem SpellsNumber.yields {α : Type} {wanted : Wanted} {take : Numeral → Except Mismatch α} {x : α}
    {text : List Char} (h : SpellsNumber (readNumber wanted take) x text) :
    Yields (readNumber wanted take) text (.ok x) := by
  have hyields := yields_number h.2
  rwa [String.toList_ofList] at hyields

/-- The texts of an optional number: null, or those of the number. -/
def SpellsOptional (x : Option Float32) (text : List Char) : Prop :=
  match x with
  | none => text = "null".toList
  | some x => SpellsNumber readSingle x text

theorem SpellsOptional.opens {x : Option Float32} {text : List Char} (h : SpellsOptional x text) :
    Opens text := by
  cases x with
  | none =>
    obtain rfl : text = "null".toList := h
    exact ⟨_, _, rfl, rfl, by decide⟩
  | some x => exact h.1

theorem SpellsOptional.yields {x : Option Float32} {text : List Char} (h : SpellsOptional x text) :
    Yields readOptional text (.ok x) := by
  cases x with
  | none =>
    obtain rfl : text = "null".toList := h
    exact yields_optional_null
  | some x =>
    have hyields := yields_optional h.2
    rwa [String.toList_ofList] at hyields

/-- The digits of a number from 0 to 255 are one of its texts. -/
theorem spellsNumber_byte (n : UInt8) : SpellsNumber readByte n (toString n.toNat).toList := by
  have hall : ∀ n : Fin 256, (Nat.toDigits 10 n.val).head?.any Char.isDigit = true := by
    decide +kernel
  have hdigits : (toString n.toNat).toList = Nat.toDigits 10 n.toNat := by simp [toString]
  refine ⟨?_, by rw [String.ofList_toList]; exact readsBack_byte n⟩
  have hn := hall ⟨n.toNat, n.toNat_lt⟩
  rw [← hdigits] at hn
  cases h : (toString n.toNat).toList with
  | nil =>
    rw [h] at hn
    cases hn
  | cons d ds =>
    rw [h] at hn
    exact opens_digit hn ds

/-! ## Texts and keys -/

/-- A text is read with the gap in front of it, whatever follows. -/
theorem readString_text {s : String} {text : List Char} (h : IsText s text) {gap : List Char}
    (hgap : IsGap gap) (wanted : Wanted) (rest : List Char) (place : Place) :
    ∃ place', readString wanted ⟨gap ++ (text ++ rest), place⟩ = .ok (s, ⟨rest, place'⟩) := by
  obtain ⟨chars, hchars, rfl⟩ := h
  obtain ⟨p, hskip⟩ := skipGap_to hgap (d := '"') rfl (chars.flatten ++ '"' :: rest) place
  obtain ⟨p', hread⟩ := readText_spelled hchars rest (p.after '"')
  refine ⟨p', ?_⟩
  simp only [List.cons_append, List.append_assoc, List.nil_append, readString, hskip, Cursor.peek,
    List.head?_cons]
  exact hread

/-- The texts of a key: its name, or an object with the name of another key. -/
inductive SpellsKey : Key → List Char → Prop
  | named {key : Key} {text : List Char} : (∀ name, key ≠ .other name) → IsText key.text text →
    SpellsKey key text
  | other {name : String} {value member text : List Char} : IsText name value →
    IsMember "Other" value member → Bracketed '\x7b' '\x7d' [member] text →
      SpellsKey (.other name) text

theorem SpellsKey.opens {key : Key} {text : List Char} (h : SpellsKey key text) : Opens text := by
  cases h with
  | named _ htext => exact htext.opens
  | other _ _ hbrackets => exact Bracketed.opens (Or.inr hbrackets)

/-- A key is read from its texts. -/
theorem SpellsKey.yields {key : Key} {text : List Char} (h : SpellsKey key text) :
    Yields readKey text (.ok key) := by
  intro gap rest place hgap _
  refine outcome_eq_ok.mpr ?_
  cases h with
  | named hkey htext =>
    obtain ⟨chars, hchars, rfl⟩ := htext
    obtain ⟨p, hskip⟩ := skipGap_to hgap (d := '"') rfl (chars.flatten ++ '"' :: rest) place
    obtain ⟨p', hread⟩ := readText_spelled hchars rest (p.after '"')
    refine ⟨p', ?_⟩
    have hname : readKeyName ⟨'"' :: (chars.flatten ++ '"' :: rest), p⟩ =
        .ok (key.text, ⟨rest, p'⟩) := by
      rw [readKeyName, readString, skipGap_of_not rfl]
      exact hread
    simp only [List.cons_append, List.append_assoc, List.nil_append, readKey, hskip, Cursor.peek,
      List.head?_cons, hname, bind, Except.bind]
    cases key with
    | other name => exact absurd rfl (hkey name)
    | shift => rfl
    | ctrl => rfl
    | alt => rfl
  | @other name value member _ hvalue hmember hbrackets =>
    obtain ⟨spelled, before, after, hspelled, hbefore, hafter, rfl⟩ := hmember
    cases hbrackets with
    | @cons inner _ outer _ hinner hend =>
      cases hend with
      | nil houter =>
        obtain ⟨p₁, hskip⟩ := skipGap_to hgap (d := '\x7b') rfl (inner ++ (spelled ++
          (before ++ ':' :: (after ++ (value ++ (outer ++ '\x7d' :: rest)))))) place
        obtain ⟨p₂, hname⟩ := readString_text hspelled hinner .choiceName
          (before ++ ':' :: (after ++ (value ++ (outer ++ '\x7d' :: rest)))) (p₁.after '\x7b')
        obtain ⟨p₃, hcolon⟩ := readColon_append hbefore
          (after ++ (value ++ (outer ++ '\x7d' :: rest))) p₂
        obtain ⟨p₄, hvalue⟩ := readString_text hvalue hafter .text (outer ++ '\x7d' :: rest) p₃
        obtain ⟨p₅, hclose⟩ := skipGap_to houter (d := '\x7d') rfl rest p₄
        refine ⟨p₅.after '\x7d', ?_⟩
        simp only [List.cons_append, List.append_assoc, List.nil_append, readKey, hskip,
          Cursor.peek, List.head?_cons, Cursor.advance, readKeyName, hname, hcolon, hvalue, hclose,
          bind, Except.bind]

/-! ## Elements of arrays -/

section Elements

variable {first : Bool} {text gap before after rest : List Char}

/-- The first element of an array is looked for past the gap in front of it. -/
theorem nextElement_first (h : Opens text) (hgap : IsGap gap) (rest : List Char) (place : Place) :
    ∃ p, nextElement true ⟨gap ++ (text ++ rest), place⟩ = .ok (true, ⟨text ++ rest, p⟩) := by
  obtain ⟨d, ds, rfl, hd, hclosing⟩ := h
  obtain ⟨p, hskip⟩ := skipGap_to hgap hd (ds ++ rest) place
  refine ⟨p, ?_⟩
  rw [List.cons_append, nextElement, hskip]
  dsimp only
  split
  next heq => cases heq
  next heq => exact absurd (Option.some.inj heq) hclosing
  next => rfl

/-- A further element of an array is looked for past a comma and the gaps around it. -/
theorem nextElement_further (h : Opens text) (hbefore : IsGap before) (hafter : IsGap after)
    (rest : List Char) (place : Place) :
    ∃ p, nextElement false ⟨before ++ ',' :: (after ++ (text ++ rest)), place⟩ =
      .ok (true, ⟨text ++ rest, p⟩) := by
  obtain ⟨d, ds, rfl, hd, hclosing⟩ := h
  obtain ⟨p, hcomma⟩ := skipGap_to hbefore (d := ',') rfl (after ++ (d :: ds ++ rest)) place
  obtain ⟨p', hskip⟩ := skipGap_to hafter hd (ds ++ rest) (p.after ',')
  refine ⟨p', ?_⟩
  have hadvance : Cursor.advance ⟨',' :: (after ++ (d :: ds ++ rest)), p⟩ =
      ⟨after ++ (d :: ds ++ rest), p.after ','⟩ := rfl
  simp only [List.cons_append] at hcomma hadvance ⊢
  simp only [nextElement, hcomma, hadvance, hskip, Cursor.peek, List.head?_cons]
  rfl

/-- At its closing bracket an array has no further element. -/
theorem nextElement_end (first : Bool) (hgap : IsGap gap) (rest : List Char) (place : Place) :
    ∃ p, nextElement first ⟨gap ++ ']' :: rest, place⟩ = .ok (false, ⟨']' :: rest, p⟩) := by
  obtain ⟨p, hskip⟩ := skipGap_to hgap (d := ']') rfl rest place
  refine ⟨p, ?_⟩
  rw [nextElement, hskip]
  rfl

theorem closeArray_gap (hgap : IsGap gap) (rest : List Char) (place : Place) :
    ∃ p, closeArray ⟨gap ++ ']' :: rest, place⟩ = (.ok (), ⟨rest, p⟩) := by
  obtain ⟨p, hskip⟩ := skipGap_to hgap (d := ']') rfl rest place
  refine ⟨p.after ']', ?_⟩
  rw [closeArray, hskip]
  rfl

theorem closeObject_gap (hgap : IsGap gap) (rest : List Char) (place : Place) :
    ∃ p, closeObject ⟨gap ++ '\x7d' :: rest, place⟩ = (.ok (), ⟨rest, p⟩) := by
  obtain ⟨p, hskip⟩ := skipGap_to hgap (d := '\x7d') rfl rest place
  refine ⟨p.after '\x7d', ?_⟩
  rw [closeObject, hskip]
  rfl

end Elements

/-! ## Colours -/

/-- The texts of a colour: three numbers in an array. -/
def SpellsColor (color : Color) (text : List Char) : Prop :=
  ∃ texts, List.Forall₂ (SpellsNumber readByte) [color.red, color.green, color.blue] texts ∧
    Bracketed '[' ']' texts text

theorem SpellsColor.opens {color : Color} {text : List Char} (h : SpellsColor color text) :
    Opens text := by
  obtain ⟨texts, -, hbrackets⟩ := h
  exact Bracketed.opens (Or.inl hbrackets)

/-- A number that stands as an element of an array is read, with more of them after it. -/
theorem readUpTo_byte {first : Bool} {n : UInt8} {digits rest text : List Char} {place p : Place}
    (hn : SpellsNumber readByte n digits)
    (hnext : nextElement first ⟨text, place⟩ = .ok (true, ⟨digits ++ rest, p⟩))
    (hrest : Closes rest) (count : Nat) :
    ∃ p', readUpTo readByte first (count + 1) ⟨text, place⟩ = (do
      let (ns, c) ← readUpTo readByte false count ⟨rest, p'⟩
      .ok (n :: ns, c)) := by
  have hbyte : Yields readByte digits (.ok n) := hn.yields
  obtain ⟨p', hread⟩ := outcome_eq_ok.mp (hbyte [] rest p rfl hrest)
  refine ⟨p', ?_⟩
  rw [List.nil_append] at hread
  rw [readUpTo, hnext]
  simp only [bind, Except.bind, if_true, hread]

/-- Numbers are read one after the other up to the end of an array. -/
theorem readUpTo_further {texts : List (List Char)} {text : List Char} (hmore : Further texts text)
    {ns : List UInt8} (hns : List.Forall₂ (SpellsNumber readByte) ns texts) (rest : List Char)
    (p : Place) : ∃ gap p', IsGap gap ∧
      readUpTo readByte false ns.length ⟨text ++ ']' :: rest, p⟩ =
        .ok (ns, ⟨gap ++ ']' :: rest, p'⟩) := by
  induction hmore generalizing ns p with
  | nil hgap =>
    cases hns
    exact ⟨_, p, hgap, rfl⟩
  | @cons before after digits text texts hbefore hafter hmore ih =>
    cases hns with
    | @cons n _ ns _ hn hns =>
      obtain ⟨p₁, hnext⟩ :=
        nextElement_further hn.1 hbefore hafter (text ++ ']' :: rest) p
      obtain ⟨p₂, hread⟩ := readUpTo_byte hn hnext (hmore.closes (by decide) rest) ns.length
      obtain ⟨gap, p₃, hgap, hall⟩ := ih hns p₂
      refine ⟨gap, p₃, hgap, ?_⟩
      simp only [List.append_assoc, List.cons_append, List.length_cons, hread, hall]
      rfl

/-- A colour is read from its texts. -/
theorem SpellsColor.yields {color : Color} {text : List Char} (h : SpellsColor color text) :
    Yields readColor text (.ok color) := by
  intro gap rest place hgap _
  refine outcome_eq_ok.mpr ?_
  obtain ⟨texts, hnumbers, hbrackets⟩ := h
  cases hnumbers with
  | @cons _ digits _ more hred hnumbers =>
    cases hbrackets with
    | @cons inner _ text _ hinner hmore =>
      obtain ⟨p₁, hskip⟩ := skipGap_to hgap (d := '[') rfl
        (inner ++ (digits ++ (text ++ ']' :: rest))) place
      obtain ⟨p₂, hnext⟩ := nextElement_first hred.1 hinner (text ++ ']' :: rest) (p₁.after '[')
      obtain ⟨p₃, hfirst⟩ := readUpTo_byte hred hnext (hmore.closes (by decide) rest) 2
      obtain ⟨outer, p₄, houter, hall⟩ := readUpTo_further hmore hnumbers rest p₃
      obtain ⟨p₅, hclose⟩ := closeArray_gap houter rest p₄
      refine ⟨p₅, ?_⟩
      have hcount : readUpTo readByte false 2 ⟨text ++ ']' :: rest, p₃⟩ =
          .ok ([color.green, color.blue], ⟨outer ++ ']' :: rest, p₄⟩) := hall
      rw [hcount] at hfirst
      simp only [List.cons_append, List.append_assoc, List.nil_append, readColor, hskip,
        Cursor.peek, List.head?_cons, enclosed, Cursor.advance, hfirst, bind, Except.bind, hclose]

/-! ## Groups of settings -/

/-- A list in brackets is taken with its closing bracket, and a failure keeps its problem. -/
theorem outcome_enclosed {α : Type} {close : Cursor → Except Failure Unit × Cursor} {body : Reader α}
    {c : Cursor} {result : Except Problem α} {rest left : List Char}
    (hclose : ∀ place, ∃ p, close ⟨left, place⟩ = (.ok (), ⟨rest, p⟩))
    (h : outcome (body c) = result.map fun a => (a, left)) :
    outcome (enclosed close body c) = result.map fun a => (a, rest) := by
  cases result with
  | ok a =>
    obtain ⟨p, hbody⟩ := outcome_eq_ok.mp h
    obtain ⟨q, hclose⟩ := hclose p
    refine outcome_eq_ok.mpr ⟨q, ?_⟩
    simp only [enclosed, hbody, hclose]
  | error problem =>
    obtain ⟨e, hbody, he⟩ := outcome_eq_error.mp h
    refine outcome_eq_error.mpr ?_
    simp only [enclosed, hbody]
    cases e.place with
    | some place => exact ⟨e, rfl, he⟩
    | none => exact ⟨_, rfl, he⟩

section Group

variable {σ : Type} {fields : List (GroupField σ)}

/-- A value in a group, with the name that it stands under or that its place stands for, and what
becomes of a group of settings as it is read. -/
structure Entry (σ : Type) where
  name : String
  text : List Char
  put : σ → Except Problem σ

/-- What becomes of a group of settings as all entries are read. -/
def putAll (entries : List (Entry σ)) (group : σ) : Except Problem σ :=
  entries.foldlM (fun group e => e.put group) group

/-- A field reads an entry. -/
def Entry.ReadBy (e : Entry σ) (f : GroupField σ) : Prop :=
  ∀ group, Yields (f.read group) e.text (e.put group)

/-- A field puts what the reader of its value yields. -/
theorem yields_jsonField {α : Type} {name : String} {read : Reader α} {put : σ → α → σ}
    {text : List Char} {result : Except Problem α} (h : Yields read text result) (group : σ) :
    Yields ((jsonField name read put).read group) text (result.map (put group)) := by
  intro gap rest place hgap hrest
  have hread := h gap rest place hgap hrest
  simp only [jsonField]
  cases result with
  | ok a =>
    obtain ⟨p, hp⟩ := outcome_eq_ok.mp hread
    rw [hp]
    rfl
  | error problem =>
    obtain ⟨e, hp, rfl⟩ := outcome_eq_error.mp hread
    rw [hp]
    rfl

/-- After the last element the other fields of a group are left alone. -/
theorem readElements_end (first : Bool) (group : σ) (unused : List (GroupField σ)) {gap : List Char}
    (hgap : IsGap gap) (rest : List Char) (p : Place) : ∃ gap' p', IsGap gap' ∧
      readElements group first unused ⟨gap ++ ']' :: rest, p⟩ =
        .ok (group, ⟨gap' ++ ']' :: rest, p'⟩) := by
  induction unused generalizing gap p with
  | nil => exact ⟨gap, p, hgap, rfl⟩
  | cons f unused ih =>
    obtain ⟨q, hnext⟩ := nextElement_end first hgap rest p
    obtain ⟨gap', p', hgap', hread⟩ := ih nil_isGap q
    refine ⟨gap', p', hgap', ?_⟩
    rw [List.nil_append] at hread
    simp only [readElements, hnext, bind, Except.bind, Bool.false_eq_true, if_false, hread]

/-- An element is put into the group by its field, with more of them after it. -/
theorem readElements_entry {first : Bool} {e : Entry σ} {f : GroupField σ} (hread : e.ReadBy f)
    (group : σ) (unread : List (GroupField σ)) {text rest : List Char} {p q : Place}
    (hnext : nextElement first ⟨text, p⟩ = .ok (true, ⟨e.text ++ rest, q⟩)) (hrest : Closes rest) :
    ∃ place, outcome (readElements group first (f :: unread) ⟨text, p⟩) = (do
      let group ← e.put group
      outcome (readElements group false unread ⟨rest, place⟩)) := by
  have hvalue := hread group [] rest q nil_isGap hrest
  rw [List.nil_append] at hvalue
  cases hput : e.put group with
  | error problem =>
    rw [hput] at hvalue
    obtain ⟨failure, hf, rfl⟩ := outcome_eq_error.mp hvalue
    refine ⟨q, ?_⟩
    simp only [readElements, hnext, bind, Except.bind, if_true, hf]
    rfl
  | ok changed =>
    rw [hput] at hvalue
    obtain ⟨place, hf⟩ := outcome_eq_ok.mp hvalue
    refine ⟨place, ?_⟩
    simp only [readElements, hnext, bind, Except.bind, if_true, hf]

/-- Elements are put into a group one after the other, by the fields in their order. -/
theorem readElements_further {entries : List (Entry σ)} {text : List Char}
    (hmore : Further (entries.map (·.text)) text) {used : List (GroupField σ)}
    (hread : List.Forall₂ (fun e f => Opens e.text ∧ e.ReadBy f) entries used)
    (unused : List (GroupField σ)) (group : σ) (rest : List Char) (p : Place) :
    ∃ gap, IsGap gap ∧
      outcome (readElements group false (used ++ unused) ⟨text ++ ']' :: rest, p⟩) =
        (putAll entries group).map fun group => (group, gap ++ ']' :: rest) := by
  induction hread generalizing text group p with
  | nil =>
    cases hmore with
    | nil hgap =>
      obtain ⟨gap', p', hgap', hread⟩ := readElements_end false group unused hgap rest p
      exact ⟨gap', hgap', outcome_eq_ok.mpr ⟨p', hread⟩⟩
  | @cons e f entries used hef _ ih =>
    rw [List.map_cons] at hmore
    cases hmore with
    | @cons before after _ text _ hbefore hafter hmore =>
      obtain ⟨q, hnext⟩ := nextElement_further hef.1 hbefore hafter (text ++ ']' :: rest) p
      obtain ⟨place, hentry⟩ := readElements_entry hef.2 group (used ++ unused) hnext
        (hmore.closes (by decide) rest)
      simp only [List.append_assoc, List.cons_append, hentry, putAll, List.foldlM_cons]
      cases e.put group with
      | error problem => exact ⟨[], nil_isGap, rfl⟩
      | ok changed => exact ih hmore changed place

/-- A group of settings is read from an array of values of its first fields. -/
theorem yields_array (name : String) (default : σ) {entries : List (Entry σ)} {text : List Char}
    (htext : Bracketed '[' ']' (entries.map (·.text)) text) {used unused : List (GroupField σ)}
    (hread : List.Forall₂ (fun e f => Opens e.text ∧ e.ReadBy f) entries used) :
    Yields (readGroup name (used ++ unused) default) text (putAll entries default) := by
  intro gap rest place hgap _
  have hgroup {inner : List Char} {p : Place}
      (hskip : Cursor.skipGap ⟨gap ++ (text ++ rest), place⟩ = ⟨'[' :: inner, p⟩)
      (hbody : ∃ gap', IsGap gap' ∧
        outcome (readElements default true (used ++ unused) ⟨inner, p.after '['⟩) =
          (putAll entries default).map fun group => (group, gap' ++ ']' :: rest)) :
      outcome (readGroup name (used ++ unused) default ⟨gap ++ (text ++ rest), place⟩) =
        (putAll entries default).map fun group => (group, rest) := by
    obtain ⟨gap', hgap', hbody⟩ := hbody
    simp only [readGroup, hskip, Cursor.peek, List.head?_cons]
    exact outcome_enclosed (closeArray_gap hgap' rest) hbody
  cases hread with
  | nil =>
    cases htext with
    | @nil inner hinner =>
      obtain ⟨p, hskip⟩ := skipGap_to hgap (d := '[') rfl (inner ++ ']' :: rest) place
      obtain ⟨gap', p', hgap', hread⟩ :=
        readElements_end true default unused hinner rest (p.after '[')
      rw [List.cons_append, List.append_assoc] at hgroup ⊢
      exact hgroup hskip ⟨gap', hgap', outcome_eq_ok.mpr ⟨p', hread⟩⟩
  | @cons e f entries used hef hread =>
    rw [List.map_cons] at htext
    cases htext with
    | @cons inner _ text _ hinner hmore =>
      obtain ⟨p, hskip⟩ := skipGap_to hgap (d := '[') rfl
        (inner ++ (e.text ++ (text ++ ']' :: rest))) place
      obtain ⟨q, hnext⟩ := nextElement_first hef.1 hinner (text ++ ']' :: rest) (p.after '[')
      obtain ⟨place', hentry⟩ := readElements_entry hef.2 default (used ++ unused) hnext
        (hmore.closes (by decide) rest)
      simp only [List.cons_append, List.append_assoc, List.nil_append] at hgroup hentry ⊢
      refine hgroup hskip ?_
      rw [hentry, putAll, List.foldlM_cons]
      cases e.put default with
      | error problem => exact ⟨[], nil_isGap, rfl⟩
      | ok changed => exact readElements_further hmore hread unused changed rest place'

/-! ### Members -/

/-- The name of the first member is looked for past the gap in front of it. -/
theorem nextName_first {name : String} {value member gap : List Char}
    (h : IsMember name value member) (hgap : IsGap gap) (rest : List Char) (place : Place) :
    ∃ before after p, IsGap before ∧ IsGap after ∧
      nextName true ⟨gap ++ (member ++ rest), place⟩ =
        .ok (some name, ⟨before ++ ':' :: (after ++ (value ++ rest)), p⟩) := by
  obtain ⟨spelled, before, after, ⟨chars, hchars, rfl⟩, hbefore, hafter, rfl⟩ := h
  obtain ⟨p, hskip⟩ := skipGap_to hgap (d := '"') rfl
    (chars.flatten ++ '"' :: (before ++ ':' :: (after ++ (value ++ rest)))) place
  obtain ⟨q, hread⟩ := readText_spelled hchars (before ++ ':' :: (after ++ (value ++ rest)))
    (p.after '"')
  refine ⟨before, after, q, hbefore, hafter, ?_⟩
  simp only [List.cons_append, List.append_assoc, List.nil_append, nextName, hskip, Cursor.peek,
    List.head?_cons, if_true, Cursor.advance, hread, bind, Except.bind]
  rfl

/-- The name of a further member is looked for past a comma and the gaps around it. -/
theorem nextName_further {name : String} {value member outer inner : List Char}
    (h : IsMember name value member) (houter : IsGap outer) (hinner : IsGap inner)
    (rest : List Char) (place : Place) :
    ∃ before after p, IsGap before ∧ IsGap after ∧
      nextName false ⟨outer ++ ',' :: (inner ++ (member ++ rest)), place⟩ =
        .ok (some name, ⟨before ++ ':' :: (after ++ (value ++ rest)), p⟩) := by
  obtain ⟨spelled, before, after, ⟨chars, hchars, rfl⟩, hbefore, hafter, rfl⟩ := h
  obtain ⟨p, hcomma⟩ := skipGap_to houter (d := ',') rfl (inner ++
    '"' :: (chars.flatten ++ '"' :: (before ++ ':' :: (after ++ (value ++ rest))))) place
  obtain ⟨q, hskip⟩ := skipGap_to hinner (d := '"') rfl
    (chars.flatten ++ '"' :: (before ++ ':' :: (after ++ (value ++ rest)))) (p.after ',')
  obtain ⟨q', hread⟩ := readText_spelled hchars (before ++ ':' :: (after ++ (value ++ rest)))
    (q.after '"')
  refine ⟨before, after, q', hbefore, hafter, ?_⟩
  simp only [List.cons_append, List.append_assoc, List.nil_append, nextName, hcomma, hskip,
    Cursor.peek, List.head?_cons, Bool.false_eq_true, if_false, Cursor.advance, hread, bind,
    Except.bind]
  rfl

/-- At its closing bracket an object has no further member. -/
theorem nextName_end (first : Bool) {gap : List Char} (hgap : IsGap gap) (rest : List Char)
    (place : Place) :
    ∃ p, nextName first ⟨gap ++ '\x7d' :: rest, place⟩ = .ok (none, ⟨'\x7d' :: rest, p⟩) := by
  obtain ⟨p, hskip⟩ := skipGap_to hgap (d := '\x7d') rfl rest place
  refine ⟨p, ?_⟩
  rw [nextName, hskip]
  rfl

/-- An entry fits a group if the field with its name reads it, or if there is no such field and
the entry leaves the group alone. -/
def Entry.Fits (fields : List (GroupField σ)) (e : Entry σ) : Prop :=
  (∃ f, fields.find? (·.name == e.name) = some f ∧ e.ReadBy f) ∨
    (fields.find? (·.name == e.name) = none ∧ IsValue e.text ∧ e.put = .ok)

/-- A member that fits changes the group, or is what the group fails by. -/
theorem readMembers_entry {e : Entry σ} (hfits : e.Fits fields) {seen : List String}
    (hseen : e.name ∉ seen) (group : σ) {first : Bool} {before after rest text : List Char}
    {p q : Place} (hbefore : IsGap before) (hafter : IsGap after) (hrest : Closes rest)
    (hnext : nextName first ⟨text, p⟩ =
      .ok (some e.name, ⟨before ++ ':' :: (after ++ (e.text ++ rest)), q⟩)) (fuel : Nat) :
    ∃ seen' place, seen' ⊆ e.name :: seen ∧
      outcome (readMembers fields seen group first (fuel + 1) ⟨text, p⟩) = (do
        let group ← e.put group
        outcome (readMembers fields seen' group false fuel ⟨rest, place⟩)) := by
  obtain ⟨p₁, hcolon⟩ := readColon_append hbefore (after ++ (e.text ++ rest)) q
  rcases hfits with ⟨f, hfind, hread⟩ | ⟨hfind, hvalue, hput⟩
  · have hcontains : seen.contains e.name = false := by
      rw [Bool.eq_false_iff]
      exact fun h => hseen (List.contains_iff_mem.mp h)
    have hvalue := hread group after rest p₁ hafter hrest
    cases hput : e.put group with
    | error problem =>
      rw [hput] at hvalue
      obtain ⟨failure, hf, rfl⟩ := outcome_eq_error.mp hvalue
      refine ⟨e.name :: seen, p₁, List.Subset.refl _, ?_⟩
      simp only [readMembers, hnext, hfind, hcontains, hcolon, hf, bind, Except.bind,
        Bool.false_eq_true, if_false]
      rfl
    | ok changed =>
      rw [hput] at hvalue
      obtain ⟨p₂, hf⟩ := outcome_eq_ok.mp hvalue
      refine ⟨e.name :: seen, p₂, List.Subset.refl _, ?_⟩
      simp only [readMembers, hnext, hfind, hcontains, hcolon, hf, bind, Except.bind,
        Bool.false_eq_true, if_false]
  · obtain ⟨p₂, hskip⟩ := hvalue.skipAny hafter hrest p₁
    refine ⟨seen, p₂, List.subset_cons_self _ _, ?_⟩
    simp only [readMembers, hnext, hfind, hcolon, hskip, hput, bind, Except.bind]

/-- Members that fit are put into a group one after the other. -/
theorem readMembers_further {entries : List (Entry σ)} {members : List (List Char)}
    {text : List Char} (hmore : Further members text)
    (hmembers : List.Forall₂ (fun e member => IsMember e.name e.text member) entries members)
    (hfits : ∀ e ∈ entries, e.Fits fields) (hnodup : (entries.map (·.name)).Nodup)
    {seen : List String} (hseen : ∀ e ∈ entries, e.name ∉ seen) (group : σ) {fuel : Nat}
    (hfuel : entries.length < fuel) (rest : List Char) (place : Place) :
    outcome (readMembers fields seen group false fuel ⟨text ++ '\x7d' :: rest, place⟩) =
      (putAll entries group).map fun group => (group, '\x7d' :: rest) := by
  induction hmembers generalizing text seen group fuel place with
  | nil =>
    obtain ⟨fuel, rfl⟩ : ∃ n, fuel = n + 1 := ⟨fuel - 1, by rw [List.length_nil] at hfuel; omega⟩
    cases hmore with
    | nil hgap =>
      obtain ⟨p, hnext⟩ := nextName_end false hgap rest place
      refine outcome_eq_ok.mpr ⟨p, ?_⟩
      simp only [readMembers, hnext, bind, Except.bind]
  | @cons e member entries members hmember _ ih =>
    obtain ⟨fuel, rfl⟩ : ∃ n, fuel = n + 1 := ⟨fuel - 1, by rw [List.length_cons] at hfuel; omega⟩
    rw [List.map_cons, List.nodup_cons] at hnodup
    cases hmore with
    | @cons outer inner _ text _ houter hinner hmore =>
      obtain ⟨before, after, q, hbefore, hafter, hnext⟩ :=
        nextName_further hmember houter hinner (text ++ '\x7d' :: rest) place
      obtain ⟨seen', p, hsubset, hentry⟩ := readMembers_entry (hfits e List.mem_cons_self)
        (hseen e List.mem_cons_self) group hbefore hafter (hmore.closes (by decide) rest) hnext fuel
      have hunseen : ∀ n ∈ entries, n.name ∉ seen' := by
        intro n hn hmem
        rcases List.mem_cons.mp (hsubset hmem) with heq | hold
        · exact hnodup.1 (heq ▸ List.mem_map_of_mem hn)
        · exact hseen n (List.mem_cons_of_mem _ hn) hold
      have hshort : entries.length < fuel := by
        rw [List.length_cons] at hfuel
        omega
      simp only [List.append_assoc, List.cons_append, hentry, putAll, List.foldlM_cons]
      cases e.put group with
      | error problem => rfl
      | ok changed =>
        exact ih hmore (fun n hn => hfits n (List.mem_cons_of_mem _ hn)) hnodup.2 hunseen changed
          hshort p

/-- A group of settings is read from an object of members that fit. -/
theorem yields_object (name : String) (default : σ) {entries : List (Entry σ)}
    {members : List (List Char)} {text : List Char} (htext : Bracketed '\x7b' '\x7d' members text)
    (hmembers : List.Forall₂ (fun e member => IsMember e.name e.text member) entries members)
    (hfits : ∀ e ∈ entries, e.Fits fields) (hnodup : (entries.map (·.name)).Nodup) :
    Yields (readGroup name fields default) text (putAll entries default) := by
  intro gap rest place hgap _
  have hgroup {inner : List Char} {p : Place}
      (hskip : Cursor.skipGap ⟨gap ++ (text ++ rest), place⟩ = ⟨'\x7b' :: inner, p⟩)
      (hbody : outcome (readMembers fields [] default true (inner.length + 1)
          ⟨inner, p.after '\x7b'⟩) =
        (putAll entries default).map fun group => (group, '\x7d' :: rest)) :
      outcome (readGroup name fields default ⟨gap ++ (text ++ rest), place⟩) =
        (putAll entries default).map fun group => (group, rest) := by
    simp only [readGroup, hskip, Cursor.peek, List.head?_cons]
    exact outcome_enclosed (closeObject_gap nil_isGap rest) hbody
  cases hmembers with
  | nil =>
    cases htext with
    | @nil inner hinner =>
      obtain ⟨p, hskip⟩ := skipGap_to hgap (d := '\x7b') rfl (inner ++ '\x7d' :: rest) place
      obtain ⟨q, hnext⟩ := nextName_end true hinner rest (p.after '\x7b')
      rw [List.cons_append, List.append_assoc] at hgroup ⊢
      refine hgroup hskip (outcome_eq_ok.mpr ⟨q, ?_⟩)
      rw [readMembers, hnext]
      rfl
  | @cons e member entries members hmember hmembers =>
    rw [List.map_cons, List.nodup_cons] at hnodup
    cases htext with
    | @cons inner _ text _ hinner hmore =>
      obtain ⟨p, hskip⟩ := skipGap_to hgap (d := '\x7b') rfl
        (inner ++ (member ++ (text ++ '\x7d' :: rest))) place
      obtain ⟨before, after, q, hbefore, hafter, hnext⟩ :=
        nextName_first hmember hinner (text ++ '\x7d' :: rest) (p.after '\x7b')
      obtain ⟨seen', place', hsubset, hentry⟩ := readMembers_entry (hfits e List.mem_cons_self)
        List.not_mem_nil default hbefore hafter (hmore.closes (by decide) rest) hnext
        (inner ++ (member ++ (text ++ '\x7d' :: rest))).length
      simp only [List.cons_append, List.append_assoc, List.nil_append] at hgroup hentry ⊢
      refine hgroup hskip ?_
      rw [hentry, putAll, List.foldlM_cons]
      cases e.put default with
      | error problem => rfl
      | ok changed =>
        refine readMembers_further hmore hmembers (fun n hn => hfits n (List.mem_cons_of_mem _ hn))
          hnodup.2 (fun n hn hmem => ?_) changed ?_ rest place'
        · have heq : n.name = e.name := by simpa using hsubset hmem
          exact hnodup.1 (heq ▸ List.mem_map_of_mem hn)
        · have hlength := hmore.length_le
          rw [← hmembers.length_eq] at hlength
          simp only [List.length_append, List.length_cons]
          omega

end Group

end ScatterPick.Json
