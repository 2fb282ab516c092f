import Mathlib.Data.List.Forall2
import ScatterPick.Json.Basic
import ScatterPick.Proofs.Json.Number

/-!
# Layouts of JSON texts

How a JSON text may be laid out: gaps may stand around every token, and a character between quotes
has several spellings. The two written forms of a value are two of its layouts.
-/

namespace ScatterPick.Json

/-! ## Gaps -/

theorem newline_isGap (level : Nat) : IsGap (newline level) := by
  simp [IsGap, newline, Cursor.isGap]

theorem space_isGap : IsGap [' '] := rfl

theorem nil_isGap : IsGap [] := rfl

/-- A gap is skipped up to a character that is none. -/
theorem skipGap_to {gap : List Char} (hgap : IsGap gap) {d : Char}
    (hd : Cursor.isGap d = false) (ds : List Char) (place : Place) :
    ∃ place', Cursor.skipGap ⟨gap ++ d :: ds, place⟩ = ⟨d :: ds, place'⟩ := by
  have hkeep : [d].dropWhile Cursor.isGap = [d] := List.dropWhile_cons_of_neg (by rw [hd]; simp)
  obtain ⟨place', h⟩ := skipGap_append hgap [d] (by rw [hkeep]; simp) ds place
  rw [hkeep] at h
  exact ⟨place', h⟩

/-! ## Brackets -/

/-- The items after the first one, each after a comma, up to the closing bracket. -/
inductive Further : List (List Char) → List Char → Prop
  | nil {gap : List Char} : IsGap gap → Further [] gap
  | cons {before after item text : List Char} {items : List (List Char)} :
    IsGap before → IsGap after → Further items text →
      Further (item :: items) (before ++ ',' :: (after ++ (item ++ text)))

/-- Items between two brackets. -/
inductive Bracketed (opening closing : Char) : List (List Char) → List Char → Prop
  | nil {gap : List Char} : IsGap gap → Bracketed opening closing [] (opening :: (gap ++ [closing]))
  | cons {gap item text : List Char} {items : List (List Char)} :
    IsGap gap → Further items text →
      Bracketed opening closing (item :: items) (opening :: (gap ++ (item ++ (text ++ [closing]))))

/-- What follows an item may stand after a value. -/
theorem Further.closes {items : List (List Char)} {text : List Char} (h : Further items text)
    {closing : Char} (hclosing : closing ∈ closers) (rest : List Char) :
    Closes (text ++ closing :: rest) := by
  cases h with
  | nil hgap => exact .gap_append hgap (.cons hclosing)
  | cons hbefore hafter hmore =>
    rw [List.append_assoc]
    exact .gap_append hbefore (.cons (by decide))

/-- The items are parts of the text. -/
theorem Further.length_le {items : List (List Char)} {text : List Char} (h : Further items text) :
    items.length ≤ text.length := by
  induction h with
  | nil hgap => exact Nat.zero_le _
  | cons hbefore hafter hmore ih =>
    simp only [List.length_append, List.length_cons]
    omega

/-- Items on lines of their own. -/
theorem further_lines {α : Type} (write : α → List Char) (level outer : Nat) (items : List α) :
    Further (items.map write)
      (items.foldr (fun a text => ',' :: (newline level ++ (write a ++ text))) (newline outer)) := by
  induction items with
  | nil => exact .nil (newline_isGap outer)
  | cons a items ih => exact .cons nil_isGap (newline_isGap level) ih

/-! ## Texts -/

/-- The spellings of a character between quotes. -/
inductive SpellsChar : Char → List Char → Prop
  | plain {a : Char} : 0x20 ≤ a.toNat → a ≠ '"' → a ≠ '\\' → SpellsChar a [a]
  | letter {letter a : Char} : letterEscape? letter = some a → SpellsChar a ['\\', letter]
  | code {a : Char} {ds : List Char} : ds.length = 4 → Text.hexValue? ds = some a.toNat →
    SpellsChar a ('\\' :: 'u' :: ds)
  /-- A character outside the basic plane, by two surrogates. -/
  | pair {a : Char} {high low : Nat} {ds es : List Char} :
    ds.length = 4 → Text.hexValue? ds = some high → 0xD800 ≤ high → high ≤ 0xDBFF →
      es.length = 4 → Text.hexValue? es = some low → 0xDC00 ≤ low → low ≤ 0xDFFF →
        a.toNat = 0x10000 + (high - 0xD800) * 0x400 + (low - 0xDC00) →
          SpellsChar a ('\\' :: 'u' :: (ds ++ '\\' :: 'u' :: es))

/-- A text between quotes, however its characters are spelled. -/
def IsText (s : String) (text : List Char) : Prop :=
  ∃ chars, List.Forall₂ SpellsChar s.toList chars ∧ text = '"' :: (chars.flatten ++ ['"'])

/-- A member of an object with the text of its value. -/
def IsMember (name : String) (value text : List Char) : Prop :=
  ∃ spelled before after, IsText name spelled ∧ IsGap before ∧ IsGap after ∧
    text = spelled ++ (before ++ ':' :: (after ++ value))

/-- What is related to some items has one of them for each of its own. -/
theorem exists_left_of_forall₂ {α β : Type} {R : α → β → Prop} {as : List α} {bs : List β}
    (h : List.Forall₂ R as bs) {b : β} (hb : b ∈ bs) : ∃ a ∈ as, R a b := by
  induction h with
  | nil => cases hb
  | cons hab _ ih =>
    rcases List.mem_cons.mp hb with rfl | hb
    · exact ⟨_, List.mem_cons_self, hab⟩
    · obtain ⟨a, ha, hR⟩ := ih hb
      exact ⟨a, List.mem_cons_of_mem _ ha, hR⟩

/-! ## Values of any shape -/

/-- The digits of a whole number: a zero alone, or digits that do not start with one. -/
def IsWhole (ds : List Char) : Prop :=
  ds = ['0'] ∨ ∃ d rest, ds = d :: rest ∧ d ≠ '0' ∧ ds.all Char.isDigit = true

/-- A run of digits, one at least. -/
def IsDigits (ds : List Char) : Prop := ds ≠ [] ∧ ds.all Char.isDigit = true

/-- The fraction of a number, which may be missing. -/
def IsFraction (text : List Char) : Prop := text = [] ∨ ∃ ds, text = '.' :: ds ∧ IsDigits ds

/-- The exponent of a number, which may be missing. -/
def IsExponent (text : List Char) : Prop :=
  text = [] ∨ ∃ e sign ds, text = e :: (sign ++ ds) ∧ (e = 'e' ∨ e = 'E') ∧
    sign ∈ [[], ['-'], ['+']] ∧ IsDigits ds

/-- The text of a number, be it as great as it may. -/
def IsNumeral (text : List Char) : Prop :=
  ∃ sign whole fraction exponent, sign ∈ [[], ['-']] ∧ IsWhole whole ∧ IsFraction fraction ∧
    IsExponent exponent ∧ text = sign ++ (whole ++ (fraction ++ exponent))

/-- The text of a value of any shape. -/
inductive IsValue : List Char → Prop
  | word {text : List Char} :
    text ∈ ["null".toList, "true".toList, "false".toList] → IsValue text
  | numeral {text : List Char} : IsNumeral text → IsValue text
  | text {s : String} {text : List Char} : IsText s text → IsValue text
  | array {items : List (List Char)} {text : List Char} :
    (∀ item ∈ items, IsValue item) → Bracketed '[' ']' items text → IsValue text
  | object {members : List (String × List Char)} {items : List (List Char)} {text : List Char} :
    (∀ m ∈ members, IsValue m.2) → List.Forall₂ (fun m => IsMember m.1 m.2) members items →
      Bracketed '\x7b' '\x7d' items text → IsValue text

end ScatterPick.Json
