import ScatterPick.Event.Key
import ScatterPick.Proofs.Text.Trimming

/-!
# Names of keys that are read back

A key is read from a text without the blanks around it, and a modifier goes by several names in any
case. What was read is read again from its own name, since that has no blanks around it and no other
key takes the name of a modifier.
-/

namespace ScatterPick.Key

/-- The names of modifiers, in lower case. -/
def modifierNames : List String := ["shift", "ctrl", "control", "alt", "option"]

/-- Whether a key is one that can be read: a modifier, or a key with a name that has no blanks
around it and is not that of a modifier. -/
def IsReadable (lower : String → String) : Key → Prop
  | other name => Text.trim name = name ∧ name ≠ "" ∧ lower name ∉ modifierNames
  | _ => True

variable {lower : String → String}

/-! ## Reading -/

theorem ofWord_of_notMem {word : String} (h : word ∉ modifierNames) (name : String) :
    ofWord word name = other name := by
  simp only [modifierNames, List.mem_cons, List.not_mem_nil, or_false, not_or] at h
  simp [ofWord, h]

theorem ofWord_of_mem {word : String} (h : word ∈ modifierNames) (name : String) :
    ofWord word name ∈ [shift, ctrl, alt] := by
  simp only [modifierNames, List.mem_cons, List.not_mem_nil, or_false] at h
  rcases h with rfl | rfl | rfl | rfl | rfl <;> simp [ofWord]

theorem parseWith_of_blank {s : String} (h : Text.trim s = "") :
    parseWith lower s = .error .emptyName := by
  rw [parseWith, h]
  rfl

theorem parseWith_of_name {s : String} (h : Text.trim s ≠ "") :
    parseWith lower s = .ok (ofWord (lower (Text.trim s)) (Text.trim s)) := by
  have hsome : (Text.trim s).isEmpty = false := by simpa using h
  simp [parseWith, hsome]

/-- Whatever is read is readable. -/
theorem isReadable_of_parseWith {s : String} {k : Key} (h : parseWith lower s = .ok k) :
    k.IsReadable lower := by
  have hne : Text.trim s ≠ "" := by
    intro hempty
    rw [parseWith_of_blank hempty] at h
    cases h
  rw [parseWith_of_name hne] at h
  obtain rfl := Except.ok.inj h
  by_cases hmodifier : lower (Text.trim s) ∈ modifierNames
  · have hk := ofWord_of_mem hmodifier (Text.trim s)
    simp only [List.mem_cons, List.not_mem_nil, or_false] at hk
    rcases hk with hk | hk | hk <;> rw [hk] <;> trivial
  · rw [ofWord_of_notMem hmodifier]
    exact ⟨Text.trim_trim s, hne, hmodifier⟩

/-- What is readable is read from its own name. -/
theorem parseWith_text (hlower : ∀ k ∈ [shift, ctrl, alt], lower k.text = folded k.text) {k : Key}
    (h : k.IsReadable lower) : parseWith lower k.text = .ok k := by
  have hmodifier (k : Key) (hk : k ∈ [shift, ctrl, alt]) (hname : Text.trim k.text = k.text ∧
      k.text ≠ "" ∧ ofWord (folded k.text) k.text = k) : parseWith lower k.text = .ok k := by
    obtain ⟨htrim, hne, hword⟩ := hname
    rw [parseWith_of_name (htrim.symm ▸ hne), htrim, hlower k hk, hword]
  cases k with
  | other name =>
    obtain ⟨htrim, hne, hword⟩ := h
    change parseWith lower name = _
    rw [parseWith_of_name (htrim.symm ▸ hne), htrim, ofWord_of_notMem hword]
  | _ => exact hmodifier _ (by decide) (by decide +kernel)

/-- Whether a key is read from its own name can be told from the key. -/
theorem parseWith_text_iff (hlower : ∀ k ∈ [shift, ctrl, alt], lower k.text = folded k.text)
    {k : Key} : parseWith lower k.text = .ok k ↔ k.IsReadable lower :=
  ⟨isReadable_of_parseWith, parseWith_text hlower⟩

/-- However names are taken to lower case, as long as the names of the modifiers are taken there
letter by letter: reading fails for blank texts and no others, blanks around a text make no
difference, and a key that was read is read again from its own name. The keys that are read from
their own names are those that are read from any text; the others have a name with blanks around it
or nothing else, or the name of a modifier in some case. -/
theorem parseWith_stable (lower : String → String)
    (hlower : ∀ k ∈ [shift, ctrl, alt], lower k.text = folded k.text) :
    (∀ s, parseWith lower s = .error .emptyName ↔ Text.IsBlank s.toList) ∧
      (∀ s k, parseWith lower s = .ok k → parseWith lower k.text = .ok k) ∧
      (∀ before s after : String, Text.IsBlank before.toList → Text.IsBlank after.toList →
        parseWith lower (before ++ s ++ after) = parseWith lower s) ∧
      (∀ k, parseWith lower k.text = .ok k ↔ ∃ s, parseWith lower s = .ok k) ∧
      ∀ k, parseWith lower k.text ≠ .ok k ↔ ∃ name, k = other name ∧
        (Text.trim name ≠ name ∨ Text.IsBlank name.toList ∨ lower name ∈ modifierNames) := by
  refine ⟨fun s => ?_, fun s k h => ?_, fun before s after hbefore hafter => ?_, fun k => ?_,
    fun k => ?_⟩
  · rw [← Text.trim_eq_empty_iff]
    refine ⟨fun h => ?_, parseWith_of_blank⟩
    by_contra hne
    rw [parseWith_of_name hne] at h
    cases h
  · exact parseWith_text hlower (isReadable_of_parseWith h)
  · rw [parseWith, Text.trim_surrounded hbefore hafter]
    rfl
  · refine ⟨fun h => ⟨k.text, h⟩, fun ⟨s, h⟩ => ?_⟩
    exact parseWith_text hlower (isReadable_of_parseWith h)
  · rw [ne_eq, parseWith_text_iff hlower]
    cases k with
    | other name =>
      simp only [IsReadable, other.injEq, exists_eq_left', not_and_or, not_not, ne_eq]
      by_cases htrim : Text.trim name = name
      · have hblank : name = "" ↔ Text.IsBlank name.toList := by
          rw [← Text.trim_eq_empty_iff, htrim]
        rw [hblank]
      · simp [htrim]
    | _ => simp [IsReadable]

/-- A modifier in an odd case, between blanks of several kinds, is read back from its name. No text
is read as a key of its own that goes by the name of a modifier. -/
theorem padded_control_read_back :
    (∀ k ∈ [shift, ctrl, alt], folded k.text = folded k.text) ∧
      parse "\t cOntroL\u3000" = .ok ctrl ∧ parse ctrl.text = .ok ctrl ∧
      parse "\t cOntroL\u3000" = parse "cOntroL" ∧ parse "\u2003\n" = .error .emptyName ∧
      parse (other "OPTION").text ≠ .ok (other "OPTION") ∧
      ¬ ∃ s, parse s = .ok (other "OPTION") := by
  obtain ⟨hfails, hagain, hblanks, hread, hlost⟩ := parseWith_stable folded fun _ _ => rfl
  have hctrl : parse "\t cOntroL\u3000" = .ok ctrl := by decide +kernel
  have hoption : parse (other "OPTION").text ≠ .ok (other "OPTION") :=
    (hlost _).mpr ⟨"OPTION", rfl, Or.inr (Or.inr (by decide +kernel))⟩
  exact ⟨fun _ _ => rfl, hctrl, hagain _ _ hctrl,
    hblanks "\t " "cOntroL" "\u3000" (by decide +kernel) (by decide +kernel),
    (hfails _).mpr (by decide +kernel), hoption, mt (hread _).mpr hoption⟩

end ScatterPick.Key
