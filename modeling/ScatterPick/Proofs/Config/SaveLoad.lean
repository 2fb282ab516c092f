import ScatterPick.Config.File
import ScatterPick.Proofs.Config.JsonReading
import ScatterPick.Proofs.Config.YamlReading
import ScatterPick.Proofs.Files.Writing

/-!
# Loading what was saved

Settings with finite numbers are loaded as they were saved, in either format. A number that is not
finite is kept by YAML files only: a JSON file with one is refused as it is loaded, unless the
number is the expansion, which is lost.
-/

namespace ScatterPick

namespace Settings

open Files

variable {s : Settings} {path : String} {files saved : Tree}

/-- Only an expansion can be lost. -/
theorem withFiniteExpansion_eq_iff :
    s.withFiniteExpansion = s ↔ s.selection.expandSelected.toList.all Float32.isFinite = true := by
  have hexpansion : s.withFiniteExpansion = s ↔
      s.selection.expandSelected.filter Float32.isFinite = s.selection.expandSelected := by
    refine ⟨fun h => congrArg (·.selection.expandSelected) h, fun h => ?_⟩
    rw [withFiniteExpansion, h]
  rw [hexpansion]
  cases s.selection.expandSelected with
  | none => simp
  | some x => simp

theorem allFinite_eq : s.allFinite =
    (s.selection.expandSelected.toList.all Float32.isFinite && s.requiredFinite) := by
  rw [allFinite, singles, List.all_append, Bool.and_assoc]
  rfl

/-- Settings that were saved have been written to their file. -/
theorem write_of_save (h : s.save path files = .ok saved) :
    ∃ inner : Tree, inner.write path (Bytes.ofText (s.write path)) = .ok saved := by
  have hwritten {inner : Tree}
      (hwrite : (inner.write path (Bytes.ofText (s.write path))).mapError
        (SettingsError.fileNotMade path) = .ok saved) :
      ∃ inner : Tree, inner.write path (Bytes.ofText (s.write path)) = .ok saved := by
    cases htree : inner.write path (Bytes.ofText (s.write path)) with
    | error refusal =>
      rw [htree] at hwrite
      cases hwrite
    | ok tree =>
      rw [htree] at hwrite
      obtain rfl := Except.ok.inj hwrite
      exact ⟨inner, htree⟩
  simp only [save] at h
  split at h
  · obtain ⟨inner, -, hwrite⟩ := bind_eq_ok.mp h
    exact hwritten hwrite
  · obtain ⟨inner, -, hwrite⟩ := bind_eq_ok.mp h
    exact hwritten hwrite

/-- The file that settings were saved in is read as it was written. -/
theorem load_eq_read (h : s.save path files = .ok saved) :
    load path saved = read path (s.write path) := by
  obtain ⟨inner, hwrite⟩ := write_of_save h
  rw [load, Tree.readText_write hwrite]
  rfl

/-- A JSON file is read as far as its numbers are finite. -/
theorem read_json (hnumbers : s.NumbersReadBack) (hpath : isJsonPath path = true) :
    if s.requiredFinite then read path (s.write path) = .ok s.withFiniteExpansion
    else ∃ e wanted, (wanted = .single ∨ wanted = .double) ∧
      read path (s.write path) = .error (.json e) ∧ e.problem = nullFor wanted := by
  have hread := readJson_toJson hnumbers
  have hback := groupBack_settings s
  simp only [read, write, hpath, if_true]
  split at hback
  · rename_i hfinite
    rw [hback] at hread
    simp only [hfinite, if_true, hread]
    rfl
  · rename_i hfinite
    obtain ⟨wanted, hwanted, hback⟩ := hback
    rw [hback] at hread
    obtain ⟨e, hread, hproblem⟩ := hread
    rw [if_neg hfinite]
    exact ⟨e, wanted, hwanted, by rw [hread]; rfl, hproblem⟩

/-- A YAML file is read as it was written. -/
theorem read_yaml (hnumbers : s.NumbersReadBack) (hpath : isJsonPath path = false) :
    read path (s.write path) = .ok s := by
  simp only [read, write, hpath, Bool.false_eq_true, if_false, readYaml_writeYaml hnumbers]
  rfl

/-- Settings with finite numbers are loaded as they were saved, whichever their key and the format
of the path are. -/
theorem load_save (hnumbers : s.NumbersReadBack) (hfinite : s.allFinite = true)
    (h : s.save path files = .ok saved) : load path saved = .ok s := by
  rw [load_eq_read h]
  cases hpath : isJsonPath path with
  | false => exact read_yaml hnumbers hpath
  | true =>
    rw [allFinite_eq, Bool.and_eq_true] at hfinite
    have hread := read_json hnumbers hpath
    rwa [if_pos hfinite.2, withFiniteExpansion_eq_iff.mpr hfinite.1] at hread

theorem exists_saved (s : Settings) (path : String) (files : Tree)
    (h : (s.save path files).isOk = true) : ∃ saved, s.save path files = .ok saved := by
  cases hsave : s.save path files with
  | error e =>
    rw [hsave] at h
    cases h
  | ok saved => exact ⟨saved, rfl⟩

/-- Settings whose key has a name that neither format can write as it stands. -/
def quotedKey : Settings := { selection := { additiveKey := .other " null: \"'\n\n é #\u2028 " } }

theorem quotedKey_loaded : quotedKey.NumbersReadBack ∧ quotedKey.allFinite = true ∧
    (∃ saved, quotedKey.save "view.JSON" .empty = .ok saved ∧
      load "view.JSON" saved = .ok quotedKey) ∧
    ∃ saved, quotedKey.save "plots/view.yaml" .empty = .ok saved ∧
      load "plots/view.yaml" saved = .ok quotedKey := by
  have hnumbers : quotedKey.NumbersReadBack := by decide +kernel
  have hfinite : quotedKey.allFinite = true := by decide +kernel
  obtain ⟨json, hjson⟩ := exists_saved quotedKey "view.JSON" .empty (by decide +kernel)
  obtain ⟨yaml, hyaml⟩ := exists_saved quotedKey "plots/view.yaml" .empty (by decide +kernel)
  exact ⟨hnumbers, hfinite, ⟨json, hjson, load_save hnumbers hfinite hjson⟩,
    yaml, hyaml, load_save hnumbers hfinite hyaml⟩

/-- Settings with a number that is not finite are loaded as they were saved from a YAML file. From a
JSON file either nothing is loaded, since null stands for the number, or an expansion is lost. -/
theorem load_save_not_finite (hnumbers : s.NumbersReadBack) (hfinite : s.allFinite = false)
    (h : s.save path files = .ok saved) :
    if isJsonPath path then
      if s.requiredFinite then
        load path saved = .ok s.withFiniteExpansion ∧ s.withFiniteExpansion ≠ s
      else ∃ e wanted, (wanted = .single ∨ wanted = .double) ∧
        load path saved = .error (.json e) ∧ e.problem = nullFor wanted
    else load path saved = .ok s := by
  rw [load_eq_read h]
  cases hpath : isJsonPath path with
  | false =>
    rw [if_neg Bool.false_ne_true]
    exact read_yaml hnumbers hpath
  | true =>
    have hread := read_json hnumbers hpath
    rw [if_pos rfl]
    split
    · rename_i hrequired
      rw [if_pos hrequired] at hread
      rw [allFinite_eq, hrequired, Bool.and_true] at hfinite
      refine ⟨hread, fun hsame => ?_⟩
      rw [withFiniteExpansion_eq_iff.mp hsame] at hfinite
      cases hfinite
    · rename_i hrequired
      rwa [if_neg hrequired] at hread

/-- Settings with an infinite expansion of selected points. -/
def infiniteExpansion : Settings :=
  { selection := { expandSelected := some (Number.Binary.toSingle (.infinity false)) } }

theorem infiniteExpansion_lost : infiniteExpansion.NumbersReadBack ∧
    infiniteExpansion.allFinite = false ∧
    ∃ saved, infiniteExpansion.save "view.json" .empty = .ok saved ∧
      load "view.json" saved = .ok { selection := { expandSelected := none } } := by
  have hnumbers : infiniteExpansion.NumbersReadBack := by decide +kernel
  have hfinite : infiniteExpansion.allFinite = false := by decide +kernel
  obtain ⟨saved, hsaved⟩ := exists_saved infiniteExpansion "view.json" .empty (by decide +kernel)
  have hload := load_save_not_finite hnumbers hfinite hsaved
  have hpath : isJsonPath "view.json" = true := by decide +kernel
  have hrequired : infiniteExpansion.requiredFinite = true := by decide +kernel
  have hlost : infiniteExpansion.withFiniteExpansion =
      { selection := { expandSelected := none } } := by decide +kernel
  rw [if_pos hpath, if_pos hrequired, hlost] at hload
  exact ⟨hnumbers, hfinite, saved, hsaved, hload.1⟩

/-- Settings with an undefined opacity. -/
def undefinedOpacity : Settings :=
  { selection := { alphaOther := Number.Binary.toSingle .nan } }

/-- They can be saved in a JSON file, but not be loaded from it. -/
theorem undefinedOpacity_not_loaded : undefinedOpacity.allFinite = false ∧
    ∃ saved, undefinedOpacity.save "view.json" .empty = .ok saved ∧
      (load "view.json" saved).isOk = false := by
  have hnumbers : undefinedOpacity.NumbersReadBack := by decide +kernel
  obtain ⟨saved, hsaved⟩ := exists_saved undefinedOpacity "view.json" .empty (by decide +kernel)
  have hpath : isJsonPath "view.json" = true := by decide +kernel
  have hread := read_json hnumbers hpath
  have hrequired : ¬undefinedOpacity.requiredFinite = true := by decide +kernel
  rw [if_neg hrequired] at hread
  obtain ⟨e, wanted, -, hread, -⟩ := hread
  refine ⟨by decide +kernel, saved, hsaved, ?_⟩
  rw [load_eq_read hsaved, hread]
  rfl

end Settings

end ScatterPick
