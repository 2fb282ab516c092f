import ScatterPick.Config.JsonForm
import ScatterPick.Config.YamlForm
import ScatterPick.Proofs.Json.Number

/-!
# Numbers in settings

The numbers that settings hold, and what is assumed of the readers of numbers: they take the
shortest decimal text of a finite number back to the number.
-/

namespace ScatterPick

open Number

namespace Settings

/-- The singles that settings always hold. -/
def requiredSingles (s : Settings) : List Float32 :=
  [s.selection.alphaOther, s.hud.gap, s.hud.size, s.hud.titleFontSize, s.look.radius]

/-- The singles that settings hold. -/
def singles (s : Settings) : List Float32 :=
  s.selection.expandSelected.toList ++ s.requiredSingles

/-- Whether all numbers that settings always hold are finite. -/
def requiredFinite (s : Settings) : Bool :=
  s.requiredSingles.all Float32.isFinite && s.selection.clickTolerance.isFinite

/-- Whether all numbers of settings are finite. -/
def allFinite (s : Settings) : Bool :=
  s.singles.all Float32.isFinite && s.selection.clickTolerance.isFinite

end Settings

/-- A single is read back from its text in either format. -/
def SingleReadsBack (x : Float32) : Prop :=
  Json.ReadsBack Json.readSingle (Style.jsonSingle.single x) x ∧
    (Yaml.float? (Style.yamlSingle.single x)).map narrow = some x

instance (x : Float32) : Decidable (SingleReadsBack x) := inferInstanceAs (Decidable (_ ∧ _))

/-- A double is read back from its text in either format. -/
def DoubleReadsBack (x : Float) : Prop :=
  Json.ReadsBack Json.readDouble (Style.jsonDouble.double x) x ∧
    Yaml.float? (Style.yamlDouble.double x) = some x

instance (x : Float) : Decidable (DoubleReadsBack x) := inferInstanceAs (Decidable (_ ∧ _))

/-- The readers of numbers take the text of every finite number of settings back to the number. -/
structure Settings.NumbersReadBack (s : Settings) : Prop where
  single : ∀ x ∈ s.singles, x.isFinite = true → SingleReadsBack x
  double : s.selection.clickTolerance.isFinite = true → DoubleReadsBack s.selection.clickTolerance

instance (s : Settings) : Decidable s.NumbersReadBack :=
  decidable_of_iff ((∀ x ∈ s.singles, x.isFinite = true → SingleReadsBack x) ∧
      (s.selection.clickTolerance.isFinite = true → DoubleReadsBack s.selection.clickTolerance))
    ⟨fun h => ⟨h.1, h.2⟩, fun h => ⟨h.single, h.double⟩⟩

end ScatterPick
