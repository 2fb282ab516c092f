import ScatterPick.Config.File
import ScatterPick.Proofs.Config.JsonWritten
import ScatterPick.Proofs.Config.YamlReading
import ScatterPick.Proofs.Files.Writing

/-!
# Files with a part of the settings

A file may leave out settings on either level, list the others in any order and hold more than
anybody asks for. What it gives is loaded, and what it leaves out has its default.
-/

namespace ScatterPick

namespace Settings

open Files Json Yaml

variable {s : Settings} {n : Named} {path text : String} {files : Tree}

/-- A text gives the named part of some settings, in the format of a path. -/
def Gives (s : Settings) (n : Named) (path text : String) : Prop :=
  if isJsonPath path then s.JsonGives n text.toList else s.YamlGives n text

/-- Settings of which files hold parts. -/
def kept : Settings where
  selection := { alphaOther := 0.5, expandSelected := none, clickTolerance := 0.25 }
  hud := { gap := 0.125 }
  look := { radius := 5.0 }

end Settings

end ScatterPick
