import ScatterPick.Hud.Basic
import ScatterPick.Image.Failure
import ScatterPick.Image.Picture

/-!
# Picture cache

What comes of decoding the icon of a button is kept under the index of the button: the picture, or
the failure to make one. A lookup asks for a picture first, then for a failure, and decodes the icon
only if neither is kept.
-/

namespace ScatterPick

/-- How encoded icons are turned into pictures. -/
structure Decoders where
  /-- Draws a vector drawing with the given number of pixels on its longer side. -/
  drawing : Bytes → Nat → Except ImageFailure Picture
  /-- Decodes a picture. -/
  picture : Bytes → Except ImageFailure Picture

/-- Decodes an icon; glyphs and missing icons have nothing to decode. -/
def Decoders.decode? (d : Decoders) (icon : Icon) (size : Nat) :
    Option (Except ImageFailure Picture) :=
  match icon with
  | .none => none
  | .glyph _ => none
  | .drawing bytes => some (d.drawing bytes size)
  | .picture bytes => some (d.picture bytes)

/-- The pictures and the failures so far, each under the index of its button. -/
structure PictureCache where
  drawn : List (Nat × Picture)
  failed : List (Nat × ImageFailure)

/-- What a lookup gave. -/
structure PictureLookup where
  /-- The picture to show. -/
  picture : Option Picture
  /-- What was decoded for this lookup. -/
  decoded : Option (Except ImageFailure Picture)

namespace PictureCache

/-- The cache without pictures. -/
def empty : PictureCache := ⟨[], []⟩

/-- The picture kept under an index. -/
def picture? (c : PictureCache) (index : Nat) : Option Picture :=
  (c.drawn.find? (·.1 == index)).map (·.2)

/-- Whether a failure is kept under an index. -/
def hasFailed (c : PictureCache) (index : Nat) : Bool := c.failed.any (·.1 == index)

/-- The number of pictures made so far. -/
def pictures (c : PictureCache) : Nat := c.drawn.length

/-- Keeps what was decoded for a button. -/
def keep (c : PictureCache) (index : Nat) : Except ImageFailure Picture → PictureCache
  | .ok picture => { c with drawn := (index, picture) :: c.drawn }
  | .error cause => { c with failed := (index, cause) :: c.failed }

/-- Looks up the picture of a button and decodes its icon at the first time. -/
def lookup (c : PictureCache) (d : Decoders) (index : Nat) (icon : Icon) (size : Nat) :
    PictureCache × PictureLookup :=
  match c.picture? index with
  | some picture => (c, ⟨some picture, none⟩)
  | none =>
    if c.hasFailed index then (c, ⟨none, none⟩)
    else
      match d.decode? icon size with
      | none => (c, ⟨none, none⟩)
      | some outcome => (c.keep index outcome, ⟨outcome.toOption, some outcome⟩)

end PictureCache

/-- The failure that a lookup found out. -/
def PictureLookup.failure? (l : PictureLookup) : Option ImageFailure :=
  match l.decoded with
  | some (.error cause) => some cause
  | _ => none

end ScatterPick
