import ScatterPick.Drawing.Color
import ScatterPick.Xml.Document

/-!
# Scenes

What a drawing shows: a size and filled boxes, those at the back first. The frame that the boxes
are placed in is fitted into the size without stretching it.
-/

namespace ScatterPick.Drawing

/-- A filled box. -/
structure Box where
  x : Float32
  y : Float32
  width : Float32
  height : Float32
  color : Color

/-- The frame that a drawing shows. -/
structure Frame where
  x : Float32
  y : Float32
  width : Float32
  height : Float32

/-- A drawing with its size and the frame that is fitted into it. -/
structure Scene where
  width : Float32
  height : Float32
  frame : Frame
  boxes : List Box

/-- The space of the names of drawings. -/
def space : String := "http://www.w3.org/2000/svg"

/-- Whether an element has a name of drawings, with its space or without any. -/
def isNamed (e : Xml.Element) (base : String) : Bool :=
  e.name.base = base && (e.name.space = none || e.name.space = some space)

/-- Whether a side is a positive number. -/
def isSide (x : Float32) : Bool := 0.0 < x && x.isFinite

namespace Frame

/-- Reads four numbers with blanks or commas between them. -/
def numbers? : Nat → List Char → Option (List Float32)
  | 0, cs => if (cs.dropWhile Xml.isBlank).isEmpty then some [] else none
  | count + 1, cs => do
    let (x, rest) ← number? cs
    let rest := Color.dropComma (rest.dropWhile Xml.isBlank)
    let xs ← numbers? count rest
    some (x.toFloat32 :: xs)

/-- The frame that a text stands for; it has an area. -/
def read? (text : String) : Option Frame :=
  match numbers? 4 text.toList with
  | some [x, y, width, height] =>
    if isSide width && isSide height then some ⟨x, y, width, height⟩ else none
  | _ => none

end Frame

/-- The length that an attribute gives. -/
def length? (e : Xml.Element) (name : String) : Option Length :=
  (e.attribute? name).bind Length.read?

/-- The box of an element in a frame. -/
def box? (frame : Frame) (color : Color) (e : Xml.Element) : Option Box :=
  let side (name : String) (whole : Float32) := ((length? e name).getD .zero).resolve whole
  let b : Box := ⟨side "x" frame.width, side "y" frame.height, side "width" frame.width,
    side "height" frame.height, color⟩
  if isSide b.width && isSide b.height then some b else none

/-- The paint of an element: its style speaks before its attribute. -/
def paintOf (e : Xml.Element) (outer : Paint) : Paint :=
  let declarations := ((e.attribute? "style").getD "").toList.splitOn ';'
  let style := declarations.findSome? fun d =>
    match d.splitOn ':' with
    | [name, value] =>
      if Text.trimChars name = "fill".toList then some (String.ofList value) else none
    | _ => none
  match style.or (e.attribute? "fill") with
  | some text => .read text outer
  | none => outer

mutual

/-- The boxes of an element, where `outer` is the paint around it. -/
def boxesOf (frame : Frame) (outer : Paint) : Xml.Element → List Box
  | .mk name attributes children =>
    let e : Xml.Element := .mk name attributes children
    let paint := paintOf e outer
    if isNamed e "g" then boxesOfAll frame paint children
    else if isNamed e "rect" then
      match paint with
      | .none => []
      | .solid color => (box? frame color e).toList
    else []

/-- The boxes of elements, those at the back first. -/
def boxesOfAll (frame : Frame) (outer : Paint) : List Xml.Element → List Box
  | [] => []
  | e :: es => boxesOf frame outer e ++ boxesOfAll frame outer es

end

/-- The side that a drawing has where nothing tells. -/
def defaultSide : Float32 := 100.0

namespace Scene

/-- The far corner of some boxes. -/
def corner (boxes : List Box) : Float32 × Float32 :=
  boxes.foldl (fun (x, y) b => (max x (b.x + b.width), max y (b.y + b.height))) (0.0, 0.0)

/-- The drawing of a root. A side that is missing or relative is a share of the frame; without a
frame the boxes decide the size, if there are any. -/
def ofRoot? (root : Xml.Element) : Option Scene :=
  let width := (length? root "width").getD .whole
  let height := (length? root "height").getD .whole
  let frame? := (root.attribute? "viewBox").bind Frame.read?
  let outer := frame?.getD ⟨0.0, 0.0, defaultSide, defaultSide⟩
  let w := width.resolve outer.width
  let h := height.resolve outer.height
  if !isNamed root "svg" || !isSide w || !isSide h then none
  else
    let frame := frame?.getD ⟨0.0, 0.0, w, h⟩
    let boxes := boxesOfAll frame (paintOf root (.solid .black)) root.children
    let far := corner boxes
    let relative := width.unit = .percent || height.unit = .percent
    if relative && frame?.isNone && isSide far.1 && isSide far.2 then
      some ⟨far.1, far.2, ⟨0.0, 0.0, far.1, far.2⟩, boxes⟩
    else some ⟨w, h, frame, boxes⟩

/-- The drawing in a text. -/
def read? (text : String) : Option Scene := (Xml.Element.read? text).bind ofRoot?

end Scene

end ScatterPick.Drawing
