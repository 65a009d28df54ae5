import RenderTargets.Device
import RenderTargets.Text.Font
/-!
# Debug text

Text on a grid of character cells. Printing places glyphs at the cursor; a flush turns the placed
glyphs into filled rectangles, one for each run of lit pixels in a row of a glyph, and forgets them.

## Cells and pixels

The cursor counts cells of the present scale, and a glyph keeps the scale and color with which it
was placed. Whoever changes the scale between two glyphs of a line changes where the second one
falls.

## Batches

Rectangles of one color are filled together, colors in the order of their first use. Colors are
compared by value, so that a color with a NaN equals none.
-/

namespace RenderTargets.Text

open Word

/-- Pixels of the screen for a pixel of the font, across and down. -/
structure Scale where
  /-- Across. -/
  x : UInt32
  /-- Down. -/
  y : UInt32
  deriving DecidableEq, Inhabited, Repr

/-- The whole number of pixels for a component of a scale: at least one, and one if it is not
finite. -/
def wholePixels (s : Single) : UInt32 :=
  if s.isFinite then UInt32.ofNat (min (max s.round 1) 0xffffffff).toNat else 1

/-- A place on the grid. -/
structure Cell where
  /-- Column. -/
  column : UInt32
  /-- Row. -/
  row : UInt32
  deriving DecidableEq, Inhabited, Repr

/-- A glyph on the grid. -/
structure Placed where
  /-- Where it is. -/
  cell : Cell
  /-- Its character. -/
  code : Nat
  /-- Its scale. -/
  scale : Scale
  /-- Its color. -/
  color : Vec4
  deriving DecidableEq, Inhabited, Repr

/-- Rectangles of one color. -/
structure Batch where
  /-- The color. -/
  color : Vec4
  /-- The rectangles. -/
  rects : List Rect
  deriving DecidableEq, Inhabited, Repr

end RenderTargets.Text

namespace RenderTargets

open Text Word

/-- Text that waits to be drawn. -/
structure DebugText where
  /-- Scale of the glyphs to come. -/
  scale : Scale := ⟨1, 1⟩
  /-- Color of the glyphs to come. -/
  color : Vec4 := .ones
  /-- Where the next glyph goes. -/
  cursor : Cell := ⟨0, 0⟩
  /-- The glyphs placed. -/
  placed : List Placed := []
  deriving DecidableEq, Inhabited, Repr

namespace DebugText

/-- Sets the scale of the glyphs to come. -/
def setScale (t : DebugText) (s : Vec2) : DebugText :=
  { t with scale := ⟨wholePixels s.x, wholePixels s.y⟩ }

/-- Prints one character. A line feed starts the next line, a carriage return goes back to the start
of the line, and a blank only moves on. -/
def put (t : DebugText) (c : Char) : Option DebugText :=
  if c = '\n' then do
    return { t with cursor := ⟨0, ← add? t.cursor.row 1⟩ }
  else if c = '\r' then
    some { t with cursor := { t.cursor with column := 0 } }
  else do
    let code := if c.toNat < 128 then c.toNat else substitute
    let placed :=
      if c = ' ' then t.placed else t.placed ++ [⟨t.cursor, code, t.scale, t.color⟩]
    return { t with placed, cursor := { t.cursor with column := ← add? t.cursor.column 1 } }

/-- Prints the characters one after another. -/
def putAll (t : DebugText) : List Char → Option DebugText
  | [] => some t
  | c :: rest => do putAll (← t.put c) rest

/-- Prints text at the cursor. -/
def print? (t : DebugText) (text : String) : Option DebugText := t.putAll text.toList

/-- Width and height of a cell in pixels. -/
def cellSize? (t : DebugText) : Option (UInt32 × UInt32) := do
  return (← mul? glyphSize t.scale.x, ← mul? glyphSize t.scale.y)

/-- Whole cells in a width. -/
def columnsFor? (t : DebugText) (width : UInt32) : Option UInt32 :=
  t.cellSize?.map fun c ↦ width / c.1

/-- Whole cells in a height. -/
def rowsFor? (t : DebugText) (height : UInt32) : Option UInt32 :=
  t.cellSize?.map fun c ↦ height / c.2

/-- Where one line of text has to start to be in the middle of an area. -/
def centered? (t : DebugText) (text : String) (width height : UInt32) : Option Cell := do
  let column := monus (← t.columnsFor? width) (UInt32.ofNat text.length) / 2
  let row := monus (← t.rowsFor? height) 1 / 2
  return ⟨column, row⟩

/-- The runs of lit pixels of a row, as first column and length, from a column on. -/
def runs (row : UInt8) : (columns : List Nat) → List (Nat × Nat)
  | [] => []
  | c :: rest =>
    if isLit row c then
      match runs row rest with
      | (s, n) :: more => if s = c + 1 then (c, n + 1) :: more else (c, 1) :: (s, n) :: more
      | [] => [(c, 1)]
    else runs row rest

/-- The rectangle of a run in a row of a glyph whose corner is at `x`, `y`. -/
def runRect? (scale : Scale) (x y : Int32) (row : Nat) (run : Nat × Nat) : Option Rect := do
  let left ← addSigned? x (← mul? (UInt32.ofNat run.1) scale.x).toInt32
  let top ← addSigned? y (← mulSigned? (Int32.ofNat row) scale.y.toInt32)
  return ⟨left, top, ← mul? (UInt32.ofNat run.2) scale.x, scale.y⟩

/-- The rectangles of a glyph, row after row and from left to right. -/
def glyphRects? (g : Placed) : Option (List Rect) := do
  let x := (← mul? (← mul? g.cell.column glyphSize) g.scale.x).toInt32
  let y := (← mul? (← mul? g.cell.row glyphSize) g.scale.y).toInt32
  let located := (glyph g.code).zipIdx.flatMap fun (bits, row) ↦
    (runs bits (List.range 8)).map fun run ↦ (row, run)
  located.mapM fun (row, run) ↦ runRect? g.scale x y row run

/-- The batches with rectangles of a color added, to the first batch of that color or as a new
batch. -/
def addRects (color : Vec4) (rects : List Rect) : List Batch → List Batch
  | [] => [⟨color, rects⟩]
  | b :: rest =>
    if b.color.eq color then { b with rects := b.rects ++ rects } :: rest
    else b :: addRects color rects rest

/-- The batches with the rectangles of each glyph added. -/
def batches? : List Placed → List Batch → Option (List Batch)
  | [], acc => some acc
  | g :: rest, acc => do batches? rest (addRects g.color (← glyphRects? g) acc)

/-- The rectangles of the text, by color. -/
def layout? (t : DebugText) : Option (List Batch) := do
  return (← batches? t.placed []).filter fun b ↦ !b.rects.isEmpty

variable {σ : Type} [GraphicsDevice σ]

/-- Fills the rectangles of each batch. -/
def fillBatches : List Batch → Step σ Unit
  | [] => pure ()
  | b :: rest => do
    GraphicsDevice.fillRects b.color b.rects
    fillBatches rest

/-- Draws the text into the pass and forgets it. Text that could not be drawn stays. -/
def flush : Step (DebugText × σ) Unit := do
  let batches ← StepWith.orTrap (← get).1.layout?
  StepWith.within .snd (fillBatches batches)
  modify fun s ↦ ({ s.1 with placed := [] }, s.2)

end DebugText

end RenderTargets
