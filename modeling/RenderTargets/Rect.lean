import RenderTargets.Number.Word
/-!
# Rectangles

Pixel rectangles with signed positions and unsigned sizes. The far edges are signed words: a size
that a signed word does not hold counts as the negative word of the same bits, and an edge that no
word holds traps.
-/

namespace RenderTargets

/-- A rectangle of pixels. -/
structure Rect where
  /-- Left edge. -/
  x : Int32
  /-- Near edge in the second direction. -/
  y : Int32
  /-- Pixels in the first direction. -/
  width : UInt32
  /-- Pixels in the second direction. -/
  height : UInt32
  deriving DecidableEq, Inhabited, Repr

namespace Rect

/-- The edge after the last pixel in the first direction. -/
def right? (r : Rect) : Option Int32 := Word.addSigned? r.x r.width.toInt32

/-- The edge after the last pixel in the second direction. -/
def bottom? (r : Rect) : Option Int32 := Word.addSigned? r.y r.height.toInt32

/-- Number of pixels. -/
def area (r : Rect) : Nat := r.width.toNat * r.height.toNat

/-- Neither lies past an edge of the other. Edges are looked at in turn, as far as needed. -/
def overlaps? (r s : Rect) : Option Bool := do
  if r.x < (← s.right?) then
    if s.x < (← r.right?) then
      if r.y < (← s.bottom?) then
        return s.y < (← r.bottom?)
  return false

/-- The smallest rectangle around both. -/
def union? (r s : Rect) : Option Rect := do
  let x := min r.x s.x
  let y := min r.y s.y
  let right := max (← r.right?) (← s.right?)
  let bottom := max (← r.bottom?) (← s.bottom?)
  return ⟨x, y, (← Word.subSigned? right x).toUInt32, (← Word.subSigned? bottom y).toUInt32⟩

end Rect

end RenderTargets
