import RenderTargets.Number.Vector
import RenderTargets.Rect
/-!
# Viewports and cleared rectangles

Clip space has its second axis upwards and images have theirs downwards. A viewport of **negative
height** that starts at its lower edge turns one into the other.

Rectangles to clear have to lie in the target, so they are clipped to it.
-/

namespace RenderTargets.Vulkan

/-- A viewport. -/
structure Viewport where
  /-- Left edge. -/
  x : Single
  /-- Edge that the height counts from. -/
  y : Single
  /-- Width. -/
  width : Single
  /-- Height, negative. -/
  height : Single
  /-- Depth of the near plane. -/
  minDepth : Single
  /-- Depth of the far plane. -/
  maxDepth : Single
  deriving DecidableEq, Inhabited, Repr

/-- The viewport of a rectangle whose second coordinate counts from the top, or from the bottom of a
target of the given height. -/
def flippedViewport? (r : Rect) (topLeft : Bool) (targetHeight : UInt32) : Option Viewport := do
  let height := r.height.toInt32
  let top ←
    if topLeft then some r.y
    else Word.subSigned? targetHeight.toInt32 (← Word.addSigned? r.y height)
  let lower ← Word.addSigned? top height
  return {
    x := .ofSigned r.x
    y := .ofSigned lower
    width := .ofUnsigned r.width
    height := -(Single.ofUnsigned r.height)
    minDepth := .zero
    maxDepth := .one }

/-- Width and height in pixels. -/
structure Extent where
  /-- Pixels across. -/
  width : UInt32
  /-- Pixels down. -/
  height : UInt32
  deriving DecidableEq, Inhabited, Repr

/-- The rectangle of a whole target. -/
def Extent.rect (e : Extent) : Rect := ⟨0, 0, e.width, e.height⟩

/-- A rectangle of a target; nothing if no pixel of it lies in the target. -/
def clipRect? (e : Extent) (r : Rect) : Option (Option Rect) := do
  let x0 := max r.x 0
  let y0 := max r.y 0
  let x1 := min (← r.right?) e.width.toInt32
  let y1 := min (← r.bottom?) e.height.toInt32
  if x0 < x1 ∧ y0 < y1 then
    return some ⟨x0, y0, (x1 - x0).toUInt32, (y1 - y0).toUInt32⟩
  return none

/-- The parts of rectangles that lie in a target, in the same order. -/
def clearRects? (e : Extent) (rects : List Rect) : Option (List Rect) := do
  return (← rects.mapM (clipRect? e)).filterMap id

end RenderTargets.Vulkan
