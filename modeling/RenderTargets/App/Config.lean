import RenderTargets.Number.Vector
/-!
# Configuration of the application

Everything that can be tuned, with the values of the reference scene: a window of 640 by 480 and
three targets of 200 by 200 with four samples, tinted red, green and blue.
-/

namespace RenderTargets.App

/-- What can be tuned. -/
structure Config where
  /-- Window width. -/
  displayWidth : UInt32 := 640
  /-- Window height. -/
  displayHeight : UInt32 := 480
  /-- Window title. -/
  windowTitle : String := "MRT Sample"
  /-- Width of a target. -/
  targetWidth : UInt32 := 200
  /-- Height of a target. -/
  targetHeight : UInt32 := 200
  /-- Samples per pixel asked for. -/
  samples : UInt32 := 4
  /-- Color that the first target is cleared to. -/
  firstClearColor : Vec4 := ⟨.quarter, .zero, .zero, .one⟩
  /-- Color that the second target is cleared to. -/
  secondClearColor : Vec4 := ⟨.zero, .quarter, .zero, .one⟩
  /-- Color that the third target is cleared to. -/
  thirdClearColor : Vec4 := ⟨.zero, .zero, .quarter, .one⟩
  /-- Color that the screen is cleared to. -/
  displayClearColor : Vec4 := ⟨.half, .half, .half, .one⟩
  /-- Color that the screen is cleared to for the fallback message. -/
  fallbackClearColor : Vec4 := ⟨.half, .zero, .zero, .one⟩
  /-- Scale of the fallback message. -/
  fallbackTextScale : Vec2 := ⟨.two, .two⟩
  /-- Color of the fallback message. -/
  fallbackTextColor : Vec4 := .ones
  /-- Where the cube is; three units away. -/
  cubePosition : Vec3 := ⟨.zero, .zero, ⟨0xc0400000⟩⟩
  /-- Field of view from top to bottom; 45 degrees. -/
  fovYDegrees : Single := ⟨0x42340000⟩
  /-- Distance at which things appear; 0.01. -/
  zNear : Single := ⟨0x3c23d70a⟩
  /-- Distance at which they vanish; 100. -/
  zFar : Single := ⟨0x42c80000⟩
  /-- Turn per frame about both axes in radians; 0.02 and 0.01. -/
  angleStep : Vec2 := ⟨⟨0x3ca3d70a⟩, ⟨0x3c23d70a⟩⟩
  deriving DecidableEq, Inhabited, Repr

namespace Config

/-- Width of a target over its height, which counts as one at least. -/
def aspect (c : Config) : Single :=
  Single.ofUnsigned c.targetWidth / Single.ofUnsigned (max c.targetHeight 1)

/-- The colors of the three targets. -/
def clearColors (c : Config) : List Vec4 :=
  [c.firstClearColor, c.secondClearColor, c.thirdClearColor]

end Config

end RenderTargets.App
