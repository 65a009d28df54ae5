import RenderTargets.Format
import RenderTargets.Number.Word
/-!
# Features and the display

What a device can do beyond the minimum, as a set of flags, and what the screen looks like. Flags
without a meaning are kept.
-/

namespace RenderTargets

/-- A set of flags. -/
structure Features where
  /-- One bit for each flag. -/
  bits : UInt32
  deriving DecidableEq, Inhabited, Repr

namespace Features

/-- No flag. -/
def none : Features := ⟨0⟩

/-- More than one color attachment can be bound at once. -/
def multipleTargets : Features := ⟨1⟩

/-- Render targets may have several samples per pixel. -/
def multisampling : Features := ⟨2⟩

/-- Every flag with a meaning. -/
def every : Features := ⟨3⟩

/-- All flags of `b` are in `a`. -/
def contains (a b : Features) : Bool := a.bits &&& b.bits == b.bits

/-- The flags of either. -/
def union (a b : Features) : Features := ⟨a.bits ||| b.bits⟩

/-- The flags of `a` that are not in `b`. -/
def diff (a b : Features) : Features := ⟨a.bits &&& ~~~b.bits⟩

/-- Hexadecimal digits without leading zeros. -/
def hexDigits (w : UInt32) : String := String.ofList (Nat.toDigits 16 w.toNat)

/-- The names of the flags, then the bits without a name; `0x0` if there is no flag. -/
def text (a : Features) : String :=
  let known := [(multipleTargets, "MULTIPLE_RENDER_TARGET"), (multisampling, "MSAA_RENDER_TARGETS")]
  let names := known.filterMap fun (f, n) ↦ if a.contains f then some n else Option.none
  let rest := a.diff every
  let unnamed := if rest.bits = 0 then [] else ["0x" ++ hexDigits rest.bits]
  let inner := if a.bits = 0 then "0x0" else " | ".intercalate (names ++ unnamed)
  s!"DeviceFeatures({inner})"

end Features

/-- Properties of the screen. -/
structure Display where
  /-- Pixels across. -/
  width : UInt32
  /-- Pixels down. -/
  height : UInt32
  /-- Color format. -/
  colorFormat : Format
  /-- Format of the depth buffer, if there is one. -/
  depthFormat : Option Format
  /-- Samples per pixel. -/
  samples : UInt32
  deriving DecidableEq, Inhabited, Repr

end RenderTargets
