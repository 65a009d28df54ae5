import RenderTargets.Number.Single
/-!
# Vectors and matrices

Vectors of two to four singles and matrices of four columns. Every sum of products is taken from
left to right, which fixes each rounding.
-/

namespace RenderTargets

/-- A pair of singles. -/
structure Vec2 where
  /-- First component. -/
  x : Single
  /-- Second component. -/
  y : Single
  deriving DecidableEq, Inhabited, Repr

/-- Three singles. -/
structure Vec3 where
  /-- First component. -/
  x : Single
  /-- Second component. -/
  y : Single
  /-- Third component. -/
  z : Single
  deriving DecidableEq, Inhabited, Repr

/-- Four singles; as a color red, green, blue and alpha. -/
structure Vec4 where
  /-- First component. -/
  x : Single
  /-- Second component. -/
  y : Single
  /-- Third component. -/
  z : Single
  /-- Fourth component. -/
  w : Single
  deriving DecidableEq, Inhabited, Repr

namespace Vec3

/-- The components by the number of their axis. -/
def component (a : Vec3) : Fin 3 → Single
  | 0 => a.x
  | 1 => a.y
  | 2 => a.z

/-- The vector with a fourth component. -/
def extend (a : Vec3) (w : Single) : Vec4 := ⟨a.x, a.y, a.z, w⟩

end Vec3

namespace Vec4

/-- The same value in every component. -/
def splat (v : Single) : Vec4 := ⟨v, v, v, v⟩

/-- White. -/
def ones : Vec4 := splat .one

/-- Opaque black. -/
def black : Vec4 := ⟨.zero, .zero, .zero, .one⟩

/-- The components in order. -/
def toList (a : Vec4) : List Single := [a.x, a.y, a.z, a.w]

/-- Equality of values in every component. -/
def eq (a b : Vec4) : Bool := a.x.eq b.x && a.y.eq b.y && a.z.eq b.z && a.w.eq b.w

instance : Add Vec4 := ⟨fun a b ↦ ⟨a.x + b.x, a.y + b.y, a.z + b.z, a.w + b.w⟩⟩

/-- Every component times `k`. -/
def scale (a : Vec4) (k : Single) : Vec4 := ⟨a.x * k, a.y * k, a.z * k, a.w * k⟩

end Vec4

/-- A four by four matrix by its columns. -/
structure Mat4 where
  /-- First column. -/
  x : Vec4
  /-- Second column. -/
  y : Vec4
  /-- Third column. -/
  z : Vec4
  /-- Fourth column. -/
  w : Vec4
  deriving DecidableEq, Inhabited, Repr

namespace Mat4

/-- The matrix applied to a column. -/
def apply (a : Mat4) (b : Vec4) : Vec4 :=
  ((a.x.scale b.x + a.y.scale b.y) + a.z.scale b.z) + a.w.scale b.w

instance : Mul Mat4 := ⟨fun a b ↦ ⟨a.apply b.x, a.apply b.y, a.apply b.z, a.apply b.w⟩⟩

/-- The sixteen entries, column after column. -/
def toList (a : Mat4) : List Single := a.x.toList ++ a.y.toList ++ a.z.toList ++ a.w.toList

/-- The 64 bytes of the entries. -/
def bytes (a : Mat4) : List UInt8 := a.toList.flatMap Single.bytes

/-- Perspective projection of a right-handed space onto depths from zero to one. -/
def perspective (fovY aspect near far : Single) : Mat4 :=
  let half := .half * fovY
  let h := half.cos / half.sin
  let w := h / aspect
  let r := far / (near - far)
  { x := ⟨w, .zero, .zero, .zero⟩
    y := ⟨.zero, h, .zero, .zero⟩
    z := ⟨.zero, .zero, r, .negOne⟩
    w := ⟨.zero, .zero, r * near, .zero⟩ }

/-- Shift by `t`. -/
def translation (t : Vec3) : Mat4 :=
  { x := ⟨.one, .zero, .zero, .zero⟩
    y := ⟨.zero, .one, .zero, .zero⟩
    z := ⟨.zero, .zero, .one, .zero⟩
    w := t.extend .one }

/-- Rotation about the first axis. -/
def rotationX (angle : Single) : Mat4 :=
  let s := angle.sin
  let c := angle.cos
  { x := ⟨.one, .zero, .zero, .zero⟩
    y := ⟨.zero, c, s, .zero⟩
    z := ⟨.zero, -s, c, .zero⟩
    w := ⟨.zero, .zero, .zero, .one⟩ }

/-- Rotation about the second axis. -/
def rotationY (angle : Single) : Mat4 :=
  let s := angle.sin
  let c := angle.cos
  { x := ⟨c, .zero, -s, .zero⟩
    y := ⟨.zero, .one, .zero, .zero⟩
    z := ⟨s, .zero, c, .zero⟩
    w := ⟨.zero, .zero, .zero, .one⟩ }

end Mat4

end RenderTargets
