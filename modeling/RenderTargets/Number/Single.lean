/-!
# Single precision numbers

A number of the binary format of 32 bits is kept **as its bits**, so that the payload of a NaN and
the sign of a zero survive where a number is only passed on, and equality of numbers as data is
equality of bits.

## Arithmetic

Sums, products and quotients are rounded to the nearest number, ties to even. A NaN operand is the
result, made quiet; the first one if both are NaN. Where the operands have no result (`inf - inf`,
`0 * inf`, `0 / 0`) the result is `Single.invalid`, the quiet NaN with the sign set.

## Two comparisons

`=` compares bits. `Single.eq`, `Single.lt` and `Single.le` compare values: a NaN is not equal to
itself, and the two zeros are equal.
-/

namespace RenderTargets

/-- A single precision number, by its bits. -/
structure Single where
  /-- Sign, eight bits of exponent, 23 bits of fraction. -/
  bits : UInt32
  deriving DecidableEq, Inhabited, Repr

namespace Single

/-- The number for arithmetic. Payloads of NaNs are lost here. -/
def value (x : Single) : Float32 := Float32.ofBits x.bits

/-- The exponent is all ones and the fraction is not zero. -/
def isNaN (x : Single) : Bool := (x.bits &&& 0x7fffffff) > 0x7f800000

/-- The exponent is not all ones. -/
def isFinite (x : Single) : Bool := (x.bits &&& 0x7f800000) != 0x7f800000

/-- The sign bit is set. -/
def isNegative (x : Single) : Bool := (x.bits &&& 0x80000000) != 0

/-- The NaN with its quiet bit set. -/
def quiet (x : Single) : Single := ⟨x.bits ||| 0x00400000⟩

/-- The result of an operation that has none. -/
def invalid : Single := ⟨0xffc00000⟩

/-- The bits of a computed number. -/
def ofValue (r : Float32) : Single := if r.isNaN then invalid else ⟨r.toBits⟩

/-- A function of one number, passing a NaN on. -/
def unary (f : Float32 → Float32) (x : Single) : Single :=
  if x.isNaN then x.quiet else ofValue (f x.value)

/-- A function of two numbers, passing a NaN on. -/
def binary (f : Float32 → Float32 → Float32) (x y : Single) : Single :=
  if x.isNaN then x.quiet else if y.isNaN then y.quiet else ofValue (f x.value y.value)

instance : Add Single := ⟨binary (· + ·)⟩
instance : Sub Single := ⟨binary (· - ·)⟩
instance : Mul Single := ⟨binary (· * ·)⟩
instance : Div Single := ⟨binary (· / ·)⟩

/-- The sign bit flipped. -/
def neg (x : Single) : Single := ⟨x.bits ^^^ 0x80000000⟩

instance : Neg Single := ⟨neg⟩

/-- The sign bit cleared. -/
def abs (x : Single) : Single := ⟨x.bits &&& 0x7fffffff⟩

/-- Sine of an angle in radians. -/
def sin (x : Single) : Single := unary Float32.sin x

/-- Cosine of an angle in radians. -/
def cos (x : Single) : Single := unary Float32.cos x

/-- Equality of values. -/
def eq (x y : Single) : Bool := x.value == y.value

/-- Strict order of values. -/
def lt (x y : Single) : Bool := x.value < y.value

/-- Order of values. -/
def le (x y : Single) : Bool := x.value ≤ y.value

/-- The larger value; of a NaN and a number, the number. -/
def max (x y : Single) : Single :=
  if x.isNaN then y else if y.isNaN then x else if x.lt y then y else x

/-- The value brought into `[lo, hi]`; a NaN stays. -/
def clamp (x lo hi : Single) : Single :=
  if x.lt lo then lo else if hi.lt x then hi else x

/-- The nearest number to an unsigned word. -/
def ofUnsigned (w : UInt32) : Single := ⟨w.toFloat32.toBits⟩

/-- The nearest number to a signed word. -/
def ofSigned (w : Int32) : Single := ⟨w.toFloat32.toBits⟩

/-! ### Named numbers -/

/-- 0 -/
def zero : Single := ⟨0⟩
/-- 1/4 -/
def quarter : Single := ⟨0x3e800000⟩
/-- 1/2 -/
def half : Single := ⟨0x3f000000⟩
/-- 1 -/
def one : Single := ⟨0x3f800000⟩
/-- -1 -/
def negOne : Single := ⟨0xbf800000⟩
/-- 2 -/
def two : Single := ⟨0x40000000⟩
/-- 127 -/
def largestSignedByte : Single := ⟨0x42fe0000⟩
/-- 255 -/
def largestByte : Single := ⟨0x437f0000⟩
/-- The number nearest to pi/180. -/
def radiansPerDegree : Single := ⟨0x3c8efa35⟩

/-! ### Exact value -/

/-- The exponent field. -/
def exponentField (x : Single) : Nat := ((x.bits >>> 23) &&& 0xff).toNat

/-- The fraction field. -/
def fractionField (x : Single) : Nat := (x.bits &&& 0x7fffff).toNat

/-- `m` in `m * 2 ^ e`, the exact size of a finite number. -/
def significand (x : Single) : Nat :=
  if x.exponentField = 0 then x.fractionField else x.fractionField + 0x800000

/-- `e` in `m * 2 ^ e`, the exact size of a finite number. -/
def exponent (x : Single) : Int :=
  if x.exponentField = 0 then -149 else (x.exponentField : Int) - 150

/-- The integer nearest to a finite number; a half goes away from zero. -/
def round (x : Single) : Int :=
  let size : Nat :=
    match x.exponent with
    | .ofNat e => x.significand * Nat.pow 2 e
    | .negSucc e => (2 * x.significand + Nat.pow 2 (e + 1)) / Nat.pow 2 (e + 2)
  if x.isNegative then -(size : Int) else size

/-- The integer between zero and a number that is nearest to the number. An infinite number counts
as the next power of two after the finite ones. -/
def truncate (x : Single) : Int :=
  let size : Nat :=
    match x.exponent with
    | .ofNat e => x.significand * Nat.pow 2 e
    | .negSucc e => x.significand / Nat.pow 2 (e + 1)
  if x.isNegative then -(size : Int) else size

/-- The truncated number, or the nearest integer that an unsigned word holds; zero for a NaN. -/
def toUnsigned (x : Single) : UInt32 :=
  if x.isNaN then 0 else UInt32.ofNat (min x.truncate.toNat 0xffffffff)

/-- The truncated number, or the nearest integer that a signed word holds; zero for a NaN. -/
def toSigned (x : Single) : Int32 :=
  if x.isNaN then 0 else Int32.ofInt (Max.max (-0x80000000) (Min.min x.truncate 0x7fffffff))

/-- The four bytes, the least significant first. -/
def bytes (x : Single) : List UInt8 :=
  [x.bits.toUInt8, (x.bits >>> 8).toUInt8, (x.bits >>> 16).toUInt8, (x.bits >>> 24).toUInt8]

end Single

end RenderTargets
