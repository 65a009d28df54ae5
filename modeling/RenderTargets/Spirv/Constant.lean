import RenderTargets.Number.Single
import RenderTargets.Number.Word
import RenderTargets.Spirv.Instruction
/-!
# Constants

A constant is a truth value, an integer of one word or a number of single precision. It is written
down or computed from other constants. Numbers of two words can be written down too, but nothing is
computed from them and they count nothing.

## Integers are words

Whether an integer is signed belongs to its type. A calculation looks at the bits of its operands
and reads them as its operation says, so operands may be signed or not. Sums, differences and
products wrap around.

## What has no result

Division by zero, a quotient or an opposite that no word holds, and a shift by a whole word or more
trap.
-/

namespace RenderTargets.Spirv

/-- The type of one value. -/
inductive Scalar where
  /-- A truth value. -/
  | boolean
  /-- An integer. -/
  | integer (bits : Nat) (signed : Bool)
  /-- A floating point number. -/
  | float (bits : Nat)
  deriving DecidableEq, Inhabited, Repr

/-- Bytes of a value, if it has a size. -/
def Scalar.size : Scalar → Option Nat
  | boolean => none
  | integer bits _ => some (bits / 8)
  | float bits => some (bits / 8)

/-- A constant. -/
inductive Constant where
  /-- A truth value. -/
  | truth (value : Bool)
  /-- An integer. -/
  | integer (signed : Bool) (word : UInt32)
  /-- A number of single precision. -/
  | float (value : Single)
  /-- A number of two words, the less significant first. -/
  | wide (low high : UInt32)
  deriving DecidableEq, Inhabited, Repr

namespace Constant

/-- The constant of a type that some words hold; there have to be as many words as a number of
the type has. -/
def ofWords? : Scalar → List UInt32 → Option Constant
  | .integer 32 signed, [w] => some (integer signed w)
  | .float 32, [w] => some (float ⟨w⟩)
  | .integer 64 _, [low, high] => some (wide low high)
  | .float 64, [low, high] => some (wide low high)
  | _, _ => none

/-- The constant as a number of elements, which is positive. -/
def count? : Constant → Option Nat
  | integer signed w =>
    if w = 0 ∨ (signed ∧ w.toInt32 < 0) then none else some w.toNat
  | _ => none

/-- The word that holds the constant, if it is a number of one word. -/
def word? : Constant → Option UInt32
  | integer _ w => some w
  | float x => some x.bits
  | _ => none

end Constant

/-- What is computed from constants. A calculation without a result answers nothing. -/
inductive Calculation where
  /-- An integer from one. -/
  | word (f : UInt32 → Option UInt32)
  /-- An integer from two. -/
  | words (f : UInt32 → UInt32 → Option UInt32)
  /-- A truth value from two integers. -/
  | compare (f : UInt32 → UInt32 → Bool)
  /-- A truth value from one. -/
  | truth (f : Bool → Bool)
  /-- A truth value from two. -/
  | truths (f : Bool → Bool → Bool)
  /-- A number from one. -/
  | single (f : Single → Single)
  /-- A number from two. -/
  | singles (f : Single → Single → Single)
  /-- An integer from a number. -/
  | toWord (f : Single → UInt32)
  /-- A number from an integer. -/
  | ofWord (f : UInt32 → Single)
  /-- The same bits as another type. -/
  | sameBits
  /-- One of two constants. -/
  | select

namespace Calculation

/-- A signed result as a word, if a word holds it. -/
def signed? (z : Int) : Option UInt32 := (Word.signed? z).map (·.toUInt32)

/-- A calculation with two signed integers. The second is not zero, and the quotient fits. -/
def divide (f : Int → Int → Int) (a b : UInt32) : Option UInt32 :=
  let x := a.toInt32.toInt
  let y := b.toInt32.toInt
  if y = 0 ∨ (x = -0x80000000 ∧ y = -1) then none else signed? (f x y)

/-- A shift by less than a word. -/
def shift (f : UInt32 → UInt32 → UInt32) (a n : UInt32) : Option UInt32 :=
  if n < 32 then some (f a n) else none

/-- A comparison of signed integers. -/
def signedly (f : Int32 → Int32 → Bool) (a b : UInt32) : Bool := f a.toInt32 b.toInt32

/-- The calculation of an operation, if there is one. -/
def ofOperation? : (operation : Nat) → Option Calculation
  | 109 => some (.toWord Single.toUnsigned)
  | 110 => some (.toWord fun x ↦ x.toSigned.toUInt32)
  | 111 => some (.ofWord fun a ↦ .ofSigned a.toInt32)
  | 112 => some (.ofWord .ofUnsigned)
  | 113 | 114 => some (.word some)
  | 115 => some (.single id)
  | 124 => some .sameBits
  | 126 => some (.word fun a ↦ signed? (-a.toInt32.toInt))
  | 127 => some (.single Single.neg)
  | 128 => some (.words fun a b ↦ some (a + b))
  | 129 => some (.singles (· + ·))
  | 130 => some (.words fun a b ↦ some (a - b))
  | 131 => some (.singles (· - ·))
  | 132 => some (.words fun a b ↦ some (a * b))
  | 133 => some (.singles (· * ·))
  | 134 => some (.words fun a b ↦ if b = 0 then none else some (a / b))
  | 135 => some (.words (divide Int.tdiv))
  | 136 => some (.singles (· / ·))
  | 137 => some (.words fun a b ↦ if b = 0 then none else some (a % b))
  | 138 => some (.words (divide Int.tmod))
  | 139 => some (.words (divide Int.emod))
  | 164 => some (.truths (· == ·))
  | 165 => some (.truths (· != ·))
  | 166 => some (.truths (· || ·))
  | 167 => some (.truths (· && ·))
  | 168 => some (.truth (!·))
  | 169 => some .select
  | 170 => some (.compare (· == ·))
  | 171 => some (.compare (· != ·))
  | 172 => some (.compare (· > ·))
  | 173 => some (.compare (signedly (· > ·)))
  | 174 => some (.compare (· ≥ ·))
  | 175 => some (.compare (signedly (· ≥ ·)))
  | 176 => some (.compare (· < ·))
  | 177 => some (.compare (signedly (· < ·)))
  | 178 => some (.compare (· ≤ ·))
  | 179 => some (.compare (signedly (· ≤ ·)))
  | 194 => some (.words (shift (· >>> ·)))
  | 195 => some (.words (shift fun a n ↦ (a.toInt32 >>> n.toInt32).toUInt32))
  | 196 => some (.words (shift (· <<< ·)))
  | 197 => some (.words fun a b ↦ some (a ||| b))
  | 198 => some (.words fun a b ↦ some (a ^^^ b))
  | 199 => some (.words fun a b ↦ some (a &&& b))
  | 200 => some (.word fun a ↦ some (~~~a))
  | _ => none

/-- The value computed from some constants as a constant of a type. It is a defect if the constants
are of other kinds or in another number, or if the type does not hold such values. -/
def run (c : Calculation) (result : Scalar) (operands : List Constant) :
    Checked Defect Constant :=
  match c, result, operands with
  | word f, .integer 32 s, [.integer _ a] => do return .integer s (← Checked.ofOption (f a))
  | words f, .integer 32 s, [.integer _ a, .integer _ b] => do
    return .integer s (← Checked.ofOption (f a b))
  | compare f, .boolean, [.integer _ a, .integer _ b] => return .truth (f a b)
  | truth f, .boolean, [.truth a] => return .truth (f a)
  | truths f, .boolean, [.truth a, .truth b] => return .truth (f a b)
  | single f, .float 32, [.float a] => return .float (f a)
  | singles f, .float 32, [.float a, .float b] => return .float (f a b)
  | toWord f, .integer 32 s, [.float a] => return .integer s (f a)
  | ofWord f, .float 32, [.integer _ a] => return .float (f a)
  | sameBits, s, [a] =>
    match a.word?.bind fun w ↦ Constant.ofWords? s [w] with
    | some r => return r
    | none => throw (.error .unsupported)
  | select, _, [.truth choice, a, b] => return if choice then a else b
  | _, _, _ => throw (.error .unsupported)

end Calculation

end RenderTargets.Spirv
