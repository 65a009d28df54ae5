/-!
# Words with checked results

Sizes are unsigned and positions signed words of 32 bits. Sums and products are taken as integers
and then brought back into a word: the result is the integer if the word holds it and nothing
otherwise.
-/

namespace RenderTargets.Word

/-- The unsigned word of value `n`, if there is one. -/
def unsigned? (n : Nat) : Option UInt32 :=
  if n < UInt32.size then some (UInt32.ofNat n) else none

/-- The signed word of value `z`, if there is one. -/
def signed? (z : Int) : Option Int32 :=
  if -0x80000000 ≤ z ∧ z < 0x80000000 then some (Int32.ofInt z) else none

/-- The sum of two unsigned words. -/
def add? (a b : UInt32) : Option UInt32 := unsigned? (a.toNat + b.toNat)

/-- The difference of two unsigned words. -/
def sub? (a b : UInt32) : Option UInt32 := if b ≤ a then some (a - b) else none

/-- The product of two unsigned words. -/
def mul? (a b : UInt32) : Option UInt32 := unsigned? (a.toNat * b.toNat)

/-- The sum of two signed words. -/
def addSigned? (a b : Int32) : Option Int32 := signed? (a.toInt + b.toInt)

/-- The difference of two signed words. -/
def subSigned? (a b : Int32) : Option Int32 := signed? (a.toInt - b.toInt)

/-- The product of two signed words. -/
def mulSigned? (a b : Int32) : Option Int32 := signed? (a.toInt * b.toInt)

/-- The difference of two unsigned words, zero where it would be negative. -/
def monus (a b : UInt32) : UInt32 := if b ≤ a then a - b else 0

/-- `w` is a power of two. -/
def isPowerOfTwo (w : UInt32) : Bool := w != 0 && w &&& (w - 1) == 0

/-- The least significant byte first. -/
def bytes (w : UInt32) : List UInt8 :=
  [w.toUInt8, (w >>> 8).toUInt8, (w >>> 16).toUInt8, (w >>> 24).toUInt8]

/-- The word of four bytes, the least significant first. -/
def ofBytes (a b c d : UInt8) : UInt32 :=
  a.toUInt32 ||| (b.toUInt32 <<< 8) ||| (c.toUInt32 <<< 16) ||| (d.toUInt32 <<< 24)

/-- The two bytes of a word of 16 bits, the least significant first. -/
def shortBytes (w : UInt16) : List UInt8 := [w.toUInt8, (w >>> 8).toUInt8]

/-- The digit of a value below sixteen, in lower case. -/
def hexDigit (n : Nat) : Char := Char.ofNat (if n < 10 then 48 + n else 87 + n)

/-- The word as eight hexadecimal digits in lower case. -/
def hex (w : UInt32) : String :=
  String.ofList ((List.range 8).map fun i ↦ hexDigit ((w.toNat >>> (4 * (7 - i))) % 16))

/-- Two hexadecimal digits in lower case for each byte. -/
def hexBytes (data : List UInt8) : String :=
  String.ofList (data.flatMap fun b ↦ [hexDigit (b.toNat / 16), hexDigit (b.toNat % 16)])

end RenderTargets.Word
