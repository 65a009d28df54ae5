import RenderTargets.Number.Word
import RenderTargets.Step
/-!
# Instructions of SPIR-V

After a header of five words a module is a stream of instructions. The first word of an instruction
holds its length in words, itself included, and its operation; the operands follow.

## Numbers

Operations, and the choices among which an operand picks one, are numbers with gaps: the low ones
belong to the language and those from four thousand on to its extensions. A numbering lists the
numbers in use as ranges.

## How a stream ends

A length of zero has no meaning and spoils what comes after it. An instruction that is longer than
the rest ends the stream and is dropped, whatever its operation.

## Operands

Operands are read one after another from the front, and what is left over does not matter. A text
takes as many words as its bytes and the zero that ends them.
-/

namespace RenderTargets.Spirv

/-! ### Numberings -/

/-- Numbers in use. -/
structure Numbering where
  /-- Ranges, both ends in use. -/
  ranges : List (Nat × Nat)
  deriving DecidableEq, Inhabited, Repr

namespace Numbering

/-- The number is in use. -/
def has (t : Numbering) (n : Nat) : Bool := t.ranges.any fun r ↦ r.1 ≤ n && n ≤ r.2

/-- What an instruction can do. -/
def operations : Numbering :=
  ⟨[(0, 8), (10, 12), (14, 17), (19, 39), (41, 46), (48, 52), (54, 57), (59, 75), (77, 84),
    (86, 107), (109, 124), (126, 152), (154, 191), (194, 205), (207, 215), (218, 221), (224, 225),
    (227, 242), (245, 257), (259, 271), (274, 288), (291, 366), (400, 403), (4160, 4162),
    (4416, 4416), (4421, 4422), (4428, 4432), (4445, 4460), (4472, 4477), (4479, 4483),
    (5000, 5007), (5011, 5012), (5056, 5056), (5075, 5075), (5078, 5078), (5090, 5090),
    (5249, 5281), (5283, 5283), (5294, 5296), (5299, 5301), (5334, 5341), (5344, 5344),
    (5358, 5362), (5364, 5365), (5380, 5381), (5391, 5397), (5571, 5578), (5580, 5581),
    (5585, 5598), (5600, 5601), (5609, 5611), (5614, 5615), (5630, 5633), (5699, 5816),
    (5818, 5820), (5840, 5843), (5846, 5882), (5887, 5887), (5911, 5913), (5923, 5934),
    (5938, 5938), (5946, 5947), (5949, 5949), (6016, 6032), (6035, 6035), (6086, 6086),
    (6090, 6092), (6116, 6117), (6142, 6143), (6401, 6408)]⟩

/-- How addresses are formed in code that draws: not at all, or in buffers only. -/
def drawingAddresses : Numbering := ⟨[(0, 0), (5348, 5348)]⟩

/-- What memory looks like to instructions. -/
def memoryModels : Numbering := ⟨[(0, 3)]⟩

/-- Stages of a pipeline. -/
def stages : Numbering := ⟨[(0, 6), (5267, 5268), (5313, 5318), (5364, 5365)]⟩

/-- Modes that a stage can run in. -/
def modes : Numbering :=
  ⟨[(0, 12), (14, 31), (33, 39), (4169, 4171), (4421, 4421), (4446, 4446), (4459, 4463),
    (5017, 5017), (5027, 5027), (5069, 5069), (5071, 5073), (5077, 5077), (5079, 5084),
    (5269, 5270), (5289, 5290), (5298, 5298), (5366, 5371), (5618, 5618), (5620, 5623),
    (5893, 5896), (5903, 5903), (6154, 6154), (6160, 6160), (6417, 6417)]⟩

/-- Where variables live. -/
def storageClasses : Numbering :=
  ⟨[(0, 12), (4172, 4172), (5068, 5068), (5076, 5076), (5328, 5329), (5338, 5339), (5342, 5343),
    (5349, 5349), (5385, 5385), (5402, 5402), (5605, 5605), (5936, 5937)]⟩

/-- Dimensions of images. -/
def dimensions : Numbering := ⟨[(0, 6), (4173, 4173)]⟩

/-- Formats of images. -/
def imageFormats : Numbering := ⟨[(0, 41)]⟩

/-- What can be said about an object. -/
def decorations : Numbering :=
  ⟨[(0, 11), (13, 47), (4469, 4470), (4487, 4488), (4999, 4999), (5019, 5020), (5078, 5078),
    (5091, 5091), (5248, 5248), (5250, 5250), (5252, 5252), (5256, 5256), (5271, 5273),
    (5285, 5285), (5300, 5300), (5355, 5356), (5386, 5386), (5398, 5401), (5599, 5599),
    (5602, 5602), (5607, 5608), (5624, 5628), (5634, 5636), (5822, 5823), (5825, 5836),
    (5883, 5885), (5899, 5902), (5905, 5905), (5907, 5907), (5909, 5909), (5914, 5915),
    (5917, 5919), (5921, 5921), (5944, 5944), (6080, 6080), (6085, 6085), (6087, 6087),
    (6140, 6140), (6151, 6151), (6170, 6170), (6172, 6173), (6175, 6183), (6188, 6188),
    (6190, 6191), (6442, 6443)]⟩

end Numbering

/-! ### Instructions -/

/-- Why a module cannot be read. -/
inductive Defect where
  /-- An instruction has no length. -/
  | noLength
  /-- An instruction stands where its operation has no place. -/
  | misplaced (operation : Nat)
  /-- An instruction has too few operands. -/
  | missingOperand
  /-- A text has no end or is not encoded as it should be. -/
  | badText
  /-- An operand picks none of the choices there are. -/
  | noSuchChoice (number : UInt32)
  /-- A number is declared a second time. -/
  | declaredTwice (id : UInt32)
  /-- A number stands for nothing of the kind that is needed. -/
  | unsuitable (id : UInt32)
  /-- A mode belongs to a function that no stage starts with. -/
  | modeWithoutStage (function : UInt32)
  /-- A constant can be given another value, but under no number. -/
  | unnumberedSpecialization (id : UInt32)
  /-- A member can be neither read nor written. -/
  | inaccessibleMember (id : UInt32) (member : Nat)
  /-- The module needs something that no stage of a pipeline for drawing has. -/
  | unsupported
  deriving DecidableEq, Repr

/-- An instruction. -/
structure Instruction where
  /-- What it does. -/
  operation : Nat
  /-- Its operands. -/
  operands : List UInt32
  deriving DecidableEq, Inhabited, Repr

/-- The instructions of a module. -/
structure Stream where
  /-- Those before the end. -/
  instructions : List Instruction
  /-- The end is an instruction without length. -/
  spoiled : Bool
  deriving DecidableEq, Inhabited, Repr

namespace Stream

/-- Number of words before the first instruction. -/
def headerLength : Nat := 5

/-- The stream with one more instruction in front. -/
def cons (i : Instruction) (s : Stream) : Stream := ⟨i :: s.instructions, s.spoiled⟩

/-- The stream of at most `fuel` words. -/
def ofWordsWithin : (fuel : Nat) → List UInt32 → Stream
  | 0, _ => ⟨[], false⟩
  | _, [] => ⟨[], false⟩
  | fuel + 1, w :: rest =>
    let length := (w >>> 16).toNat
    if length = 0 then ⟨[], true⟩
    else if rest.length < length - 1 then ⟨[], false⟩
    else
      cons ⟨(w &&& 0xffff).toNat, rest.take (length - 1)⟩
        (ofWordsWithin fuel (rest.drop (length - 1)))

/-- The stream of some words. -/
def ofWords (words : List UInt32) : Stream := ofWordsWithin words.length words

end Stream

/-- A way to read operands from the front. -/
abbrev Operands (α : Type) := StepWith Defect (List UInt32) α

namespace Operands

/-- One word. -/
def word : Operands UInt32
  | w :: rest => .ok w rest
  | [] => .error (.error .missingOperand) []

/-- All words that are left. -/
def rest : Operands (List UInt32) := fun l ↦ .ok l []

/-- A word that picks one of the numbers in use. -/
def choice (t : Numbering) : Operands UInt32 := do
  let w ← word
  if t.has w.toNat then return w
  StepWith.fail (.noSuchChoice w)

/-- A text: bytes of UTF-8 up to a zero. -/
def text : Operands String := fun l ↦
  let bytes := l.flatMap Word.bytes
  let used := bytes.takeWhile (· != 0)
  match if used.length < bytes.length then String.fromUTF8? ⟨used.toArray⟩ else none with
  | some s => .ok s (l.drop (used.length / 4 + 1))
  | none => .error (.error .badText) l

end Operands

/-- What the operands of an instruction say. -/
def Instruction.read {α : Type} (i : Instruction) (x : Operands α) : Checked Defect α :=
  match x i.operands with
  | .ok a _ => .ok a
  | .error e _ => .error e

end RenderTargets.Spirv
