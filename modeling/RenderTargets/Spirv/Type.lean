import RenderTargets.Spirv.Constant
import RenderTargets.Spirv.Interface
/-!
# Types

What a type is matters in three respects: how many bytes a value takes, which descriptor it is bound
to, and what a pointer points to.

## Sizes

Not every type has a size. A matrix has one where the distance between its columns is known, which
is said where it is used; an array has one if the distance between its elements is known. The size
of a structure is the offset of its last member plus the size of that member. A pointer is an
address, whatever it points into.
-/

namespace RenderTargets.Spirv

/-- Storage class of variables that the outside binds and the code only reads. -/
def boundStorage : UInt32 := 0
/-- Storage class of blocks that the outside binds. -/
def blockStorage : UInt32 := 2
/-- Storage class of push constants. -/
def pushStorage : UInt32 := 9
/-- Storage class of blocks that the code writes too. -/
def writtenBlockStorage : UInt32 := 12
/-- Storage class of memory that is reached by its address. -/
def addressedStorage : UInt32 := 5349

/-- What an image is used for. -/
inductive ImageUse where
  /-- Its pixels are sampled. -/
  | sampled
  /-- Its pixels are written. -/
  | written
  /-- It is a buffer of pixels. -/
  | buffer
  /-- It is an input of a part of a pass. -/
  | passInput
  deriving DecidableEq, Inhabited, Repr

/-- Number of the dimension of a buffer. -/
def bufferDimension : UInt32 := 5

/-- Number of the dimension of an input of a part of a pass. -/
def passInputDimension : UInt32 := 6

/-- The use of an image of a dimension. The second number is 2 if it is used without a sampler, and
0 or 1 otherwise. -/
def ImageUse.of? (dimension sampled : UInt32) : Option ImageUse :=
  if dimension = passInputDimension then some passInput
  else if sampled > 2 then none
  else if dimension = bufferDimension then some buffer
  else if sampled = 2 then some written
  else some .sampled

/-- A type. -/
inductive Ty where
  /-- No value. -/
  | void
  /-- One value. -/
  | scalar (s : Scalar)
  /-- Some values of a type. -/
  | vector (component : Scalar) (count : Nat)
  /-- Some vectors. -/
  | matrix (columns : Nat)
  /-- An image. -/
  | image (use : ImageUse)
  /-- An image together with a sampler. -/
  | sampledImage (use : ImageUse)
  /-- Something that only the GPU can look into. -/
  | handle
  /-- Values of one type. -/
  | array (size : Option Nat) (element : Ty)
  /-- Members one after another. -/
  | struct (size : Option Nat)
  /-- The address of something that is declared later. -/
  | address
  /-- Points into a storage class. -/
  | pointer (storage : UInt32) (target : Ty)
  deriving DecidableEq, Inhabited, Repr

namespace Ty

/-- Bytes of an address. -/
def addressSize : Nat := 8

/-- Bytes of a value, where matrices have the given distance between columns. -/
def size (matrixStride : Option Nat) : Ty → Option Nat
  | scalar s => s.size
  | vector s n => s.size.map (· * n)
  | matrix columns => matrixStride.map (· * columns)
  | array n _ => n
  | struct n => n
  | address => some addressSize
  | pointer _ _ => some addressSize
  | _ => none

/-- The type that is bound under one number: an array is bound as one. -/
def bound : Ty → Ty
  | array _ element => element
  | t => t

/-- What is bound to a descriptor of the type. -/
def descriptorType : Ty → DescriptorType
  | image .sampled => .sampledImage
  | sampledImage use => if use = .buffer then .other else .combinedImageSampler
  | _ => .other

end Ty

end RenderTargets.Spirv
