import RenderTargets.Error
/-!
# What a stage takes from outside

The code of a stage is read by **reflection**, which lists the variables of each entry point of a
module. Here it is any function that gives such lists (`Reflection`): which variables a module has,
and when code cannot be read, is up to it.

A stage names the entry point it starts with; the first one stands in for a name that there is not.
The variables of the entry point say what has to be bound for it to run: blocks of **uniforms**,
which are push constants, and **sampled images** in the first descriptor set.

## Sizes

A block without a size takes no bytes, and of the size only what fits a word counts.
-/

namespace RenderTargets.Spirv

/-! ### Reflection -/

/-- What is bound to a descriptor. -/
inductive DescriptorType where
  /-- An image together with its sampler. -/
  | combinedImageSampler
  /-- An image that is sampled, without its sampler. -/
  | sampledImage
  /-- Something else. -/
  | other
  deriving DecidableEq, Inhabited, Repr

/-- The descriptor is an image that is sampled. -/
def DescriptorType.isSampled : DescriptorType → Bool
  | combinedImageSampler | sampledImage => true
  | other => false

/-- A variable of an entry point. -/
inductive Resource where
  /-- A block of push constants, with its bytes if it has a size. -/
  | pushConstant (bytes : Option Nat)
  /-- What is bound at a binding of a descriptor set. -/
  | descriptor (set binding : UInt32) (type : DescriptorType)
  /-- Something else. -/
  | other
  deriving DecidableEq, Inhabited, Repr

/-- A function that a stage can start with. -/
structure EntryPoint where
  /-- Its name. -/
  name : String
  /-- The variables that it has. -/
  resources : List Resource
  deriving DecidableEq, Inhabited, Repr

/-- What reads code. It gives the entry points of a module, or cannot read it, or traps. -/
abbrev Reflection := List UInt32 → Checked Unit (List EntryPoint)

/-! ### Interfaces -/

/-- What a stage takes from outside. -/
structure Interface where
  /-- Bytes of the uniform block; zero if there is none. -/
  uniformSize : UInt32
  /-- Bindings of the sampled images in the first set, each once and in order. -/
  sampledBindings : List UInt32
  deriving DecidableEq, Inhabited, Repr

namespace Interface

/-- Bytes of the uniform block that a variable is. -/
def blockSize : Resource → UInt32
  | .pushConstant bytes => UInt32.ofNat (bytes.getD 0)
  | _ => 0

/-- The binding of a variable, if it is a sampled image of the first set. -/
def bindingOf? : Resource → Option UInt32
  | .descriptor set binding type => if type.isSampled && set == 0 then some binding else none
  | _ => none

/-- An ascending list with one more binding. -/
def insertSorted (b : UInt32) : List UInt32 → List UInt32
  | [] => [b]
  | c :: rest => if b ≤ c then b :: c :: rest else c :: insertSorted b rest

/-- What the variables of an entry point take. -/
def ofEntryPoint (e : EntryPoint) : Interface :=
  { uniformSize := (e.resources.map blockSize).foldl max 0
    sampledBindings := ((e.resources.filterMap bindingOf?).foldr insertSorted []).eraseReps }

/-- The entry point of a name, or else the first one. -/
def entryPoint? (points : List EntryPoint) (start : String) : Option EntryPoint :=
  (points.find? (·.name == start)).or points.head?

/-- What a stage takes that starts at an entry point of a module. -/
def read (reflect : Reflection) (words : List UInt32) (start : String) :
    Checked BackendCause Interface := do
  let points ← (reflect words).mapError fun _ ↦ BackendCause.unreadableCode
  let some e := entryPoint? points start | throw (.error .noEntryPoint)
  return ofEntryPoint e

end Interface

end RenderTargets.Spirv
