import RenderTargets.Spirv.Operation
import RenderTargets.Spirv.Type
/-!
# What a module declares

A module is read from front to back. Each instruction adds to what is known, or is a defect.

## Order

An instruction refers to what came before it; only decorations, names and modes come before what
they are about. An operation that no one knows traps as soon as it is met, in functions too.

## What is not known is left out

A pointer, an array or a structure of types that were not declared is not declared either, and
neither is a variable without a known type. All other references to nothing are defects.

## Once

No number is declared twice as the same kind of thing, and the same is not said twice about an
object. An address that was declared before its target becomes a pointer later.

## Reflection

A module that is read to its end gives a reflection (`Declarations.reflect`). All variables of a
module count for each of its entry points, and of those in memory for push constants only structures
are blocks.
-/

namespace RenderTargets.Spirv

/-- Something said about an object or one of its members. -/
structure Decoration where
  /-- The object. -/
  target : UInt32
  /-- The member, if it is about one. -/
  member : Option Nat
  /-- What is said. -/
  key : UInt32
  /-- Details. -/
  values : List UInt32
  deriving DecidableEq, Inhabited, Repr

namespace Decoration

/-- Number under which a constant can be given another value. -/
def specialization : UInt32 := 1
/-- Distance between elements of an array. -/
def arrayStride : UInt32 := 6
/-- Distance between columns of a matrix. -/
def matrixStride : UInt32 := 7
/-- It is not written. -/
def notWritten : UInt32 := 24
/-- It is not read. -/
def notRead : UInt32 := 25
/-- Number of a binding. -/
def binding : UInt32 := 33
/-- Number of a descriptor set. -/
def descriptorSet : UInt32 := 34
/-- Bytes before a member. -/
def offset : UInt32 := 35

end Decoration

/-- A variable. -/
structure Variable where
  /-- Its number. -/
  id : UInt32
  /-- Where it lives. -/
  storage : UInt32
  /-- Its type. -/
  type : Ty
  deriving DecidableEq, Inhabited, Repr

/-- What is known of a module after some of its instructions. -/
structure Declarations where
  /-- Where the reader is. -/
  place : Place := .sectionsFrom 0
  /-- Functions that stages start with, with their names, in order. -/
  entryPoints : List (UInt32 × String) := []
  /-- Constants that modes depend on. -/
  modeConstants : List UInt32 := []
  /-- Everything said about objects. -/
  decorations : List Decoration := []
  /-- Types by number. -/
  types : List (UInt32 × Ty) := []
  /-- Constants by number. -/
  constants : List (UInt32 × Constant) := []
  /-- Variables in order. -/
  globals : List Variable := []
  /-- Functions. -/
  functions : List UInt32 := []
  deriving Inhabited, Repr

namespace Declarations

/-! ### Looking up -/

/-- What is said about an object or a member under a key. -/
def decoration? (d : Declarations) (target : UInt32) (member : Option Nat) (key : UInt32) :
    Option Decoration :=
  d.decorations.find? fun x ↦ x.target == target && x.member == member && x.key == key

/-- The number said about an object or a member under a key. -/
def number? (d : Declarations) (target : UInt32) (member : Option Nat) (key : UInt32) :
    Option UInt32 :=
  (d.decoration? target member key).bind (·.values.head?)

/-- The type of a number that has to be the type of one value. -/
def scalar (d : Declarations) (id : UInt32) : Checked Defect Scalar :=
  match d.types.lookup id with
  | some (.scalar s) => return s
  | _ => throw (.error (.unsuitable id))

/-- The constant of a number. -/
def constant (d : Declarations) (id : UInt32) : Checked Defect Constant :=
  match d.constants.lookup id with
  | some c => return c
  | none => throw (.error (.unsuitable id))

/-! ### Adding -/

/-- A number is not yet in use. -/
def checkNew (used : Bool) (id : UInt32) : Checked Defect Unit :=
  if used then throw (.error (.declaredTwice id)) else return

/-- The declarations with one more decoration. -/
def addDecoration (d : Declarations) (x : Decoration) : Checked Defect Declarations := do
  checkNew (d.decoration? x.target x.member x.key).isSome x.target
  return { d with decorations := x :: d.decorations }

/-- The declarations with one more type. -/
def addType (d : Declarations) (id : UInt32) (t : Ty) : Checked Defect Declarations := do
  checkNew (d.types.lookup id).isSome id
  return { d with types := (id, t) :: d.types }

/-- The declarations with one more pointer, which may have been declared as an address. -/
def addPointer (d : Declarations) (id : UInt32) (t : Ty) : Checked Defect Declarations :=
  if d.types.lookup id = some .address then return { d with types := (id, t) :: d.types }
  else d.addType id t

/-- The declarations with one more constant. -/
def addConstant (d : Declarations) (id : UInt32) (c : Constant) :
    Checked Defect Declarations := do
  checkNew (d.constants.lookup id).isSome id
  return { d with constants := (id, c) :: d.constants }

/-- The declarations with one more variable. -/
def addVariable (d : Declarations) (v : Variable) : Checked Defect Declarations := do
  checkNew (d.globals.any (·.id == v.id)) v.id
  return { d with globals := d.globals ++ [v] }

/-- The declarations with one more entry point. -/
def addEntryPoint (d : Declarations) (function : UInt32) (name : String) :
    Checked Defect Declarations := do
  checkNew (d.entryPoints.lookup function).isSome function
  return { d with entryPoints := d.entryPoints ++ [(function, name)] }

/-- The declarations with one more function. -/
def addFunction (d : Declarations) (id : UInt32) : Checked Defect Declarations := do
  checkNew (d.functions.contains id) id
  return { d with functions := id :: d.functions }

/-- The declarations after a mode of a stage that depends on some constants. -/
def addMode (d : Declarations) (function : UInt32) (constants : List UInt32) :
    Checked Defect Declarations :=
  if (d.entryPoints.lookup function).isSome then
    return { d with modeConstants := d.modeConstants ++ constants }
  else throw (.error (.modeWithoutStage function))

/-! ### Types -/

/-- The types of the members of a structure from a position on, or nothing if one of them is not
known. -/
def memberTypes (d : Declarations) (id : UInt32) : (position : Nat) → List UInt32 →
    Checked Defect (Option (List Ty))
  | _, [] => return some []
  | position, m :: rest => do
    let some t := d.types.lookup m | return none
    let isSaid key := (d.decoration? id (some position) key).isSome
    if isSaid Decoration.notWritten && isSaid Decoration.notRead then
      throw (.error (.inaccessibleMember id position))
    return (← d.memberTypes id (position + 1) rest).map (t :: ·)

/-- The size of a structure with the given members. -/
def structSize (d : Declarations) (id : UInt32) (members : List Ty) : Option Nat := do
  let last ← members.getLast?
  let position := members.length - 1
  let offset ← d.number? id (some position) Decoration.offset
  let stride := (d.number? id (some position) Decoration.matrixStride).map (·.toNat)
  return offset.toNat + (← last.size stride)

/-- The size of an array of some elements. -/
def arraySize (d : Declarations) (id : UInt32) (count : Nat) : Option Nat :=
  (d.number? id none Decoration.arrayStride).map (·.toNat * count)

/-- The type of an image. Its operands after the number are the type of a pixel, the dimension,
whether it holds depths (0, 1, or 2 if that is open), whether it has layers, whether it has samples,
how it is used and its format. -/
def imageType (d : Declarations) : Operands Ty := do
  let pixel ← Operands.word
  let dimension ← Operands.choice .dimensions
  let depth ← Operands.word
  let _ ← Operands.word
  let _ ← Operands.word
  let sampled ← Operands.word
  let _ ← Operands.choice .imageFormats
  if d.types.lookup pixel ≠ some .void then
    let _ ← d.scalar pixel
  if depth > 2 then StepWith.fail .unsupported
  let some use := ImageUse.of? dimension sampled | StepWith.fail .unsupported
  return .image use

/-- The declarations after a type whose operands follow its number. -/
def readType (d : Declarations) (id : UInt32) : TypeForm → Operands Declarations
  | .void => d.addType id .void
  | .boolean => d.addType id (.scalar .boolean)
  | .integer => do
    let bits ← Operands.word
    let signed ← Operands.word
    d.addType id (.scalar (.integer bits.toNat (signed != 0)))
  | .float => do
    let bits ← Operands.word
    d.addType id (.scalar (.float bits.toNat))
  | .vector => do
    let component ← d.scalar (← Operands.word)
    let count ← Operands.word
    d.addType id (.vector component count.toNat)
  | .matrix => do
    let column ← Operands.word
    let count ← Operands.word
    let some (.vector _ _) := d.types.lookup column | StepWith.fail (.unsuitable column)
    d.addType id (.matrix count.toNat)
  | .image => do d.addType id (← d.imageType)
  | .sampledImage => do
    let image ← Operands.word
    let some (.image use) := d.types.lookup image | StepWith.fail (.unsuitable image)
    if use = .passInput then StepWith.fail (.unsuitable image)
    d.addType id (.sampledImage use)
  | .handle => d.addType id .handle
  | .array => do
    let element ← Operands.word
    let count ← Operands.word
    let some t := d.types.lookup element | return d
    let some n := (← d.constant count).count? | StepWith.fail (.unsuitable count)
    d.addType id (.array (d.arraySize id n) t)
  | .openArray => do
    let element ← Operands.word
    let some t := d.types.lookup element | return d
    d.addType id (.array (d.arraySize id 0) t)
  | .struct => do
    let members ← Operands.rest
    let some types ← d.memberTypes id 0 members | return d
    d.addType id (.struct (d.structSize id types))
  | .pointer => do
    let storage ← Operands.choice .storageClasses
    let target ← Operands.word
    let some t := d.types.lookup target | return d
    d.addPointer id (.pointer storage t)
  | .forwardPointer => do
    let storage ← Operands.choice .storageClasses
    if storage = addressedStorage then d.addType id .address else return d
  | .unsupported => StepWith.fail .unsupported

/-! ### Constants -/

/-- The value of a constant of a type. -/
def readConstant (d : Declarations) (s : Scalar) : ConstantForm → Operands Constant
  | .truth b => return .truth b
  | .words => do
    let some c := Constant.ofWords? s (← Operands.rest) | StepWith.fail .unsupported
    return c
  | .computed => do
    let operation ← Operands.word
    let some c := Calculation.ofOperation? operation.toNat | StepWith.fail .unsupported
    let operands ← (← Operands.rest).mapM fun id ↦ (d.constant id : Operands Constant)
    c.run s operands

/-- The declarations after a constant. -/
def readNewConstant (d : Declarations) (form : ConstantForm) (special : Bool) :
    Operands Declarations := do
  let s ← d.scalar (← Operands.word)
  let id ← Operands.word
  if special && (d.number? id none Decoration.specialization).isNone then
    StepWith.fail (.unnumberedSpecialization id)
  let c ← d.readConstant s form
  d.addConstant id c

/-! ### Instructions -/

/-- The declarations after an instruction outside of functions. -/
def readOperation (d : Declarations) : Operation → Operands Declarations
  | .importSet | .name => do
    let _ ← Operands.word
    let _ ← Operands.text
    return d
  | .memberName => do
    let _ ← Operands.word
    let _ ← Operands.word
    let _ ← Operands.text
    return d
  | .memoryModel => do
    let _ ← Operands.choice .drawingAddresses
    let _ ← Operands.choice .memoryModels
    return d
  | .entryPoint => do
    let _ ← Operands.choice .stages
    let function ← Operands.word
    d.addEntryPoint function (← Operands.text)
  | .mode => do
    let function ← Operands.word
    let _ ← Operands.choice .modes
    d.addMode function []
  | .modeByConstants => do
    let function ← Operands.word
    let _ ← Operands.choice .modes
    d.addMode function (← Operands.rest)
  | .decorate => do
    let target ← Operands.word
    let key ← Operands.choice .decorations
    d.addDecoration ⟨target, none, key, ← Operands.rest⟩
  | .decorateMember => do
    let target ← Operands.word
    let member ← Operands.word
    let key ← Operands.choice .decorations
    d.addDecoration ⟨target, some member.toNat, key, ← Operands.rest⟩
  | .type form => do d.readType (← Operands.word) form
  | .constant form => d.readNewConstant form false
  | .specialization form => d.readNewConstant form true
  | .variable => do
    let pointer ← Operands.word
    let id ← Operands.word
    let _ ← Operands.choice .storageClasses
    let some (.pointer storage t) := d.types.lookup pointer | return d
    d.addVariable ⟨id, storage, t⟩
  | .beginFunction => do
    let _ ← Operands.word
    d.addFunction (← Operands.word)
  | .endFunction | .other => return d

/-- The declarations after one more instruction. -/
def add (d : Declarations) (i : Instruction) : Checked Defect Declarations := do
  if !Numbering.operations.has i.operation then throw .trap
  let place ← d.place.next i
  match d.place with
  | .inFunction => return { d with place }
  | .sectionsFrom _ => i.read ({ d with place }.readOperation i.kind)

/-- Modes depend on constants only. -/
def checkModes (d : Declarations) : Checked Defect Unit :=
  d.modeConstants.forM fun id ↦ do let _ ← d.constant id

/-- What a module of some words declares. A module without a header traps. -/
def ofWords (words : List UInt32) : Checked Defect Declarations := do
  if words.length < Stream.headerLength then throw .trap
  let s := Stream.ofWords (words.drop Stream.headerLength)
  let d ← s.instructions.foldlM add {}
  if s.spoiled then throw (.error .noLength)
  d.checkModes
  return d

/-! ### Reflection -/

/-- Where a variable is bound, as descriptor set and binding. Without a set it is the first one;
without a binding it is the first binding of the first set. -/
def bindingPoint (d : Declarations) (id : UInt32) : UInt32 × UInt32 :=
  match d.number? id none Decoration.binding with
  | some b => ((d.number? id none Decoration.descriptorSet).getD 0, b)
  | none => (0, 0)

/-- What reflection says of a variable. -/
def resource (d : Declarations) (v : Variable) : Resource :=
  if v.storage = pushStorage then
    match v.type with
    | .struct size => .pushConstant size
    | _ => .other
  else if [boundStorage, blockStorage, writtenBlockStorage].contains v.storage then
    let (set, binding) := d.bindingPoint v.id
    .descriptor set binding v.type.bound.descriptorType
  else .other

/-- What reflection says of each entry point. -/
def points (d : Declarations) : List EntryPoint :=
  d.entryPoints.map fun e ↦ ⟨e.2, d.globals.map d.resource⟩

/-- The entry points of a module of some words. -/
def reflect : Reflection := fun words ↦ do
  let d ← (ofWords words).mapError fun _ ↦ ()
  return d.points

end Declarations

/-- What a stage of a module takes, whichever entry point it starts with. -/
def Interface.ofWords (words : List UInt32) : Checked BackendCause Interface :=
  read Declarations.reflect words ""

end RenderTargets.Spirv
