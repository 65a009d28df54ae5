import RenderTargets.Spirv.Instruction
/-!
# Operations and their places

A module is a list of sections in a fixed order, any of which may be missing: capabilities,
extensions, imports, the memory model, entry points, execution modes, names, decorations,
declarations of types with constants and variables, and functions. Each operation has its section;
one that has none may stand in functions only.
-/

namespace RenderTargets.Spirv

/-- How an instruction forms a type. -/
inductive TypeForm where
  /-- No value. -/
  | void
  /-- A truth value. -/
  | boolean
  /-- An integer. -/
  | integer
  /-- A floating point number. -/
  | float
  /-- Some numbers. -/
  | vector
  /-- Some vectors. -/
  | matrix
  /-- An image. -/
  | image
  /-- An image together with a sampler. -/
  | sampledImage
  /-- Something that only the GPU can look into. -/
  | handle
  /-- A fixed number of values of one type. -/
  | array
  /-- Values of one type, as many as there are. -/
  | openArray
  /-- Members one after another. -/
  | struct
  /-- A pointer. -/
  | pointer
  /-- A pointer whose target comes later. -/
  | forwardPointer
  /-- A type that pipelines for drawing do not have. -/
  | unsupported
  deriving DecidableEq, Inhabited, Repr

/-- How an instruction gives a constant its value. -/
inductive ConstantForm where
  /-- It is a truth value. -/
  | truth (value : Bool)
  /-- The words of the value follow. -/
  | words
  /-- It is computed from other constants. -/
  | computed
  deriving DecidableEq, Inhabited, Repr

/-- What an instruction tells about a module. -/
inductive Operation where
  /-- A set of instructions from elsewhere is used. -/
  | importSet
  /-- How memory is used. -/
  | memoryModel
  /-- A stage starts with a function. -/
  | entryPoint
  /-- A stage runs in a mode. -/
  | mode
  /-- A stage runs in a mode that depends on constants. -/
  | modeByConstants
  /-- An object has a name. -/
  | name
  /-- A member of a structure has a name. -/
  | memberName
  /-- Something is said about an object. -/
  | decorate
  /-- Something is said about a member of a structure. -/
  | decorateMember
  /-- There is a type. -/
  | type (form : TypeForm)
  /-- There is a constant. -/
  | constant (form : ConstantForm)
  /-- There is a constant that can be given another value before the module runs. -/
  | specialization (form : ConstantForm)
  /-- There is a variable. -/
  | variable
  /-- A function begins. -/
  | beginFunction
  /-- A function ends. -/
  | endFunction
  /-- Nothing that matters. -/
  | other
  deriving DecidableEq, Inhabited, Repr

namespace Operation

/-- The operations that matter. -/
def table : List (Nat × Operation) :=
  [(5, .name), (6, .memberName), (11, .importSet), (14, .memoryModel), (15, .entryPoint),
   (16, .mode), (19, .type .void), (20, .type .boolean), (21, .type .integer), (22, .type .float),
   (23, .type .vector), (24, .type .matrix), (25, .type .image), (26, .type .handle),
   (27, .type .sampledImage), (28, .type .array), (29, .type .openArray), (30, .type .struct),
   (31, .type .unsupported), (32, .type .pointer), (34, .type .unsupported),
   (35, .type .unsupported), (36, .type .unsupported), (37, .type .unsupported),
   (38, .type .unsupported), (39, .type .forwardPointer), (41, .constant (.truth true)),
   (42, .constant (.truth false)), (43, .constant .words), (48, .specialization (.truth true)),
   (49, .specialization (.truth false)), (50, .specialization .words), (52, .constant .computed),
   (54, .beginFunction), (56, .endFunction), (59, .variable), (71, .decorate),
   (72, .decorateMember), (322, .type .unsupported), (327, .type .unsupported),
   (331, .modeByConstants), (4472, .type .handle), (5341, .type .handle)]

/-- The operation of a number. -/
def ofNumber (n : Nat) : Operation := (table.lookup n).getD .other

/-- Numbers of the operations of each section, in the order of the sections. -/
def sections : List (List Nat) :=
  [[17], [10], [11], [14], [15], [16, 331], [2, 3, 4, 5, 6, 7, 330],
   [71, 72, 73, 74, 75, 332, 5632, 5633],
   [1, 8, 12, 317, 59, 322, 327, 4472, 5341] ++ (List.range 21).map (· + 19) ++
     (List.range 12).map (· + 41),
   [54]]

/-- The section that a number belongs to. -/
def sectionOf? (n : Nat) : Option Nat := sections.findIdx? (·.contains n)

/-- How many operands the instructions of a function have at least: calls, loads, stores and
pointers into a variable. -/
def operandsInFunctions : List (Nat × Nat) := [(57, 3), (61, 3), (62, 1), (65, 3)]

end Operation

/-- What an instruction tells about a module. -/
def Instruction.kind (i : Instruction) : Operation := .ofNumber i.operation

/-- Where in a module the reader is. -/
inductive Place where
  /-- Between functions or before them; the sections before a section are over. -/
  | sectionsFrom (first : Nat)
  /-- In a function. -/
  | inFunction
  deriving DecidableEq, Inhabited, Repr

/-- The place after an instruction that stands at a place. -/
def Place.next (p : Place) (i : Instruction) : Checked Defect Place :=
  match p with
  | inFunction =>
    if i.kind = .endFunction then return .sectionsFrom (Operation.sections.length - 1)
    else if i.operands.length < (Operation.operandsInFunctions.lookup i.operation).getD 0 then
      throw (.error .missingOperand)
    else return .inFunction
  | sectionsFrom first =>
    match Operation.sectionOf? i.operation with
    | some s =>
      if s < first then throw (.error (.misplaced i.operation))
      else if i.kind = .beginFunction then return .inFunction
      else return .sectionsFrom s
    | none => throw (.error (.misplaced i.operation))

end RenderTargets.Spirv
