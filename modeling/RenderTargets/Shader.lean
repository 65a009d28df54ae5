import RenderTargets.Number.Word
/-!
# Shaders

A shader is a program of two stages, each given as SPIR-V: a list of words of 32 bits, stored with
the least significant byte first, that starts with a fixed magic word.
-/

namespace RenderTargets

/-- A stage of a shader. -/
inductive ShaderStage where
  /-- Runs for each vertex. -/
  | vertex
  /-- Runs for each pixel. -/
  | fragment
  deriving DecidableEq, Inhabited, Repr

namespace ShaderStage

/-- Every stage. -/
def all : List ShaderStage := [vertex, fragment]

/-- The name in messages. -/
def name : ShaderStage → String
  | vertex => "Vertex"
  | fragment => "Fragment"

end ShaderStage

/-- First word of every module. -/
def spirvMagic : UInt32 := 0x07230203

/-- The compiled code of a stage. -/
structure ModuleDesc where
  /-- Bytes of the module. -/
  code : List UInt8
  /-- Name of the function to start with. -/
  entryPoint : String
  deriving DecidableEq, Inhabited, Repr

/-- What can be wrong with the bytes of a module. -/
inductive CodeDefect where
  /-- There are no words or a part of one. -/
  | size (bytes : Nat)
  /-- The first word is another. -/
  | magic (word : UInt32)
  deriving DecidableEq, Repr

/-- The defect in words. -/
def CodeDefect.message : CodeDefect → String
  | size n => s!"SPIR-V size {n} is not a non-zero multiple of 4"
  | magic w => "bad SPIR-V magic 0x" ++ Word.hex w

/-- The words of a list of bytes, four to each; a rest of up to three bytes is dropped. -/
def wordsOfBytes : List UInt8 → List UInt32
  | a :: b :: c :: d :: rest => Word.ofBytes a b c d :: wordsOfBytes rest
  | _ => []

namespace ModuleDesc

/-- The words of the module. -/
def words (m : ModuleDesc) : Except CodeDefect (List UInt32) :=
  if m.code.length = 0 ∨ m.code.length % 4 ≠ 0 then .error (.size m.code.length)
  else
    match wordsOfBytes m.code with
    | [] => .error (.size m.code.length)
    | w :: rest => if w = spirvMagic then .ok (w :: rest) else .error (.magic w)

end ModuleDesc

/-- Description of a shader. -/
structure ShaderDesc where
  /-- Name for messages. -/
  name : String
  /-- Vertex stage. -/
  vertex : ModuleDesc
  /-- Fragment stage. -/
  fragment : ModuleDesc
  deriving DecidableEq, Inhabited, Repr

/-- A stage that cannot be read. -/
structure ShaderDefect where
  /-- The stage. -/
  stage : ShaderStage
  /-- What is wrong with it. -/
  code : CodeDefect
  deriving DecidableEq, Repr

namespace ShaderDesc

/-- The module of a stage. -/
def module (s : ShaderDesc) : ShaderStage → ModuleDesc
  | .vertex => s.vertex
  | .fragment => s.fragment

/-- The stage can be read. -/
def checkStage (s : ShaderDesc) (stage : ShaderStage) : Except ShaderDefect Unit :=
  match (s.module stage).words with
  | .ok _ => .ok ()
  | .error d => .error ⟨stage, d⟩

/-- Both stages can be read; the vertex stage is looked at first. -/
def validate (s : ShaderDesc) : Except ShaderDefect Unit := do
  s.checkStage .vertex
  s.checkStage .fragment

/-- A shader of two modules that start at `main`. -/
def ofCode (name : String) (vertex fragment : List UInt8) : ShaderDesc :=
  ⟨name, ⟨vertex, "main"⟩, ⟨fragment, "main"⟩⟩

end ShaderDesc

end RenderTargets
