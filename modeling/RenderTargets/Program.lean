import RenderTargets.App.Application
/-!
# The shaders of the program

The program reads the compiled code of its two shaders from a directory, one file for each stage.
Files are read in a fixed order, and the first one that cannot be read is the error.
-/

namespace RenderTargets

/-- What a name in a directory stands for. -/
inductive DirectoryItem where
  /-- A file and its bytes. -/
  | file (bytes : List UInt8)
  /-- A directory. -/
  | directory
  deriving DecidableEq, Repr

/-- A directory by the names in it. -/
structure Directory where
  /-- Its path. -/
  path : String
  /-- The names and what they stand for. -/
  items : List (String × DirectoryItem)
  deriving DecidableEq, Repr

namespace Directory

/-- The bytes of a file. -/
def read (d : Directory) (name : String) : Except EngineError (List UInt8) :=
  let fail (problem : String) : Except EngineError (List UInt8) :=
    .error (.initialization (.shaderFile s!"{d.path}/{name}" problem))
  match d.items.lookup name with
  | some (.file bytes) => .ok bytes
  | some .directory => fail "Is a directory (os error 21)"
  | none => fail "No such file or directory (os error 2)"

/-- The shader of a name. -/
def readShader (d : Directory) (name : String) : Except EngineError ShaderDesc := do
  let vertex ← d.read s!"{name}.vert.spv"
  let fragment ← d.read s!"{name}.frag.spv"
  return .ofCode name vertex fragment

/-- The shaders of the scene. -/
def readShaders (d : Directory) : Except EngineError App.Shaders := do
  let offscreen ← d.readShader "offscreen"
  let quad ← d.readShader "quad"
  return ⟨offscreen, quad⟩

end Directory

/-- The directory to read shaders from: the chosen one, or the one beside the program if none is
chosen or its name is empty. -/
def shaderDirectory (home : String) (chosen : Option String) : String :=
  match chosen with
  | some d => if d.isEmpty then home ++ "/shaders" else d
  | none => home ++ "/shaders"

end RenderTargets
