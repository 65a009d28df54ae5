import RenderTargets.Number.Shortest
import RenderTargets.Number.Vector
import RenderTargets.Resource
/-!
# Passes

A pass renders into several textures at once, its **attachments**, and into the depth buffer of one
texture. Beginning a pass clears them, to the colors of the pass or to those of a `PassAction`.
-/

namespace RenderTargets

/-- What becomes of the attachments when a pass ends. -/
inductive StoreAction where
  /-- They may be lost. -/
  | dontCare
  /-- They are kept. -/
  | store
  /-- Their samples are averaged into images that can be sampled. -/
  | resolve
  deriving DecidableEq, Inhabited, Repr

namespace StoreAction

/-- Every action. -/
def all : List StoreAction := [dontCare, store, resolve]

/-- The name in messages. -/
def name : StoreAction → String
  | dontCare => "DontCare"
  | store => "Store"
  | resolve => "Resolve"

end StoreAction

/-- A texture to render into, with the color it is cleared to. -/
structure ColorAttachment where
  /-- The texture. -/
  texture : TextureId
  /-- The color. -/
  clearColor : Vec4
  deriving DecidableEq, Inhabited, Repr

/-- Description of a pass. -/
structure PassDesc where
  /-- Name for messages. -/
  name : String
  /-- The attachments in the order of the outputs of a shader. -/
  colors : List ColorAttachment
  /-- The texture whose depth buffer is used. -/
  depth : Option TextureId
  /-- What the depth buffer is cleared to. -/
  clearDepth : Single
  /-- What the stencil bits are cleared to. -/
  clearStencil : UInt8
  /-- What becomes of the attachments. -/
  store : StoreAction
  deriving DecidableEq, Inhabited, Repr

/-- What can be wrong with the description of a pass. -/
inductive PassDefect where
  /-- There is no attachment. -/
  | noColor
  /-- There are more attachments than the device binds. -/
  | tooManyColors (colors : Nat) (limit : UInt32)
  /-- Two attachments have the same texture. -/
  | sharedTexture (first second : Nat)
  /-- The depth to clear to is not between zero and one. -/
  | clearDepth (depth : Single)
  /-- An attachment is not alive. -/
  | unknownTexture
  /-- The attachments differ in size or samples. -/
  | unequalAttachments
  /-- The texture for depth has no depth buffer. -/
  | noDepthBuffer
  /-- An attachment was released after the pass was made. -/
  | releasedAttachment
  deriving DecidableEq, Repr

/-- The words after the name of the pass. -/
def PassDefect.message : PassDefect → String
  | noColor => "has no color attachment"
  | tooManyColors n limit => s!"binds {n} color attachments, device maximum is {limit.toNat}"
  | sharedTexture j i => s!"binds the same texture to attachments {j} and {i}"
  | clearDepth d => s!"clear depth {d.toText} is outside 0..1"
  | unknownTexture => "references an unknown texture"
  | unequalAttachments => "attachments differ in size or sample count"
  | noDepthBuffer => "depth source has no depth buffer"
  | releasedAttachment => "has a released attachment"

/-- What to clear to, where it is not what the pass says. -/
structure PassAction where
  /-- Color of every attachment. -/
  color : Option Vec4 := none
  /-- Depth. -/
  depth : Option Single := none
  /-- Stencil bits. -/
  stencil : Option UInt8 := none
  deriving DecidableEq, Inhabited, Repr

namespace PassAction

/-- Clears every attachment to a color. -/
def clear (color : Vec4) : PassAction := { color := some color }

end PassAction

namespace PassDesc

/-- A pass into the given textures, cleared to black. -/
def ofTargets (colors : List TextureId) (depth : Option TextureId) : PassDesc :=
  { name := "", colors := colors.map (⟨·, .black⟩), depth, clearDepth := .one, clearStencil := 0
    store := .store }

/-- The attachments. -/
def textures (p : PassDesc) : List TextureId := p.colors.map (·.texture)

/-- The first texture that occurs in `seen` or before itself, as its position there and its own
position, which is that of the head of the list plus the length of `seen`. -/
def findShared : List TextureId → List TextureId → Option (Nat × Nat)
  | _, [] => none
  | seen, t :: rest =>
    match seen.findIdx? (· == t) with
    | some j => some (j, seen.length)
    | none => findShared (seen ++ [t]) rest

/-- The depth to clear to lies between zero and one. -/
def hasClearDepth (p : PassDesc) : Bool := Single.zero.le p.clearDepth && p.clearDepth.le .one

/-- The checks that need no texture. -/
def validate (p : PassDesc) (limit : UInt32) : Except PassDefect Unit := do
  if p.colors.isEmpty then throw .noColor
  if p.colors.length > limit.toNat then throw (.tooManyColors p.colors.length limit)
  match findShared [] p.textures with
  | some (j, i) => throw (.sharedTexture j i)
  | none => pure ()
  if !p.hasClearDepth then throw (.clearDepth p.clearDepth)

/-- The color of each attachment when the pass begins with an action. -/
def clearColors (p : PassDesc) (a : PassAction) : List Vec4 :=
  p.colors.map fun c ↦ a.color.getD c.clearColor

end PassDesc

end RenderTargets
