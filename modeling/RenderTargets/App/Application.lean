import RenderTargets.App.Composite
import RenderTargets.App.Fallback
import RenderTargets.App.Offscreen
/-!
# The application

A state machine of four states. `init` decides once between the scene and the fallback message and
makes what is needed; `running` draws a frame per tick until the window is asked to close; `cleanup`
releases everything; `destroy` is the end.

## Failures

If making the scene fails, everything made so far is released and the application ends. If drawing
or releasing fails, the application stays in its state.
-/

namespace RenderTargets.App

open Log

/-- The states of the application. -/
inductive State where
  /-- Nothing is made yet. -/
  | init
  /-- Frames are drawn. -/
  | running
  /-- Resources are released. -/
  | cleanup
  /-- The end. -/
  | destroy
  deriving DecidableEq, Inhabited, Repr

/-- The name in messages. -/
def State.name : State → String
  | init => "Init"
  | running => "Running"
  | cleanup => "Cleanup"
  | destroy => "Destroy"

/-- The shaders of the scene. -/
structure Shaders where
  /-- Writes three colors. -/
  offscreen : ShaderDesc
  /-- Shows a texture. -/
  quad : ShaderDesc
  deriving DecidableEq, Inhabited, Repr

/-- The resources of the scene. -/
structure Scene where
  /-- The surfaces and their pass. -/
  targets : Targets
  /-- The cube. -/
  offscreen : Offscreen
  /-- The panels. -/
  composite : Composite
  deriving DecidableEq, Inhabited, Repr

/-- What is shown. -/
inductive Mode where
  /-- The scene. -/
  | scene (scene : Scene)
  /-- The message. -/
  | fallback (display : Fallback)
  deriving DecidableEq, Repr

end RenderTargets.App

namespace RenderTargets

open App Log

/-- The state of the application. -/
structure Application where
  /-- What was asked for. -/
  config : Config
  /-- The shaders of the scene. -/
  shaders : Shaders
  /-- Where the state machine is. -/
  state : App.State := .init
  /-- What is shown, between `init` and `cleanup`. -/
  mode : Option Mode := none
  /-- The resources owned. -/
  arena : Arena := []
  deriving DecidableEq, Repr

namespace Application

/-- The scene, if that is shown. -/
def scene? (a : Application) : Option Scene :=
  match a.mode with
  | some (.scene s) => some s
  | _ => none

/-- The name under which the application writes to the journal. -/
def source : String := "mrt::app"

variable {σ : Type} [GraphicsDevice σ]

/-- The arena of the application beside a device. -/
def arenaLens : Lens (Application × σ) (Arena × σ) :=
  Lens.beside ⟨fun a ↦ a.arena, fun r a ↦ { a with arena := r }⟩

/-- Changes the application. -/
def change (f : Application → Application) : Step (Application × σ) Unit :=
  modify fun s ↦ (f s.1, s.2)

/-- Makes everything the scene needs. -/
def createScene (a : Application) : Step (Arena × σ) Scene := do
  let samples ← StepWith.within .snd (effectiveSamples a.config.samples : Step σ UInt32)
  let builder : TargetsBuilder :=
    { TargetsBuilder.ofSize a.config.targetWidth a.config.targetHeight samples with
      clearColors := a.config.clearColors }
  let targets ← builder.build
  let offscreen ← Offscreen.create a.shaders.offscreen targets a.config
  let composite ← Composite.create a.shaders.quad targets a.config
  return ⟨targets, offscreen, composite⟩

/-- Chooses what is shown and makes what it needs, or nothing. -/
def onInit : Step (Application × σ) Unit := do
  let (a, _) ← get
  if !(← StepWith.within .snd (canShowScene : Step σ Bool)) then
    change fun a ↦ { a with mode := some (.fallback (.ofConfig a.config)) }
    return
  match ← StepWith.attempt (StepWith.within arenaLens (createScene a : Step (Arena × σ) Scene)) with
  | .ok scene =>
    note .info source s!"initialized with {(← get).1.arena.length} resources"
    change fun a ↦ { a with mode := some (.scene scene) }
  | .error e =>
    note .error source s!"initialization failed: {e.message}"
    match ← StepWith.attempt
      (StepWith.within arenaLens (Arena.releaseAll : Step (Arena × σ) Nat)) with
    | .ok _ => pure ()
    | .error r => note .error source s!"release after failed init failed: {r.message}"
    .fail e

/-- Draws the fallback message. -/
def drawFallback (f : Fallback) : Step (Application × σ) Unit :=
  StepWith.within
    ⟨fun s ↦ (f, s.2), fun t s ↦ ({ s.1 with mode := some (.fallback t.1) }, t.2)⟩ Fallback.draw

/-- Draws what is shown. The cube moves on first. -/
def drawMode : Step (Application × σ) Unit := do
  match (← get).1.mode with
  | some (.scene scene) =>
    let scene := { scene with offscreen := scene.offscreen.advance }
    change fun a ↦ { a with mode := some (.scene scene) }
    StepWith.within .snd (scene.offscreen.draw scene.targets : Step σ Unit)
    StepWith.within .snd (scene.composite.draw : Step σ Unit)
  | some (.fallback f) => drawFallback f
  | none => pure ()

/-- Draws a frame and says which state follows. -/
def onRunning : Step (Application × σ) App.State := do
  drawMode
  StepWith.within .snd (GraphicsDevice.commitFrame : Step σ Unit)
  return if GraphicsDevice.quitRequested (← get).2 then .cleanup else .running

/-- Releases everything and counts it. A second time there is nothing to release. -/
def onCleanup : Step (Application × σ) Nat := do
  let (a, _) ← get
  change fun a ↦ { a with mode := none }
  if a.mode.isNone && a.arena.isEmpty then return 0
  let released ← StepWith.within arenaLens (Arena.releaseAll : Step (Arena × σ) Nat)
  note .info source s!"released {released} resources"
  return released

/-- The state that follows, after the work of the present one. -/
def next : Step (Application × σ) App.State := do
  match (← get).1.state with
  | .init =>
    match ← StepWith.attempt (onInit : Step (Application × σ) Unit) with
    | .ok () => return .running
    | .error e =>
      change fun a ↦ { a with state := .destroy }
      .fail e
  | .running => onRunning
  | .cleanup =>
    let _ ← onCleanup
    return .destroy
  | .destroy => return .destroy

/-- One step of the state machine. -/
def tick : Step (Application × σ) App.State := do
  let next ← next
  let before := (← get).1.state
  if next ≠ before then
    note .info source s!"state {before.name} -> {next.name}"
    change fun a ↦ { a with state := next }
  return next

end Application

end RenderTargets
