import RenderTargets.Log.Journal
import RenderTargets.Spirv.Declarations
import RenderTargets.Validation.Messenger
import RenderTargets.Vulkan.Driver
/-!
# The host of a device

A device runs on a driver, writes to a journal, has its validation messages reported, and has the
code of its shaders read. All four are the `Host`, and everything a device does is a step on it.

## Two kinds of failure

A call that fails while the device is at work is a backend error whose words also go to the journal.
One that fails while the device is set up is an initialization error, and the journal gets words of
its own.

## Parts with a state

A part of a device that changes, such as its screen, runs on its own state beside the host. It is
**constructed** from little by steps of its own, and if one of them goes wrong, what there is of the
part by then is given up.

## Owners

The objects of a device share its context: the GPU, its memory and its upload queue. `Host.owners`
counts who holds on to the context, the device itself included.
-/

namespace RenderTargets.Vulkan

open Log

/-- What a device runs on. -/
structure Host where
  /-- The driver. -/
  driver : Driver
  /-- The journal. -/
  journal : Journal := {}
  /-- The messenger. -/
  messenger : Validation.Messenger := {}
  /-- How many hold on to the context. -/
  owners : Nat := 0
  /-- What reads the code of shaders. -/
  reflect : Spirv.Reflection := Spirv.Declarations.reflect

/-- The place of the journal. -/
def Host.journalLens : Lens Host Journal := ⟨Host.journal, fun j h ↦ { h with journal := j }⟩

instance : HasJournal Host := ⟨Host.journalLens⟩

/-- The host with what was written so far taken away. -/
def Host.clear (h : Host) : Host :=
  { h with journal := h.journal.clear, messenger := h.messenger.clear }

/-- What becomes of a message of the driver. -/
inductive Delivery where
  /-- There is nobody to receive it. -/
  | noMessenger
  /-- Nobody receives messages of its severity. -/
  | filtered
  /-- The messenger got it. -/
  | received
  deriving DecidableEq, Inhabited, Repr

/-- The driver sends a message. -/
def Host.deliver (h : Host) (m : Validation.Message) : Delivery × Host :=
  match h.driver.messenger with
  | none => (.noMessenger, h)
  | some (_, severity) =>
    if Flags.intersects severity m.severity then
      (.received, { h with messenger := h.messenger.receive m })
    else (.filtered, h)

/-- The host after the counts of validation messages were printed. -/
def Host.printValidation (h : Host) : Host :=
  let m := h.messenger
  { h with journal := h.journal.print (m.stats.reportText m.colors) }

/-- The name under which the device writes to the journal. -/
def source : String := "mrt::vulkan"

/-- A step of a part of the device. -/
abbrev Run (α : Type) := Step Host α

namespace Run

variable {α : Type}

/-- Something done with the driver. -/
def driving (f : Driver → α × Driver) : Run α :=
  modifyGet fun h ↦
    let (a, d) := f h.driver
    (a, { h with driver := d })

/-- Something done to the driver. -/
def changeDriver (f : Driver → Driver) : Run Unit := modify fun h ↦ { h with driver := f h.driver }

/-- A call that works or is a backend error. -/
def work (action : String) (f : Driver → Except ResultCode α × Driver) : Run α := do
  match ← driving f with
  | .ok a => return a
  | .error code => refuse source (.driver action code)

/-- Fails to set the device up, with words for the journal. -/
def giveUp (words : String) (cause : InitializationCause) : Run α := do
  note .error source words
  .fail (.initialization cause)

/-- A call that works or is an initialization error; the journal says `logged` for `action`. -/
def setUp (logged action : String) (f : Driver → Except ResultCode α × Driver) : Run α := do
  match ← driving f with
  | .ok a => return a
  | .error code => giveUp s!"Failed to {logged}: {code.text}" (.driver action code)

/-- A call whose failure changes nothing. -/
def tryOut (f : Driver → Except ResultCode α × Driver) : Run Unit := do
  let _ ← driving f

/-- Destroys an object. -/
def destroy {kind : ObjectKind} (o : Object kind) : Run Unit := changeDriver (Driver.destroy o.any)

/-- Does the same with one value after another. -/
def each (f : α → Run Unit) : List α → Run Unit
  | [] => pure ()
  | a :: rest => do
    f a
    each f rest

/-- Records a command. -/
def record (buffer : Object .commandBuffer) (command : Recorded) : Run Unit :=
  changeDriver (·.push (.record buffer command))

/-- One more holds on to the context. -/
def share : Run Unit := modify fun h ↦ { h with owners := h.owners + 1 }

/-- One less holds on to the context. -/
def unshare : Run Unit := modify fun h ↦ { h with owners := h.owners - 1 }

end Run

/-- A step of a part of the device that has a state of its own. -/
abbrev RunOn (τ α : Type) := Step (τ × Host) α

instance {τ : Type} : MonadLift (EStateM (Fault EngineError) Host)
    (EStateM (Fault EngineError) (τ × Host)) :=
  ⟨StepWith.within .snd⟩

namespace RunOn

variable {τ : Type}

/-- The part. -/
def part : RunOn τ τ := return (← get).1

/-- A change of the part. -/
def change (f : τ → τ) : RunOn τ Unit := modify fun s ↦ (f s.1, s.2)

/-- Builds a part up from `t`. After a fault, what there is of it is given up. -/
def construct (t : τ) (build : RunOn τ Unit) (drop : τ → Run Unit) : Run τ := fun h ↦
  match build (t, h) with
  | .ok _ (t, h) => .ok t h
  | .error e (t, h) =>
    match drop t h with
    | .ok _ h => .error e h
    | .error e h => .error e h

end RunOn

/-- What all objects of a device share. -/
structure Context where
  /-- The GPU in use. -/
  device : Object .device
  /-- Where work is handed over. -/
  queue : Object .queue
  /-- Where command buffers for uploads come from. -/
  uploadPool : Object .commandPool
  /-- The format that stands for depth of 24 bits with stencil. -/
  depthCode : Code
  /-- What reads the code of shaders. -/
  reflect : Spirv.Reflection
  deriving Inhabited

namespace Context

/-- The number of a format on the GPU in use. -/
def formatCode (ctx : Context) (f : Format) : Code :=
  if f = .depth24Stencil8 then ctx.depthCode else Vulkan.formatCode f

end Context

end RenderTargets.Vulkan
