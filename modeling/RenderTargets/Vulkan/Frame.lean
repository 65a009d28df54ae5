import RenderTargets.Vulkan.Host
/-!
# Frames ahead of the GPU

While the GPU draws one frame, the next one is recorded into another **frame slot**: a command
buffer, a fence that tells when the GPU is done with it, and a pool for the descriptor sets of the
frame. A slot is waited for before it is used again.
-/

namespace RenderTargets.Vulkan

open Log

/-- What one frame is recorded with. -/
structure FrameSlot where
  /-- The commands. -/
  commands : Object .commandBuffer
  /-- Tells that the GPU is done; null before there is one. -/
  fence : Object .fence := .null
  /-- Where the descriptor sets of the frame come from; null before there is one. -/
  pool : Object .descriptorPool := .null
  deriving DecidableEq, Inhabited, Repr

namespace FrameSlot

/-- Descriptor sets of a frame. -/
def setLimit : UInt32 := 256

/-- Images that the sets of a frame can hold. -/
def imageLimit : UInt32 := 1024

/-- The stage at which a frame waits for the image of the screen. -/
def waitStage : Flags := 0x400

/-- Gives a slot up. Its command buffer goes with the command pool. -/
def drop (f : FrameSlot) : Run Unit := do
  Run.destroy f.pool
  Run.destroy f.fence
  Run.unshare

/-- Makes a slot. -/
def create (commandPool : Object .commandPool) : Run FrameSlot := do
  let commands ← Run.setUp "allocate frame command buffer" "allocate command buffer"
    (Driver.create .allocateCommandBuffers (.allocateCommandBuffer · commandPool))
  Run.share
  RunOn.construct { commands }
    (do
      let fence ← Run.setUp "create frame fence" "create fence"
        (Driver.create .createFence .createFence)
      RunOn.change ({ · with fence })
      let pool ← Run.setUp "create frame descriptor pool" "create descriptor pool"
        (Driver.create .createDescriptorPool (.createDescriptorPool · setLimit imageLimit))
      RunOn.change ({ · with pool }))
    drop

/-- Makes `n` slots more than those there are. If one cannot be made, all are given up. -/
def createMany (commandPool : Object .commandPool) (slots : List FrameSlot) :
    (n : Nat) → Run (List FrameSlot)
  | 0 => return slots
  | n + 1 => do
    let f ← StepWith.undoing (create commandPool) (Run.each drop slots)
    createMany commandPool (slots ++ [f]) n

/-- Waits until the GPU is done with a slot, and starts to record into it. -/
def begin (f : FrameSlot) : Run Unit := do
  Run.work "wait for frame fence" (Driver.perform .waitForFences (.waitForFence f.fence))
  Run.work "reset frame descriptor pool"
    (Driver.perform .resetDescriptorPool (.resetDescriptorPool f.pool))
  Run.work "reset frame command buffer"
    (Driver.perform .resetCommandBuffer (.resetCommandBuffer f.commands))
  Run.work "begin frame command buffer"
    (Driver.perform .beginCommandBuffer (.beginCommandBuffer f.commands))

/-- Makes a descriptor set for the frame. -/
def allocateSet (f : FrameSlot) (layout : Object .setLayout) : Run (Object .descriptorSet) :=
  Run.work s!"allocate texture set (limit {setLimit.toNat} per frame)"
    (Driver.create .allocateDescriptorSets (.allocateDescriptorSet · f.pool layout))

/-- What is handed over for a frame. A frame with an image of the screen waits for the first
semaphore and tells the second one when it is done. -/
def submission (f : FrameSlot) (screen : Option (Object .semaphore × Object .semaphore)) :
    Submission :=
  match screen with
  | some (wait, signal) => ⟨[(wait, waitStage)], f.commands, [signal]⟩
  | none => ⟨[], f.commands, []⟩

/-- Stops to record and hands the frame over. -/
def submit (ctx : Context) (f : FrameSlot)
    (screen : Option (Object .semaphore × Object .semaphore)) : Run Unit := do
  Run.work "end frame command buffer"
    (Driver.perform .endCommandBuffer (.endCommandBuffer f.commands))
  Run.work "reset frame fence" (Driver.perform .resetFences (.resetFence f.fence))
  Run.work "submit frame commands"
    (Driver.perform .submit (.submit ctx.queue (f.submission screen) f.fence))

end FrameSlot

end RenderTargets.Vulkan
