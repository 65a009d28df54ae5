import RenderTargets.Vulkan.Frame
/-!
# Command buffers in a trace

What a driver wants of the command buffer of a frame slot, read off a trace with the latest call
first. A buffer is waited for by the fence of its slot, reset, begun, recorded into, ended and
handed over with that fence, in this order. Inside of a **render pass instance** everything but the
beginning of an instance may be recorded, and drawing needs a viewport, a scissor, a pipeline and
vertices that were set in the same instance.

## Failures

Frames and uploads never mix. So a failed call was about the upload if there is one, that is, while
a buffer of the upload pool was allocated and not given back, and what it asked for need not be
looked at. A failed step of a frame starts it over.

`Progress.after` runs through a trace and has no value if the trace breaks the order.
-/

namespace RenderTargets.Vulkan

/-! ### Inside of a buffer -/

/-- What was set in a render pass instance. -/
structure Instance where
  /-- There is a viewport. -/
  viewport : Bool := false
  /-- There is a scissor. -/
  scissor : Bool := false
  /-- The pipeline. -/
  pipeline : Option (Object .pipeline) := none
  /-- The vertices. -/
  vertices : Option (Object .buffer) := none
  /-- The indices. -/
  indices : Option (Object .buffer) := none
  deriving DecidableEq, Repr

/-- Everything that vertices are drawn with was set. -/
def Instance.isReady (i : Instance) : Bool :=
  i.viewport && i.scissor && i.pipeline.isSome && i.vertices.isSome

namespace Recorded

/-- The command draws. -/
def IsDraw : Recorded → Prop
  | draw .. | drawIndexed .. => True
  | _ => False

/-- The command gets an image ready. -/
def IsPreparation : Recorded → Prop
  | prepareForSampling _ => True
  | _ => False

/-- The render pass instance after a command, if that may be recorded. -/
def next? : Recorded → Option Instance → Option (Option Instance)
  | beginPass _, none => some (some {})
  | prepareForSampling _, none => some none
  | endPass, some _ => some none
  | viewport _, some i => some (some { i with viewport := true })
  | scissor _, some i => some (some { i with scissor := true })
  | bindPipeline p, some i => some (some { i with pipeline := some p })
  | bindVertices b, some i => some (some { i with vertices := some b })
  | bindIndices b _, some i => some (some { i with indices := some b })
  | bindSet .., some i => some (some i)
  | pushConstants .., some i => some (some i)
  | clearAttachments .., some i => some (some i)
  | draw .., some i => if i.isReady then some (some i) else none
  | drawIndexed .., some i => if i.isReady && i.indices.isSome then some (some i) else none
  | _, _ => none

end Recorded

/-! ### From one step of a buffer to the next -/

/-- Where the command buffer of a slot stands. -/
inductive Phase where
  /-- It has to be waited for. -/
  | rest
  /-- It was waited for. -/
  | waited
  /-- It is empty. -/
  | reset
  /-- It is recorded into, in a render pass instance or outside. -/
  | recording (inside : Option Instance)
  /-- It is complete. -/
  | ended
  deriving DecidableEq, Repr

/-- The calls that can fail are steps of a frame. -/
def CallName.isFrameStep : CallName → Bool
  | waitForFences | resetDescriptorPool | resetCommandBuffer | beginCommandBuffer
  | endCommandBuffer | resetFences | submit => true
  | _ => false

/-- The call is a step of the command buffer of the slot. -/
def Call.concerns (f : FrameSlot) : Call → Bool
  | waitForFence fence => fence == f.fence
  | resetCommandBuffer b | beginCommandBuffer b | endCommandBuffer b | record b _ =>
    b == f.commands
  | submit _ work _ => work.commands == f.commands
  | _ => false

/-- The phase after a step of the slot, if that is in its turn. -/
def Phase.next? (f : FrameSlot) : Phase → Call → Option Phase
  | rest, .waitForFence _ => some waited
  | waited, .resetCommandBuffer _ => some reset
  | reset, .beginCommandBuffer _ => some (recording none)
  | recording inside, .record _ c => (c.next? inside).map recording
  | recording none, .endCommandBuffer _ => some ended
  | ended, .submit _ _ fence => if fence = f.fence then some rest else none
  | _, _ => none

/-- How far the command buffer of a slot got. -/
structure Progress where
  /-- There is an upload. -/
  uploading : Bool := false
  /-- The phase. -/
  phase : Phase := .rest
  deriving DecidableEq, Repr

namespace Progress

/-- The progress after a call, if that is in its turn. Uploads take their buffers from a pool. -/
def next? (uploads : Object .commandPool) (f : FrameSlot) (p : Progress) (c : Call) :
    Option Progress :=
  match c with
  | .failed name _ _ =>
    some (if name.isFrameStep && !p.uploading then { p with phase := .rest } else p)
  | .allocateCommandBuffer _ pool =>
    some (if pool = uploads then { p with uploading := true } else p)
  | .freeCommandBuffer pool _ => some (if pool = uploads then { p with uploading := false } else p)
  | c => if c.concerns f then (p.phase.next? f c).map ({ p with phase := · }) else some p

/-- The progress after a trace, if every step was in its turn. -/
def after (uploads : Object .commandPool) (f : FrameSlot) : List Call → Option Progress
  | [] => some {}
  | c :: past => (after uploads f past).bind (·.next? uploads f c)

end Progress

end RenderTargets.Vulkan
