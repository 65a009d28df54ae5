import RenderTargets.Report.Basic
import RenderTargets.Report.Descriptions
import RenderTargets.Report.Outcome
import RenderTargets.Vulkan.Host
import RenderTargets.Vulkan.PassLayout
import RenderTargets.Vulkan.Surface
import RenderTargets.Vulkan.VertexInput
/-!
# Reports of calls

A call of the driver is shown as a list: its name, the object that was handed out, and what was
asked for. What the device always asks for in the same way is a constant of this module, since it is
part of what is shown. Structures whose members are numbers of Vulkan are shown as lists of these
numbers, in the order of the members.

Setting memory aside and giving it back is not shown: the memory of a GPU is shared out among images
and buffers without asking the driver for each.
-/

namespace RenderTargets.Report

open Vulkan

/-! ### Structures of numbers -/

instance : Reported Extent := ⟨fun e ↦ report [e.width, e.height]⟩
instance : Reported Viewport :=
  ⟨fun v ↦ report [v.x, v.y, v.width, v.height, v.minDepth, v.maxDepth]⟩
instance : Reported SurfaceFormat := ⟨fun f ↦ report [f.format, f.colorSpace]⟩
instance : Reported AttachmentRef := ⟨fun r ↦ list [report r.index, report r.layout]⟩

instance : Reported Attachment := ⟨fun a ↦ report
  ([a.format, a.samples.toNat, a.load, a.store, a.stencilLoad, a.stencilStore, a.initialLayout,
    a.finalLayout] : List Int)⟩

instance : Reported VertexAttribute := ⟨fun a ↦
  list [report a.location, report a.binding, report a.format, report a.offset]⟩

instance : Reported VertexInput := ⟨fun v ↦ record
  [("binding", report v.binding.binding), ("stride", report v.binding.stride),
   ("rate", report v.binding.rate), ("attributes", report v.attributes)]⟩

/-- An attachment with its flags, of which none is ever set. -/
def ofAttachment (a : Attachment) : Report :=
  match report a with
  | list codes => list (codes ++ [number 0])
  | r => r

instance : Reported AttachmentSet := ⟨fun s ↦ record
  [("attachments", list (s.attachments.map ofAttachment)), ("colors", report s.colors),
   ("resolves", report s.resolves), ("depth", report s.depth)]⟩

/-- A rectangle of the first layer of an image. -/
def ofLayerRect (r : Rect) : Report :=
  list [report r.x, report r.y, report r.width, report r.height, number 0, number 1]

/-! ### Objects and results -/

/-- Numbers in order. -/
def numbers (l : List Int) : Report := list (l.map number)

instance : Reported AnyObject := ⟨fun o ↦ if o.number = 0 then nothing else text o.text⟩
instance {kind : ObjectKind} : Reported (Object kind) := ⟨fun o ↦ report o.any⟩
instance : Reported ResultCode := ⟨fun c ↦ number c.number⟩

/-! ### Constants -/

/-- Version 1.0.0 of the application. -/
def appVersion : Nat := 0x400000
/-- Version 0.1.0 of the engine. -/
def engineVersion : Nat := 0x1000
/-- Version 1.1 of the interface. -/
def interfaceVersion : Nat := 0x401000
/-- The extension of a GPU that can show images. -/
def screenExtension : String := "VK_KHR_swapchain"
/-- The type of a descriptor that is an image with its sampler. -/
def sampledImageType : Nat := 1
/-- The layout of an image that is sampled. -/
def sampledLayout : Nat := 5
/-- Pixels in two dimensions. -/
def flatImage : Nat := 1
/-- The position that stands for what is outside of a pass, or for any family of queues. -/
def outsideAll : Nat := 0xffffffff

/-- The first level and layer of some part of an image. -/
def rangeOf (aspect : Flags) : Report := numbers [aspect.toNat, 0, 1, 0, 1]

/-- A pass begins when all that reads or writes its images is done, and its images are ready for
sampling when it ends. -/
def dependencies : Report :=
  list [numbers [outsideAll, 0, 0x780, 0x700, 0x500, 0x580],
    numbers [0, outsideAll, 0x400, 0x80, 0x100, 0x20]]

/-! ### What is asked for -/

instance : Reported ConnectionInfo := ⟨fun i ↦ record
  [("app", report i.appName), ("app_version", report appVersion), ("engine", report "MRT Engine"),
   ("engine_version", report engineVersion), ("api", report interfaceVersion),
   ("layers", report i.layers), ("extensions", report i.extensions)]⟩

instance : Reported ImageInfo := ⟨fun i ↦ record
  [("type", report flatImage), ("format", report i.format),
   ("extent", numbers [i.extent.width.toNat, i.extent.height.toNat, 1]),
   ("levels", numbers [1, 1]), ("samples", report i.samples), ("tiling", number 0),
   ("usage", report i.usage), ("layout", number 0)]⟩

instance : Reported ViewInfo := ⟨fun i ↦ record
  [("image", report i.image), ("type", report flatImage), ("format", report i.format),
   ("range", rangeOf i.aspect)]⟩

/-- The attachments of a pass as the driver is asked for them. -/
def ofPass (s : AttachmentSet) : Report := record
  [("attachments", report s.attachments), ("subpasses", number 1), ("colors", report s.colors),
   ("resolves", if s.resolves.isEmpty then nothing else report s.resolves),
   ("depth", report s.depth), ("dependencies", dependencies)]

instance : Reported FramebufferInfo := ⟨fun i ↦ record
  [("pass", report i.pass), ("views", report i.views),
   ("size", numbers [i.extent.width.toNat, i.extent.height.toNat, 1])]⟩

instance : Reported StageInfo :=
  ⟨fun s ↦ list [report s.stage, report s.code, report s.entryPoint]⟩

/-- A flag as a number. -/
def bit (b : Bool) : Int := if b then 1 else 0

instance : Reported PipelineInfo := ⟨fun i ↦
  let b := i.vertices.binding
  record
    [("stages", report i.stages),
     ("bindings", list [list [report b.binding, report b.stride, report b.rate]]),
     ("attributes", report i.vertices.attributes), ("topology", numbers [i.topology, 0]),
     ("viewports", numbers [1, 1]), ("raster", numbers [0, 0, 0, i.cull.toNat, 0, 0]),
     ("line_width", single .one),
     ("depth", numbers [bit i.depthTest, bit i.depthWrite, i.depthCompare, 0, 0]),
     ("samples", report i.samples), ("sample_shading", number 0),
     ("blend", list (List.replicate i.blends (numbers [15, 0]))), ("logic_op", number 0),
     ("dynamic", numbers [0, 1]), ("layout", report i.layout), ("pass", report i.pass),
     ("subpass", number 0)]⟩

instance : Reported SwapchainInfo := ⟨fun i ↦ record
  [("surface", report i.surface), ("min_images", report i.minImages), ("format", report i.format),
   ("extent", report i.extent), ("layers", number 1), ("usage", number 16), ("sharing", number 0),
   ("transform", report i.transform), ("alpha", number 1), ("mode", report i.mode),
   ("clipped", number 1), ("old", report i.old)]⟩

instance : Reported Submission := ⟨fun s ↦ record
  [("wait", list (s.wait.map fun (semaphore, stage) ↦ list [report semaphore, report stage])),
   ("commands", report [s.commands]), ("signal", report s.signal)]⟩

instance : Reported DescriptorWrite := ⟨fun w ↦
  list [report w.set, report w.binding, report sampledImageType, number 1, report w.sampler,
    report w.view, report sampledLayout]⟩

/-! ### Commands -/

instance : Reported ClearValue where
  report
    | .color c => report c
    | .depthStencil d s => record [("depth", report d), ("stencil", report s)]

instance : Reported PassBegin := ⟨fun b ↦ record
  [("pass", report b.pass), ("framebuffer", report b.framebuffer), ("area", report b.area),
   ("clears", report b.clears), ("contents", number 0)]⟩

/-- A color attachment that is filled. -/
def ofFilled (color : Vec4) (attachment : UInt32) : Report :=
  list [report colorAspect, report attachment, report color]

/-- An image that becomes ready for sampling. -/
def ofBarrier (image : Object .image) : Report :=
  list [report image, number 0, report sampledLayout, number 0, number 0x20, report outsideAll,
    report outsideAll, rangeOf colorAspect]

/-- The name of a command and what follows the command buffer. -/
def ofRecorded : Recorded → String × List Report
  | .beginPass b => ("CmdBeginRenderPass", [report b])
  | .endPass => ("CmdEndRenderPass", [])
  | .viewport v => ("CmdSetViewport", [number 0, report [v]])
  | .scissor r => ("CmdSetScissor", [number 0, report [r]])
  | .bindPipeline p => ("CmdBindPipeline", [number 0, report p])
  | .bindVertices b => ("CmdBindVertexBuffers", [number 0, report [b], numbers [0]])
  | .bindIndices b type => ("CmdBindIndexBuffer", [report b, number 0, report type])
  | .bindSet layout set =>
    ("CmdBindDescriptorSets", [number 0, report layout, number 0, report [set]])
  | .pushConstants layout stages data =>
    ("CmdPushConstants", [report layout, report stages, number 0, text (Word.hexBytes data)])
  | .draw count first => ("CmdDraw", [report count, number 1, report first, number 0])
  | .drawIndexed count first =>
    ("CmdDrawIndexed", [report count, number 1, report first, number 0, number 0])
  | .clearAttachments attachments color rects =>
    ("CmdClearAttachments",
      [list (attachments.map (ofFilled color)), list (rects.map ofLayerRect)])
  | .prepareForSampling image =>
    ("CmdPipelineBarrier", [number 1, number 0x80, list [ofBarrier image]])

/-! ### Objects and results -/

/-- A call that handed out an object. -/
def made {kind : ObjectKind} (name : CallName) (o : Object kind) (info : Report) : Option Report :=
  some (list [text name.name, report o, info])

/-- A call that handed out nothing. -/
def done (name : CallName) (arguments : List Report) : Option Report :=
  some (list (text name.name :: arguments))

/-- A call as it is shown, if it is. -/
def ofCall : Call → Option Report
  | .failed name _ code => done name [record [("failed", report code)]]
  | .createConnection o info => made .createConnection o (report info)
  | .createSurface system o => made (.createSurface system) o nothing
  | .createMessenger o severity =>
    made .createMessenger o (record [("severity", report severity), ("type", number 7)])
  | .createDevice o gpu family =>
    made .createDevice o (record
      [("gpu", report gpu), ("queues", list [list [report family, report [Single.one]]]),
       ("extensions", report [screenExtension])])
  | .createCommandPool o family flags =>
    made .createCommandPool o (record [("family", report family), ("flags", report flags)])
  | .allocateCommandBuffer o pool =>
    made .allocateCommandBuffers o (record
      [("pool", report pool), ("level", number 0), ("count", number 1)])
  | .createFence o => made .createFence o (record [("flags", number 1)])
  | .createSemaphore o => made .createSemaphore o (record [])
  | .createDescriptorPool o sets images =>
    made .createDescriptorPool o (record
      [("max_sets", report sets),
       ("sizes", list [list [report sampledImageType, report images]])])
  | .allocateDescriptorSet o pool layout =>
    made .allocateDescriptorSets o (record [("pool", report pool), ("layouts", report [layout])])
  | .createSampler o =>
    made .createSampler o (record
      [("filters", numbers [1, 1, 0]), ("address", numbers [2, 2, 2]), ("max_lod", single .zero)])
  | .createImage o info => made .createImage o (report info)
  | .allocateMemory _ => none
  | .bindImageMemory o => done .bindImageMemory [report o]
  | .createView o info => made .createView o (report info)
  | .createShaderModule o words => made .createShaderModule o (bytes (words.flatMap Word.bytes))
  | .createSetLayout o bindings =>
    made .createSetLayout o (list (bindings.map fun b ↦
      list [report b, report sampledImageType, number 1, report (stageFlags .fragment)]))
  | .createPipelineLayout o set push =>
    made .createPipelineLayout o (record
      [("sets", report [set]),
       ("push", list (push.toList.map fun p ↦
         list [report p.stages, number 0, report p.size]))])
  | .createBuffer o size usage =>
    made .createBuffer o (record [("size", report size), ("usage", report usage)])
  | .bindBufferMemory o => done .bindBufferMemory [report o]
  | .createRenderPass o attachments => made .createRenderPass o (ofPass attachments)
  | .createFramebuffer o info => made .createFramebuffer o (report info)
  | .createPipeline o info => made .createPipeline o (report info)
  | .createSwapchain o info => made .createSwapchain o (report info)
  | .destroy o => some (list [text ("Destroy" ++ o.kind.title), report o])
  | .freeMemory _ => none
  | .freeCommandBuffer pool buffer =>
    some (list [text "FreeCommandBuffers", report pool, report [buffer]])
  | .waitForFence fence => done .waitForFences [report fence]
  | .resetFence fence => done .resetFences [report fence]
  | .resetDescriptorPool pool => done .resetDescriptorPool [report pool, number 0]
  | .resetCommandBuffer buffer => done .resetCommandBuffer [report buffer, number 0]
  | .beginCommandBuffer buffer => done .beginCommandBuffer [report buffer, number 1]
  | .endCommandBuffer buffer => done .endCommandBuffer [report buffer]
  | .submit queue work fence => done .submit [report queue, report [work], report fence]
  | .waitQueue queue => done .waitQueue [report queue]
  | .waitDevice device => done .waitDevice [report device]
  | .acquire swapchain signal index code =>
    done .acquire [report swapchain, report signal, report index, report code]
  | .present queue wait swapchain index code =>
    done .present
      [report queue, report [wait], report [swapchain], report [index], report code]
  | .updateSets writes => some (list [text "UpdateDescriptorSets", report writes])
  | .record buffer command =>
    let (name, arguments) := ofRecorded command
    some (list (text name :: report buffer :: arguments))

instance : Reported Delivery where
  report
    | .noMessenger => text "no messenger"
    | .filtered => text "filtered by driver"
    | .received => number 0

/-! ### What a step did -/

/-- The calls made since there were `before`, the earliest first. -/
def callsSince (before : Nat) (d : Driver) : List Report :=
  (d.trace.drop before).filterMap ofCall

/-- The buffers that got their memory since there were `before` calls and are still there, with what
is in them. -/
def buffersSince (before : Nat) (d : Driver) : List Report :=
  let bound := (d.trace.drop before).filterMap fun
    | .bindBufferMemory o => some o
    | _ => none
  (d.memory.filter (bound.contains ·.buffer)).map fun m ↦ list [report m.buffer, bytes m.bytes]

/-- What was done with the driver since there were `before` calls. -/
def Fields.ofDriver (before : Nat) (d : Driver) : Fields :=
  unlessEmpty "vk" (callsSince before d) ++ unlessEmpty "buffers" (buffersSince before d)

end RenderTargets.Report
