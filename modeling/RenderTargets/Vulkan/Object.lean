/-!
# Objects of the driver

The driver names what it makes by numbers, counted from one for each kind of object. The number zero
is the **null** object, which stands for nothing.
-/

namespace RenderTargets.Vulkan

/-- The kinds of object. -/
inductive ObjectKind where
  /-- The connection to the driver. -/
  | connection
  /-- What a window offers for drawing on. -/
  | surface
  /-- A receiver of validation messages. -/
  | messenger
  /-- A GPU. -/
  | gpu
  /-- A GPU in use. -/
  | device
  /-- Where work is handed over. -/
  | queue
  /-- Where command buffers come from. -/
  | commandPool
  /-- Recorded commands. -/
  | commandBuffer
  /-- Tells the program that work is done. -/
  | fence
  /-- Tells the GPU that work is done. -/
  | semaphore
  /-- Where descriptor sets come from. -/
  | descriptorPool
  /-- What a shader reads. -/
  | descriptorSet
  /-- How images are read. -/
  | sampler
  /-- Pixels. -/
  | image
  /-- Pixels that can be shown. -/
  | screenImage
  /-- A part of an image. -/
  | view
  /-- Code of a stage. -/
  | shaderModule
  /-- The shape of a descriptor set. -/
  | setLayout
  /-- What a pipeline takes beside vertices. -/
  | pipelineLayout
  /-- A program with its fixed state. -/
  | pipeline
  /-- The shape of a pass. -/
  | renderPass
  /-- The images of a pass. -/
  | framebuffer
  /-- Bytes. -/
  | buffer
  /-- The images of a surface. -/
  | swapchain
  /-- Memory behind images and buffers. -/
  | memory
  deriving DecidableEq, Inhabited, Repr

/-- The name of the kind in a trace. -/
def ObjectKind.name : ObjectKind → String
  | connection => "instance"
  | surface => "surface"
  | messenger => "messenger"
  | gpu => "gpu"
  | device => "device"
  | queue => "queue"
  | commandPool => "command_pool"
  | commandBuffer => "command_buffer"
  | fence => "fence"
  | semaphore => "semaphore"
  | descriptorPool => "descriptor_pool"
  | descriptorSet => "set"
  | sampler => "sampler"
  | image => "image"
  | screenImage => "swap_image"
  | view => "view"
  | shaderModule => "shader"
  | setLayout => "set_layout"
  | pipelineLayout => "pipeline_layout"
  | pipeline => "pipeline"
  | renderPass => "render_pass"
  | framebuffer => "framebuffer"
  | buffer => "buffer"
  | swapchain => "swapchain"
  | memory => "memory"

/-- The name of the kind in the names of calls. -/
def ObjectKind.title : ObjectKind → String
  | connection => "Instance"
  | surface => "Surface"
  | messenger => "DebugUtilsMessenger"
  | gpu => "PhysicalDevice"
  | device => "Device"
  | queue => "Queue"
  | commandPool => "CommandPool"
  | commandBuffer => "CommandBuffer"
  | fence => "Fence"
  | semaphore => "Semaphore"
  | descriptorPool => "DescriptorPool"
  | descriptorSet => "DescriptorSet"
  | sampler => "Sampler"
  | image => "Image"
  | screenImage => "Image"
  | view => "ImageView"
  | shaderModule => "ShaderModule"
  | setLayout => "DescriptorSetLayout"
  | pipelineLayout => "PipelineLayout"
  | pipeline => "Pipeline"
  | renderPass => "RenderPass"
  | framebuffer => "Framebuffer"
  | buffer => "Buffer"
  | swapchain => "Swapchain"
  | memory => "Memory"

/-- An object of a kind. -/
structure Object (kind : ObjectKind) where
  /-- Its number; zero for the null object. -/
  number : Nat
  deriving DecidableEq, Inhabited, Repr

/-- An object of any kind. -/
structure AnyObject where
  /-- Its kind. -/
  kind : ObjectKind
  /-- Its number; zero for the null object. -/
  number : Nat
  deriving DecidableEq, Inhabited, Repr

namespace Object

variable {kind : ObjectKind}

/-- The object that stands for nothing. -/
def null : Object kind := ⟨0⟩

/-- The object stands for nothing. -/
def isNull (o : Object kind) : Bool := o.number == 0

/-- The object with its kind. -/
def any (o : Object kind) : AnyObject := ⟨kind, o.number⟩

end Object

/-- The object in a trace. -/
def AnyObject.text (o : AnyObject) : String := s!"{o.kind.name}{o.number}"

end RenderTargets.Vulkan
