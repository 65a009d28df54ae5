import RenderTargets.Number.Vector
import RenderTargets.Rect
import RenderTargets.Vulkan.Object
import RenderTargets.Vulkan.PassLayout
import RenderTargets.Vulkan.Surface
import RenderTargets.Vulkan.VertexInput
/-!
# Calls of the driver

What a device says to the driver. `CallName` lists the calls that can fail, `Call` is a call that
was made, with what the driver handed out. Calls that only ask are not kept.

Commands that are recorded into a command buffer are a type of their own, `Recorded`.
-/

namespace RenderTargets.Vulkan

/-- The calls that can fail. -/
inductive CallName where
  | enumerateLayers
  | createConnection
  | createMessenger
  | createSurface (system : WindowSystem)
  | enumerateGpus
  | createDevice
  | createCommandPool
  | allocateCommandBuffers
  | createFence
  | createSemaphore
  | createDescriptorPool
  | allocateDescriptorSets
  | createSampler
  | createImage
  | imageMemory
  | bindImageMemory
  | createView
  | createShaderModule
  | createSetLayout
  | createPipelineLayout
  | createPipeline
  | createBuffer
  | bufferMemory
  | bindBufferMemory
  | createRenderPass
  | createFramebuffer
  | surfaceFormats
  | presentModes
  | surfaceCapabilities
  | createSwapchain
  | swapchainImages
  | waitForFences
  | resetFences
  | resetDescriptorPool
  | resetCommandBuffer
  | beginCommandBuffer
  | endCommandBuffer
  | submit
  | waitQueue
  | waitDevice
  | acquire
  | present
  deriving DecidableEq, Inhabited, Repr

namespace CallName

/-- Every call that can fail. -/
def all : List CallName :=
  [enumerateLayers, createConnection, createMessenger, createSurface .xlib, createSurface .xcb,
   createSurface .wayland, enumerateGpus, createDevice, createCommandPool,
   allocateCommandBuffers, createFence, createSemaphore, createDescriptorPool,
   allocateDescriptorSets, createSampler, createImage, imageMemory, bindImageMemory, createView,
   createShaderModule, createSetLayout, createPipelineLayout, createPipeline, createBuffer,
   bufferMemory, bindBufferMemory, createRenderPass, createFramebuffer, surfaceFormats,
   presentModes, surfaceCapabilities, createSwapchain, swapchainImages, waitForFences,
   resetFences, resetDescriptorPool, resetCommandBuffer, beginCommandBuffer, endCommandBuffer,
   submit, waitQueue, waitDevice, acquire, present]

/-- The name in a trace. -/
def name : CallName → String
  | enumerateLayers => "EnumerateInstanceLayerProperties"
  | createConnection => "CreateInstance"
  | createMessenger => "CreateDebugUtilsMessenger"
  | createSurface .xlib => "CreateXlibSurface"
  | createSurface .xcb => "CreateXcbSurface"
  | createSurface .wayland => "CreateWaylandSurface"
  | createSurface .web => "CreateWebSurface"
  | enumerateGpus => "EnumeratePhysicalDevices"
  | createDevice => "CreateDevice"
  | createCommandPool => "CreateCommandPool"
  | allocateCommandBuffers => "AllocateCommandBuffers"
  | createFence => "CreateFence"
  | createSemaphore => "CreateSemaphore"
  | createDescriptorPool => "CreateDescriptorPool"
  | allocateDescriptorSets => "AllocateDescriptorSets"
  | createSampler => "CreateSampler"
  | createImage => "CreateImage"
  | imageMemory => "GetImageMemoryRequirements"
  | bindImageMemory => "BindImageMemory"
  | createView => "CreateImageView"
  | createShaderModule => "CreateShaderModule"
  | createSetLayout => "CreateDescriptorSetLayout"
  | createPipelineLayout => "CreatePipelineLayout"
  | createPipeline => "CreateGraphicsPipelines"
  | createBuffer => "CreateBuffer"
  | bufferMemory => "GetBufferMemoryRequirements"
  | bindBufferMemory => "BindBufferMemory"
  | createRenderPass => "CreateRenderPass"
  | createFramebuffer => "CreateFramebuffer"
  | surfaceFormats => "GetPhysicalDeviceSurfaceFormats"
  | presentModes => "GetPhysicalDeviceSurfacePresentModes"
  | surfaceCapabilities => "GetPhysicalDeviceSurfaceCapabilities"
  | createSwapchain => "CreateSwapchain"
  | swapchainImages => "GetSwapchainImages"
  | waitForFences => "WaitForFences"
  | resetFences => "ResetFences"
  | resetDescriptorPool => "ResetDescriptorPool"
  | resetCommandBuffer => "ResetCommandBuffer"
  | beginCommandBuffer => "BeginCommandBuffer"
  | endCommandBuffer => "EndCommandBuffer"
  | submit => "QueueSubmit"
  | waitQueue => "QueueWaitIdle"
  | waitDevice => "DeviceWaitIdle"
  | acquire => "AcquireNextImage"
  | present => "QueuePresent"

end CallName

/-! ### What is asked for -/

/-- What a connection is asked for. -/
structure ConnectionInfo where
  /-- Name of the application. -/
  appName : String
  /-- Layers to switch on. -/
  layers : List String
  /-- Extensions to switch on. -/
  extensions : List String
  deriving DecidableEq, Inhabited, Repr

/-- What an image is asked for. -/
structure ImageInfo where
  /-- Format of a pixel. -/
  format : Code
  /-- Size. -/
  extent : Extent
  /-- Samples per pixel. -/
  samples : Flags
  /-- What it is for. -/
  usage : Flags
  deriving DecidableEq, Inhabited, Repr

/-- What a view is asked for. -/
structure ViewInfo where
  /-- The image. -/
  image : AnyObject
  /-- Format of a pixel. -/
  format : Code
  /-- Part of the image. -/
  aspect : Flags
  deriving DecidableEq, Inhabited, Repr

/-- Uniforms that a pipeline takes. -/
structure PushRange where
  /-- Stages that take them. -/
  stages : Flags
  /-- Bytes. -/
  size : UInt32
  deriving DecidableEq, Inhabited, Repr

/-- What a framebuffer is asked for. -/
structure FramebufferInfo where
  /-- Shape of the pass. -/
  pass : Object .renderPass
  /-- The images in the order of the attachments. -/
  views : List (Object .view)
  /-- Size. -/
  extent : Extent
  deriving DecidableEq, Inhabited, Repr

/-- A stage of a pipeline. -/
structure StageInfo where
  /-- Which one. -/
  stage : Flags
  /-- Its code. -/
  code : Object .shaderModule
  /-- Name of the function to start with. -/
  entryPoint : String
  deriving DecidableEq, Inhabited, Repr

/-- What a pipeline is asked for. -/
structure PipelineInfo where
  /-- Its stages. -/
  stages : List StageInfo
  /-- How it reads vertices. -/
  vertices : VertexInput
  /-- How vertices make triangles. -/
  topology : Code
  /-- Sides that are not drawn. -/
  cull : Flags
  /-- Depths are tested. -/
  depthTest : Bool
  /-- Depths are written. -/
  depthWrite : Bool
  /-- When a depth passes. -/
  depthCompare : Code
  /-- Samples per pixel. -/
  samples : Flags
  /-- Number of color attachments written. -/
  blends : Nat
  /-- What it takes beside vertices. -/
  layout : Object .pipelineLayout
  /-- Shape of the pass. -/
  pass : Object .renderPass
  deriving DecidableEq, Inhabited, Repr

/-- What a swapchain is asked for. -/
structure SwapchainInfo where
  /-- The surface. -/
  surface : Object .surface
  /-- Number of images. -/
  minImages : UInt32
  /-- Format of the images. -/
  format : SurfaceFormat
  /-- Size of the images. -/
  extent : Extent
  /-- How the screen is turned. -/
  transform : Flags
  /-- How images are shown. -/
  mode : Code
  /-- The swapchain that is replaced. -/
  old : Object .swapchain
  deriving DecidableEq, Inhabited, Repr

/-- Work that is handed over. -/
structure Submission where
  /-- What it waits for, and at which stages. -/
  wait : List (Object .semaphore × Flags)
  /-- The commands. -/
  commands : Object .commandBuffer
  /-- What it tells when it is done. -/
  signal : List (Object .semaphore)
  deriving DecidableEq, Inhabited, Repr

/-- An image that is written into a descriptor set. -/
structure DescriptorWrite where
  /-- The set. -/
  set : Object .descriptorSet
  /-- Where in the set. -/
  binding : UInt32
  /-- How the image is read. -/
  sampler : Object .sampler
  /-- The image. -/
  view : Object .view
  deriving DecidableEq, Inhabited, Repr

/-! ### Commands in command buffers -/

/-- What an attachment is cleared to. -/
inductive ClearValue where
  /-- A color. -/
  | color (color : Vec4)
  /-- A depth and stencil bits. -/
  | depthStencil (depth : Single) (stencil : UInt8)
  deriving DecidableEq, Inhabited, Repr

/-- How a pass begins. -/
structure PassBegin where
  /-- Its shape. -/
  pass : Object .renderPass
  /-- Its images. -/
  framebuffer : Object .framebuffer
  /-- The pixels it renders to. -/
  area : Rect
  /-- What each attachment is cleared to. -/
  clears : List ClearValue
  deriving DecidableEq, Inhabited, Repr

/-- A recorded command. -/
inductive Recorded where
  /-- A pass begins. -/
  | beginPass (info : PassBegin)
  /-- The pass ends. -/
  | endPass
  /-- Where clip space goes. -/
  | viewport (viewport : Viewport)
  /-- Which pixels may be written. -/
  | scissor (rect : Rect)
  /-- The program. -/
  | bindPipeline (pipeline : Object .pipeline)
  /-- The vertices. -/
  | bindVertices (buffer : Object .buffer)
  /-- The indices. -/
  | bindIndices (buffer : Object .buffer) (type : Code)
  /-- The images that are read. -/
  | bindSet (layout : Object .pipelineLayout) (set : Object .descriptorSet)
  /-- The uniforms. -/
  | pushConstants (layout : Object .pipelineLayout) (stages : Flags) (data : List UInt8)
  /-- Vertices are drawn. -/
  | draw (count first : UInt32)
  /-- Vertices are drawn by their indices. -/
  | drawIndexed (count first : UInt32)
  /-- Rectangles of some color attachments are filled. -/
  | clearAttachments (attachments : List UInt32) (color : Vec4) (rects : List Rect)
  /-- An image gets ready to be sampled. -/
  | prepareForSampling (image : Object .image)
  deriving DecidableEq, Inhabited, Repr

/-! ### Calls -/

/-- A call that was made. -/
inductive Call where
  /-- The call failed. It is kept as it would have been made, with the null object for what it was
  to hand out. -/
  | failed (name : CallName) (wanted : Call) (code : ResultCode)
  /-- A connection was made. -/
  | createConnection (connection : Object .connection) (info : ConnectionInfo)
  /-- A surface was made. -/
  | createSurface (system : WindowSystem) (surface : Object .surface)
  /-- A messenger for messages of some severities was made. -/
  | createMessenger (messenger : Object .messenger) (severity : Flags)
  /-- A GPU was taken into use with one queue of a family. -/
  | createDevice (device : Object .device) (gpu : Object .gpu) (family : Nat)
  /-- A command pool was made. -/
  | createCommandPool (pool : Object .commandPool) (family : Nat) (flags : Flags)
  /-- A command buffer was made. -/
  | allocateCommandBuffer (buffer : Object .commandBuffer) (pool : Object .commandPool)
  /-- A signalled fence was made. -/
  | createFence (fence : Object .fence)
  /-- A semaphore was made. -/
  | createSemaphore (semaphore : Object .semaphore)
  /-- A pool of sets and sampled images was made. -/
  | createDescriptorPool (pool : Object .descriptorPool) (sets images : UInt32)
  /-- A descriptor set was made. -/
  | allocateDescriptorSet (set : Object .descriptorSet) (pool : Object .descriptorPool)
      (layout : Object .setLayout)
  /-- The sampler was made. -/
  | createSampler (sampler : Object .sampler)
  /-- An image was made. -/
  | createImage (image : Object .image) (info : ImageInfo)
  /-- Memory was set aside. -/
  | allocateMemory (memory : Object .memory)
  /-- Memory was put behind an image. -/
  | bindImageMemory (image : Object .image)
  /-- A view was made. -/
  | createView (view : Object .view) (info : ViewInfo)
  /-- Code of a stage was taken. -/
  | createShaderModule (module : Object .shaderModule) (words : List UInt32)
  /-- The shape of a set with an image for the fragment stage at each binding was made. -/
  | createSetLayout (layout : Object .setLayout) (bindings : List UInt32)
  /-- The list of what a pipeline takes was made. -/
  | createPipelineLayout (layout : Object .pipelineLayout) (set : Object .setLayout)
      (push : Option PushRange)
  /-- A buffer was made. -/
  | createBuffer (buffer : Object .buffer) (size : Nat) (usage : Flags)
  /-- Memory was put behind a buffer. -/
  | bindBufferMemory (buffer : Object .buffer)
  /-- The shape of a pass was made. -/
  | createRenderPass (pass : Object .renderPass) (attachments : AttachmentSet)
  /-- The images of a pass were put together. -/
  | createFramebuffer (framebuffer : Object .framebuffer) (info : FramebufferInfo)
  /-- A pipeline was made. -/
  | createPipeline (pipeline : Object .pipeline) (info : PipelineInfo)
  /-- A swapchain was made. -/
  | createSwapchain (swapchain : Object .swapchain) (info : SwapchainInfo)
  /-- An object is gone. -/
  | destroy (object : AnyObject)
  /-- Memory was given back. -/
  | freeMemory (memory : Object .memory)
  /-- A command buffer was given back. -/
  | freeCommandBuffer (pool : Object .commandPool) (buffer : Object .commandBuffer)
  /-- The fence was waited for. -/
  | waitForFence (fence : Object .fence)
  /-- The fence is no longer signalled. -/
  | resetFence (fence : Object .fence)
  /-- The sets of a pool are gone. -/
  | resetDescriptorPool (pool : Object .descriptorPool)
  /-- The commands of a buffer are gone. -/
  | resetCommandBuffer (buffer : Object .commandBuffer)
  /-- Recording starts. -/
  | beginCommandBuffer (buffer : Object .commandBuffer)
  /-- Recording stops. -/
  | endCommandBuffer (buffer : Object .commandBuffer)
  /-- Work was handed over. -/
  | submit (queue : Object .queue) (work : Submission) (fence : Object .fence)
  /-- The queue has nothing left to do. -/
  | waitQueue (queue : Object .queue)
  /-- The GPU has nothing left to do. -/
  | waitDevice (device : Object .device)
  /-- An image to render into was handed out. -/
  | acquire (swapchain : Object .swapchain) (signal : Object .semaphore) (index : Nat)
      (code : ResultCode)
  /-- An image was handed over to be shown. -/
  | present (queue : Object .queue) (wait : Object .semaphore) (swapchain : Object .swapchain)
      (index : Nat) (code : ResultCode)
  /-- Images were written into descriptor sets. -/
  | updateSets (writes : List DescriptorWrite)
  /-- A command was recorded. -/
  | record (buffer : Object .commandBuffer) (command : Recorded)
  deriving DecidableEq, Inhabited, Repr

end RenderTargets.Vulkan
