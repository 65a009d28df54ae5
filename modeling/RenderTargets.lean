import RenderTargets.Log.Facade
import RenderTargets.Program
import RenderTargets.Proofs.App.Arena
import RenderTargets.Proofs.App.Course
import RenderTargets.Proofs.App.Exposure
import RenderTargets.Proofs.App.Message
import RenderTargets.Proofs.App.OpenPass
import RenderTargets.Proofs.App.Panels
import RenderTargets.Proofs.App.Runs
import RenderTargets.Proofs.App.Traps
import RenderTargets.Proofs.Device.Attachments
import RenderTargets.Proofs.Device.Distinct
import RenderTargets.Proofs.Device.DrawStates
import RenderTargets.Proofs.Device.Shaders
import RenderTargets.Proofs.Log.Line
import RenderTargets.Proofs.Recorder.Inventory
import RenderTargets.Proofs.Recorder.Refusals
import RenderTargets.Proofs.Recorder.Sampling
import RenderTargets.Proofs.Recorder.Stream
import RenderTargets.Proofs.Shape.Faces
import RenderTargets.Proofs.Text.Print
import RenderTargets.Proofs.Validation.History
import RenderTargets.Proofs.Vulkan.Atomic
import RenderTargets.Proofs.Vulkan.Capabilities
import RenderTargets.Proofs.Vulkan.Compatible
import RenderTargets.Proofs.Vulkan.Device.Clears
import RenderTargets.Proofs.Vulkan.Device.Exchanges
import RenderTargets.Proofs.Vulkan.Device.FailedSetup
import RenderTargets.Proofs.Vulkan.Device.Feeding
import RenderTargets.Proofs.Vulkan.Device.Pairing
import RenderTargets.Proofs.Vulkan.Device.Sampling
import RenderTargets.Proofs.Vulkan.Device.Serving
import RenderTargets.Proofs.Vulkan.Device.Uniforms
import RenderTargets.Proofs.Vulkan.Device.WithoutTarget
import RenderTargets.Proofs.Vulkan.Owners
import RenderTargets.Proofs.Vulkan.Positions
import RenderTargets.Proofs.Vulkan.Replay
import RenderTargets.Proofs.Vulkan.Resolves
import RenderTargets.Proofs.Vulkan.Runs
import RenderTargets.Proofs.Vulkan.SampledImages
import RenderTargets.Proofs.Vulkan.VertexInput
import RenderTargets.Proofs.Vulkan.WellFormed
import RenderTargets.Recorder.Commands
import RenderTargets.Report.Calls
import RenderTargets.Report.Scene
import RenderTargets.Vulkan.Device.Commands
import RenderTargets.Vulkan.Device.Setup
