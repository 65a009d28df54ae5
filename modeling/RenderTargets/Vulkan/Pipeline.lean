import RenderTargets.Vulkan.Shader
/-!
# Pipelines on the GPU

A pipeline is built for the shape of a pass. Any pass of the same signature will do later, so a
**stand-in** is made for it and given up again.
-/

namespace RenderTargets.Vulkan

open Log

/-- A pipeline. -/
structure Pipeline where
  /-- Name for messages. -/
  name : String
  /-- The program with its fixed state. -/
  pipeline : Object .pipeline
  /-- What it takes beside vertices. -/
  layout : Object .pipelineLayout
  /-- The shape of its descriptor sets. -/
  setLayout : Object .setLayout
  /-- Stages that take uniforms. -/
  uniformStages : Flags
  /-- Bytes of the uniforms. -/
  uniformSize : UInt32
  /-- Where images are bound, in the order of the textures of a draw state. -/
  bindings : List UInt32
  /-- The passes it can be used in. -/
  signature : Signature
  deriving DecidableEq, Inhabited, Repr

/-- Makes the shape of a pass. -/
def createRenderPass (l : PassLayout) : Run (Object .renderPass) :=
  Run.work "create render pass"
    (Driver.create .createRenderPass (.createRenderPass · l.attachmentSet))

namespace Pipeline

/-- The stages that take uniforms. -/
def uniformStagesOf (s : Shader) : Flags :=
  (if s.vertex.interface.uniformSize > 0 then stageFlags .vertex else 0) |||
    (if s.fragment.interface.uniformSize > 0 then stageFlags .fragment else 0)

/-- Bytes of the uniforms; both stages read the same ones. -/
def uniformSizeOf (s : Shader) : UInt32 :=
  max s.vertex.interface.uniformSize s.fragment.interface.uniformSize

/-- The uniforms that the pipeline takes. -/
def pushRangeOf (s : Shader) : Option PushRange :=
  if uniformSizeOf s > 0 then some ⟨uniformStagesOf s, uniformSizeOf s⟩ else none

/-- The stand-in for the passes of a pipeline. -/
def standIn (ctx : Context) (s : Signature) (samples : Flags) : PassLayout :=
  .compatible (ctx.formatCode s.colorFormat) s.colorCount samples (s.depthFormat.map ctx.formatCode)

/-- The stages of a shader. -/
def stagesOf (s : Shader) : List StageInfo :=
  [⟨stageFlags .vertex, s.vertex.code, s.vertex.entryPoint⟩,
   ⟨stageFlags .fragment, s.fragment.code, s.fragment.entryPoint⟩]

/-- What the driver is asked for. -/
def infoOf (d : PipelineDesc) (s : Shader) (samples : Flags) (vertices : VertexInput)
    (layout : Object .pipelineLayout) (pass : Object .renderPass) : PipelineInfo :=
  { stages := stagesOf s
    vertices
    topology := topologyCode d.primitive
    cull := cullFlags d.cull d.cullFace
    depthTest := d.signature.depthFormat.isSome
    depthWrite := d.signature.depthFormat.isSome && d.depthWrite
    depthCompare := compareCode d.depthCompare
    samples
    blends := d.signature.colorCount.toNat
    layout
    pass }

/-- Builds the pipeline for the shape of a pass. -/
def build (d : PipelineDesc) (s : Shader) (samples : Flags) (layout : Object .pipelineLayout)
    (pass : Object .renderPass) : Run (Object .pipeline) := do
  let vertices ← StepWith.orTrap (vertexInput? d.layout)
  Run.work s!"create graphics pipeline '{d.name}'"
    (Driver.create .createPipeline
      (.createPipeline · (infoOf d s samples vertices layout pass)))

/-- Builds the pipeline for a stand-in of its passes. -/
def buildForStandIn (ctx : Context) (d : PipelineDesc) (s : Shader) (samples : Flags)
    (layout : Object .pipelineLayout) : Run (Object .pipeline) := do
  let pass ← createRenderPass (standIn ctx d.signature samples)
  let result ← StepWith.attempt (build d s samples layout pass)
  Run.destroy pass
  StepWith.ofChecked (Checked.ofExcept result)

/-- Makes what the pipeline takes beside vertices, and the pipeline. -/
def createWith (ctx : Context) (d : PipelineDesc) (s : Shader) (samples : Flags)
    (setLayout : Object .setLayout) : Run Pipeline := do
  let layout ← Run.work s!"create pipeline layout of '{d.name}'"
    (Driver.create .createPipelineLayout (.createPipelineLayout · setLayout (pushRangeOf s)))
  let pipeline ←
    StepWith.undoing (buildForStandIn ctx d s samples layout) (Run.destroy layout)
  return {
    name := d.name
    pipeline, layout, setLayout
    uniformStages := uniformStagesOf s
    uniformSize := uniformSizeOf s
    bindings := s.fragment.interface.sampledBindings
    signature := d.signature }

/-- Makes a pipeline. -/
def create (ctx : Context) (d : PipelineDesc) (s : Shader) : Run Pipeline := do
  StepWith.ofChecked
    ((Checked.ofExcept d.validate).mapError fun e ↦ .invalid (.pipeline d.name e))
  match sampleFlag? d.signature.samples with
  | none => refuse source (.sampleCount .pipeline d.name d.signature.samples)
  | some samples =>
    Run.share
    let setLayout ← StepWith.undoing
      (Run.work s!"create descriptor set layout of '{d.name}'"
        (Driver.create .createSetLayout
          (.createSetLayout · s.fragment.interface.sampledBindings)))
      Run.unshare
    let discard : Run Unit := do
      Run.destroy setLayout
      Run.unshare
    let p ← StepWith.undoing (createWith ctx d s samples setLayout) discard
    note .debug source
      (s!"Pipeline '{p.name}': {p.signature.colorCount.toNat} color attachment(s), " ++
        s!"{p.signature.samples.toNat} sample(s), {p.uniformSize.toNat} push-constant bytes")
    return p

/-- Gives a pipeline up. -/
def drop (p : Pipeline) : Run Unit := do
  Run.destroy p.pipeline
  Run.destroy p.layout
  Run.destroy p.setLayout
  Run.unshare

end Pipeline

end RenderTargets.Vulkan
