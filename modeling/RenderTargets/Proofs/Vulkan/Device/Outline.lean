import RenderTargets.Proofs.Device.Command
import RenderTargets.Proofs.Vulkan.NeverFails
import RenderTargets.Proofs.Vulkan.Device.InTurn
import RenderTargets.Proofs.Vulkan.Renewal
/-!
# What a Vulkan device accepts

Commands are checked against the resources that are alive and the pass that is being recorded, and
against little else: that is the **outline** of a device. `Outline.Accepts o c answer o'` says that
a device of outline `o` may take the command `c`, that it answers the handle `answer` if it makes
something, and that `o'` is its outline afterwards. There is one constructor for each command, with
everything that is known to have been checked.

A device can refuse what its outline accepts, because it ran out of something. But all that it takes
is accepted, and a command that it refuses leaves its outline alone (`meets_answer`).

## Drivers on which no call fails

One command changes the outline before its last call of the driver: a draw state is bound before
there is a descriptor set for its textures. So all this is about drivers without a script.
-/

namespace RenderTargets.Vulkan

open StepWith Run

/-- The pass begins with these attachments, and nothing is bound. -/
structure ActivePass.Enters (signature : Signature) (attachments : List TextureId) (resolves : Bool)
    (a : ActivePass) : Prop where
  /-- What pipelines have to match. -/
  signature : a.signature = signature
  /-- The textures rendered into. -/
  attachments : a.attachments = attachments
  /-- They are resolved when the pass ends. -/
  resolves : a.resolves = resolves
  /-- There is no pipeline. -/
  pipeline : a.pipeline = none
  /-- There is no mesh. -/
  mesh : a.mesh = none

/-- What the commands of a device are checked against. -/
structure Outline where
  /-- What the device can do. -/
  capabilities : Capabilities
  /-- Format of the screen. -/
  colorFormat : Format
  /-- Live textures. -/
  textures : TextureMap
  /-- Live meshes. -/
  meshes : Slot.Map ResourceKind.mesh Mesh
  /-- Live shaders. -/
  shaders : Slot.Map ResourceKind.shader Shader
  /-- Live pipelines. -/
  pipelines : Slot.Map ResourceKind.pipeline Pipeline
  /-- Live passes. -/
  passes : Slot.Map ResourceKind.pass Pass
  /-- The pass that is being recorded. -/
  active : Option ActivePass

namespace Outline

/-- The outline without a resource, if that was alive. -/
def remove? (o : Outline) : ResourceId → Option Outline
  | .texture h => (o.textures.remove h).map fun p ↦ { o with textures := p.2 }
  | .mesh h => (o.meshes.remove h).map fun p ↦ { o with meshes := p.2 }
  | .shader h => (o.shaders.remove h).map fun p ↦ { o with shaders := p.2 }
  | .pipeline h => (o.pipelines.remove h).map fun p ↦ { o with pipelines := p.2 }
  | .pass h => (o.passes.remove h).map fun p ↦ { o with passes := p.2 }

/-- The texture is alive and can be sampled. -/
def Samples (o : Outline) (id : TextureId) : Prop :=
  ∃ t, o.textures.get? id = some t ∧ t.isSampleable

/-- The pass as it begins. -/
def Begins (o : Outline) : Option PassId → ActivePass → Prop
  | some id, a => ∃ p, o.passes.get? id = some p ∧ (∀ t ∈ p.textures, o.textures.contains t) ∧
      a.Enters p.signature p.textures p.resolves
  | none, a => a.Enters ⟨1, o.colorFormat, some screenDepthFormat, 1⟩ [] false

/-- The outline after the pass `a`. -/
def ended (o : Outline) (a : ActivePass) : Outline :=
  { o with
    active := none
    textures := if a.resolves then a.attachments.foldl Device.markResolved o.textures
      else o.textures }

/-- A device takes a command, answers and has another outline. -/
inductive Accepts (o : Outline) : GraphicsDevice.Command → Option ResourceId → Outline → Prop
  /-- A texture is made. -/
  | createTexture {d id t textures} (valid : d.validate = .ok ()) (made : t.IsOf d)
      (unresolved : t.resolved = false) (stored : o.textures.insert? t = some (id, textures)) :
      Accepts o (.createTexture d) (some (.texture id)) { o with textures }
  /-- A mesh is made. -/
  | createMesh {d id m meshes} (valid : d.validate = .ok ()) (made : m.groups = d.groups)
      (stored : o.meshes.insert? m = some (id, meshes)) :
      Accepts o (.createMesh d) (some (.mesh id)) { o with meshes }
  /-- A shader is made. -/
  | createShader {d id s shaders} (valid : d.validate = .ok ())
      (stored : o.shaders.insert? s = some (id, shaders)) :
      Accepts o (.createShader d) (some (.shader id)) { o with shaders }
  /-- A pipeline is made of a shader that is alive. -/
  | createPipeline {d id p pipelines} (valid : d.validate = .ok ())
      (shader : o.shaders.contains d.shader) (made : p.signature = d.signature)
      (stored : o.pipelines.insert? p = some (id, pipelines)) :
      Accepts o (.createPipeline d) (some (.pipeline id)) { o with pipelines }
  /-- A pass is made of textures that fit each other. -/
  | createPass {d id parts p passes} (valid : d.validate o.capabilities.maxColors = .ok ())
      (fit : parts.Fit d o.textures) (made : p.IsOf d parts)
      (stored : o.passes.insert? p = some (id, passes)) :
      Accepts o (.createPass d) (some (.pass id)) { o with passes }
  /-- A resource that is alive is released, outside of a pass. -/
  | destroy {id o'} (idle : o.active = none) (removed : o.remove? id = some o') :
      Accepts o (.destroy id) none o'
  /-- A pass begins outside of a pass. -/
  | beginPass {pass action a} (idle : o.active = none) (begins : o.Begins pass a) :
      Accepts o (.beginPass pass action) none { o with active := some a }
  /-- Drawing is restricted inside a pass. -/
  | applyViewport {rect topLeft a} (inside : o.active = some a) :
      Accepts o (.applyViewport rect topLeft) none o
  /-- A draw state is bound that is alive and fits the pass. -/
  | applyDrawState {state a p m} (inside : o.active = some a)
      (pipeline : o.pipelines.get? state.pipeline = some p)
      (mesh : o.meshes.get? state.mesh = some m) (sampled : ∀ id ∈ state.textures, o.Samples id)
      (apart : ∀ id ∈ state.textures, id ∉ a.attachments) (fits : p.signature = a.signature) :
      Accepts o (.applyDrawState state) none
        { o with active := some { a with
            pipeline := some state.pipeline, mesh := some state.mesh } }
  /-- Uniforms are passed on after a draw state. -/
  | applyUniforms {stage data a id} (inside : o.active = some a) (bound : a.pipeline = some id) :
      Accepts o (.applyUniforms stage data) none o
  /-- A group that the mesh of the draw state has is drawn. -/
  | draw {group a id m} (inside : o.active = some a) (bound : a.mesh = some id)
      (mesh : o.meshes.get? id = some m) (group_lt : group < m.groups.length) :
      Accepts o (.draw group) none o
  /-- Rectangles are filled inside a pass. -/
  | fillRects {color rects a} (inside : o.active = some a) :
      Accepts o (.fillRects color rects) none o
  /-- The pass ends. -/
  | endPass {a} (inside : o.active = some a) : Accepts o .endPass none (o.ended a)
  /-- The frame is committed outside of a pass. -/
  | commitFrame (idle : o.active = none) : Accepts o .commitFrame none o
  /-- The window is asked to close. -/
  | requestQuit : Accepts o .requestQuit none o

end Outline

namespace Device

/-- The outline of a device. -/
def outline (d : Device) : Outline where
  capabilities := d.capabilities
  colorFormat := d.screen.colorFormat
  textures := d.textures
  meshes := d.meshes
  shaders := d.shaders
  pipelines := d.pipelines
  passes := d.passes
  active := d.active

/-- A device of this outline on a driver that never fails. -/
def HasOutline (o : Outline) (s : Device × Host) : Prop := s.1.outline = o ∧ s.2.NeverFails

variable {o : Outline} {d : Device} {s : Device × Host} {α β : Type}
  {R : α → Device × Host → Prop} {E : EngineError → Device × Host → Prop}

/-! ### Devices of an outline -/

theorem hasOutline_of_at (h : RunOn.At d Host.NeverFails s) : HasOutline d.outline s :=
  ⟨congrArg outline h.1, h.2⟩

/-- What holds from every device of an outline holds from all of them. -/
theorem meets_hasOutline {x : DeviceStep α}
    (h : ∀ d : Device, d.outline = o → Meets (RunOn.At d Host.NeverFails) x R E) :
    Meets (HasOutline o) x R E :=
  fun s hs ↦ h s.1 hs.1 s ⟨rfl, hs.2⟩

theorem hasOutline_lift {x : Run α} (hx : Keeps Host.NeverFails x) :
    Keeps (HasOutline o) (liftM x : DeviceStep α) :=
  Meets.snd fun s ↦ (hx.and (Keeps.const (p := s.outline = o))).mono (fun _ h ↦ ⟨h.2, h.1⟩)
    (fun _ _ h ↦ ⟨h.2, h.1⟩) fun _ _ h ↦ ⟨h.2, h.1⟩

/-- A step on the host that does not fail. -/
theorem hasOutline_succeed {x : Run α}
    (hx : Meets Host.NeverFails x (fun _ ↦ Host.NeverFails) fun _ _ ↦ False) :
    Meets (HasOutline o) (liftM x : DeviceStep α) (fun _ ↦ HasOutline o) E :=
  Meets.snd fun s ↦ (hx.and (Keeps.const (p := s.outline = o))).mono (fun _ h ↦ ⟨h.2, h.1⟩)
    (fun _ _ h ↦ ⟨h.2, h.1⟩) fun _ _ h ↦ h.1.elim

/-- A change that the outline does not show. -/
theorem hasOutline_change {g : Device → Device} (hg : ∀ d, (g d).outline = d.outline) :
    Keeps (HasOutline o) (RunOn.change g) :=
  Meets.update fun s hs ↦ ⟨(hg s.1).trans hs.1, hs.2⟩

/-- A step of the screen, which is done outside frames whatever the pool of uploads. -/
theorem hasOutline_onScreen {x : RunOn Swapchain α} (hx : RunOn.IsOutsideFrames .null x)
    (hs : ∀ s, Keeps (Swapchain.Renewing s) x) : Keeps (HasOutline o) (onScreen x) := by
  rintro ⟨d, k⟩ ⟨rfl, hk⟩
  refine Meets.within (P := (· = (d, k))) ?_ (d, k) rfl
  rintro _ rfl
  refine (Meets.and (hs d.screen) (hx k.driver)).mono (fun _ hs ↦ hs ▸ ⟨.refl _, .refl _⟩) ?_ ?_
  all_goals
    rintro _ ⟨t, l⟩ ⟨hrenews, hadds⟩
    refine ⟨?_, hadds.script.trans hk⟩
    show { d.outline with colorFormat := t.colorFormat } = d.outline
    rw [show t.colorFormat = d.screen.colorFormat from hrenews.colorFormat]
    rfl

theorem hasOutline_slot : Meets (HasOutline o) slot (fun _ ↦ HasOutline o) E :=
  meets_look fun _ ↦ .orTrap fun _ _ _ hs ↦ hs

theorem hasOutline_record {c : Recorded} :
    Meets (HasOutline o) (record c) (fun _ ↦ HasOutline o) E :=
  .bind hasOutline_slot fun _ ↦ hasOutline_succeed Run.neverFails_record

theorem hasOutline_ensureFrame : Keeps (HasOutline o) ensureFrame := by
  refine meets_look fun _ ↦ ?_
  refine .ite (fun _ ↦ ?_) fun _ ↦ ?_
  · refine .bind hasOutline_slot fun _ ↦ ?_
    exact .bind (hasOutline_lift FrameSlot.neverFails_begin) fun _ ↦ hasOutline_change fun _ ↦ rfl
  · exact .pure fun _ hs ↦ hs

theorem hasOutline_changeFrame {g : FrameState → FrameState} :
    Keeps (HasOutline o) (changeFrame g) :=
  hasOutline_change fun _ ↦ rfl

theorem hasOutline_screenImage : Keeps (HasOutline o) screenImage := by
  have htake : ∀ n, Keeps (HasOutline o) (do
      let image ← onScreen (Swapchain.acquire n)
      changeFrame ({ · with image })
      return image) := fun n ↦
    .bind (hasOutline_onScreen Swapchain.outsideFrames_acquire fun _ ↦ Swapchain.renews_acquire)
      fun _ ↦
      .bind hasOutline_changeFrame fun _ ↦ .pure fun _ hs ↦ hs
  refine meets_look fun d' ↦ ?_
  split
  · exact .refuse fun _ _ hs ↦ hs
  · refine .ite (fun _ ↦ .pure fun _ hs ↦ hs) fun _ ↦ .bind hasOutline_changeFrame fun _ ↦ ?_
    refine .ite (fun _ ↦ ?_) fun _ ↦ htake _
    refine .bind (hasOutline_onScreen Swapchain.outsideFrames_rebuild fun _ ↦
      Swapchain.renews_rebuild) fun _ ↦ ?_
    refine meets_look fun _ ↦ ?_
    exact .ite (fun _ ↦ .pure fun _ hs ↦ hs) fun _ ↦ htake _

theorem hasOutline_recordBegin {extent : Extent} {target : Target} :
    Keeps (HasOutline o) (recordBegin extent target) := by
  refine .orTrap_bind fun _ _ ↦ ?_
  exact .bind hasOutline_record fun _ ↦ .bind hasOutline_record fun _ ↦ hasOutline_record

theorem hasOutline_handOver : Keeps (HasOutline o) handOver := by
  have hnext : Keeps (HasOutline o)
      (RunOn.change fun d ↦ { d with slotIndex := (d.slotIndex + 1) % d.slots.length }) :=
    hasOutline_change fun _ ↦ rfl
  refine meets_look fun d ↦ ?_
  refine .bind (hasOutline_change fun _ ↦ rfl) fun _ ↦ ?_
  refine .bind hasOutline_slot fun f ↦ ?_
  split
  · exact .bind (hasOutline_lift FrameSlot.neverFails_submit) fun _ ↦ hnext
  · refine .orTrap_bind fun sync _ ↦ .bind (hasOutline_lift FrameSlot.neverFails_submit) fun _ ↦ ?_
    exact .bind (hasOutline_onScreen Swapchain.outsideFrames_present fun _ ↦
      Swapchain.renews_present)
      fun _ ↦ hnext

end Device

end RenderTargets.Vulkan
