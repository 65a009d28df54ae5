import RenderTargets.Proofs.Vulkan.Contents
import RenderTargets.Proofs.Vulkan.Device.Stores
/-!
# The moves of a device

A command is made of few kinds of small steps. `Device.Move cs s t` lists them: what a device does
to its state, and which calls it makes, in one **move** from `s` to `t`. There is nothing else that
a device does (`Reached.moves`), so whatever every move keeps, every device that is reached has.

## Labels

A pass begins, gets its draw state and ends, and these moves are labelled with the commands that do
so. All other moves have no label. The labels of several moves, one after the other, are a history
of the passes (`Device.Moves`). A frame without a pass into the screen gets one as it is committed,
so its history has a pass that was not asked for.

## Failures

A move that fails halfway is a move of its own. `stall` is a frame that could not be begun or handed
over, and `misbind` is a draw state that was bound as far as its descriptor set, which could not be
made. A failure that leaves no trace beside the call is `outsideFrames`.
-/

namespace RenderTargets.Vulkan

open StepWith Run

/-! ### Hosts -/

/-- The host made the calls, the latest first, and objects of these kinds were handed out. -/
structure Host.Gains (k : Host) (made : List ObjectKind) (l : List Call) (k' : Host) : Prop where
  /-- The calls. -/
  calls : k'.driver.calls = l ++ k.driver.calls
  /-- The objects. -/
  made : k'.driver.made = made ++ k.driver.made

/-- The call is a step of the slot in which nothing is recorded or handed over. -/
def Call.IsStepOf (f : FrameSlot) : Call → Prop
  | failed name .. => name ≠ .allocateDescriptorSets
  | waitForFence _ | resetDescriptorPool _ | endCommandBuffer _ | resetFence _ => True
  | resetCommandBuffer b | beginCommandBuffer b => b = f.commands
  | _ => False

/-- The command binds nothing, and begins or ends nothing. -/
def Recorded.IsPlain : Recorded → Prop
  | viewport _ | scissor _ | pushConstants .. | draw .. | drawIndexed .. | clearAttachments .. =>
    True
  | _ => False

/-! ### Parts of a device -/

/-- The screen is built anew, asked for an image, or shows one. -/
inductive Swapchain.Works (ctx : Context) (size : Extent) (s t : Swapchain × Host) : Prop
  /-- It is built anew. -/
  | rebuild (run : (rebuild ctx size).settle s = some t)
  /-- It is asked for an image. -/
  | acquire {n : ℕ} (run : (acquire n).settle s = some t)
  /-- It shows an image. -/
  | present {index : ℕ} (run : (present ctx index).settle s = some t)

/-- The commands that bind the buffers of a mesh, the latest first. -/
def Mesh.binds (m : Mesh) : List Recorded :=
  (m.indices.map fun (u, code) ↦ .bindIndices u.buffer code).toList ++
    [.bindVertices m.vertices.buffer]

/-- How the views are written into a set, one for each binding. -/
def Pipeline.writes (p : Pipeline) (sampler : Object .sampler) (set : Object .descriptorSet)
    (views : List (Object .view)) : List DescriptorWrite :=
  (p.bindings.zip views).map fun (binding, view) ↦ { set, binding, sampler, view }

/-- The calls that bind a pipeline and a mesh. -/
def FrameSlot.binds (f : FrameSlot) (p : Pipeline) (m : Mesh) : List Call :=
  (m.binds ++ [Recorded.bindPipeline p.pipeline]).map (.record f.commands)

/-- How a pipeline gets a set for the views, after `n` sets were made, and with which calls. -/
inductive FrameSlot.Fetches (f : FrameSlot) (p : Pipeline) (sampler : Object .sampler)
    (views : List (Object .view)) (n : ℕ) : List ObjectKind → List Call → Prop
  /-- It needs none. -/
  | unneeded (needs : p.bindings = []) : Fetches f p sampler views n [] []
  /-- It is made, written and bound. -/
  | made (needs : p.bindings ≠ []) : Fetches f p sampler views n [.descriptorSet]
      [.record f.commands (.bindSet p.layout ⟨n + 1⟩), .updateSets (p.writes sampler ⟨n + 1⟩ views),
        .allocateDescriptorSet ⟨n + 1⟩ f.pool p.setLayout]

/-- The pass with a draw state in use. -/
def ActivePass.use (a : ActivePass) (state : DrawState) : ActivePass :=
  { a with pipeline := some state.pipeline, mesh := some state.mesh }

namespace Device

/-- The pass into the screen. -/
def screenPass (d : Device) (recording : Bool) : ActivePass :=
  { extent := d.screen.extent
    signature := ⟨1, d.screen.colorFormat, some screenDepthFormat, 1⟩
    attachments := []
    resolves := false
    recording }

/-- The commands that begin a pass, the latest first. -/
def beginsOf (a : ActivePass) (t : Target) (viewport : Viewport) : List Recorded :=
  [.scissor a.extent.rect, .viewport viewport,
    .beginPass ⟨t.pass, t.framebuffer, a.extent.rect, t.clears⟩]

/-- How a pass begins with an action, and with which target. -/
inductive Enters (d : Device) (action : PassAction) :
    Option PassId → ActivePass → Option Target → Prop
  /-- It is a pass into textures. -/
  | offscreen {id a t} (target : d.offscreenTarget id action = .ok (a, t)) :
      Enters d action (some id) a (some t)
  /-- It is the pass into the screen, with an image. -/
  | screen {framebuffer clears} (listed : framebuffer ∈ d.screen.framebuffers) :
      Enters d action none (d.screenPass true) (some ⟨d.screen.renderPass, framebuffer, clears⟩)
  /-- It is the pass into the screen, without an image. -/
  | untargeted : Enters d action none (d.screenPass false) none

/-- The texture can be sampled, by the view. -/
def Samples (d : Device) (id : TextureId) (v : Object .view) : Prop :=
  ∃ t, d.textures.get? id = some t ∧ t.isSampleable = true ∧ t.sampledView? = some v

/-- The draw state fits the pass, and this is what it is made of. -/
structure Fits (d : Device) (a : ActivePass) (state : DrawState) (p : Pipeline) (m : Mesh)
    (views : List (Object .view)) : Prop where
  /-- The pipeline. -/
  pipeline : d.pipelines.get? state.pipeline = some p
  /-- The mesh. -/
  mesh : d.meshes.get? state.mesh = some m
  /-- What is sampled. -/
  sampled : List.Forall₂ d.Samples state.textures views
  /-- There is a view for each binding. -/
  enough : p.bindings.length ≤ views.length
  /-- The pass renders into nothing that is sampled. -/
  apart : ∀ id ∈ state.textures, id ∉ a.attachments
  /-- The pipeline can be used in the pass. -/
  signature : p.signature = a.signature

/-- The device after its pass. -/
def afterPass (d : Device) (a : ActivePass) : Device :=
  { d with
    active := none
    textures := if a.resolves then a.attachments.foldl markResolved d.textures else d.textures }

/-- A resource is made and put into its store. -/
inductive Stores (d : Device) (k : Host) : Device → Host → Prop
  /-- A texture. -/
  | texture {t x id textures k'} (run : Texture.create d.context t k = .ok x k')
      (stored : d.textures.insert? x = some (id, textures)) : Stores d k { d with textures } k'
  /-- A mesh. -/
  | mesh {m x id meshes k'} (run : Mesh.create m k = .ok x k')
      (stored : d.meshes.insert? x = some (id, meshes)) : Stores d k { d with meshes } k'
  /-- A shader. -/
  | shader {m x id shaders k'} (run : Shader.create d.context m k = .ok x k')
      (stored : d.shaders.insert? x = some (id, shaders)) : Stores d k { d with shaders } k'
  /-- A pipeline, of a shader. -/
  | pipeline {p s x id pipelines k'} (found : d.shaders.get? p.shader = some s)
      (run : Pipeline.create d.context p s k = .ok x k')
      (stored : d.pipelines.insert? x = some (id, pipelines)) : Stores d k { d with pipelines } k'
  /-- A pass. -/
  | pass {p x id passes k'}
      (run : Pass.create d.context p d.textures d.capabilities.maxColors k = .ok x k')
      (stored : d.passes.insert? x = some (id, passes)) : Stores d k { d with passes } k'

/-! ### Moves -/

/-- What is recorded in a pass of the device without binding anything. -/
inductive Records (d : Device) (a : ActivePass) : Recorded → Prop
  /-- A rectangle to draw to. -/
  | viewport {rect topLeft v} (edges : flippedViewport? rect topLeft a.extent.height = some v) :
      Records d a (.viewport v)
  /-- Uniforms that the pipeline of the pass takes. -/
  | uniforms {id p stage data} (used : a.pipeline = some id) (found : d.pipelines.get? id = some p)
      (declared : Flags.contains p.uniformStages (stageFlags stage) = true)
      (room : data.length ≤ p.uniformSize.toNat) (whole : data.length % 4 = 0) :
      Records d a (.pushConstants p.layout p.uniformStages data)
  /-- A group of the mesh of the pass. -/
  | draw {id m g r} (used : a.mesh = some id) (found : d.meshes.get? id = some m)
      (listed : g ∈ m.groups)
      (drawn : r = if m.indices.isSome then .drawIndexed g.count g.base else .draw g.count g.base) :
      Records d a r
  /-- Rectangles to clear, as far as they lie in the target. -/
  | clear {attachments color rects parts} (clip : clearRects? a.extent rects = some parts) :
      Records d a (.clearAttachments attachments color parts)

theorem Records.isPlain {d : Device} {a : ActivePass} {r : Recorded} (h : d.Records a r) :
    r.IsPlain := by
  cases h with
  | viewport | uniforms | clear => trivial
  | @draw _ m _ _ _ _ _ drawn =>
    rw [drawn]
    split <;> trivial

/-- What a device does in one go, labelled with the command if it begins a pass, binds a draw state
or ends a pass. -/
inductive Move : List GraphicsDevice.Command → Device × Host → Device × Host → Prop
  /-- The host does something outside frames. -/
  | outsideFrames {d k k'} (grows : k.driver.Grows d.context.uploadPool k'.driver) :
      Move [] (d, k) (d, k')
  /-- The device notes something. -/
  | note {d k g windowSize screen quit} (marked : screen = d.screen ∨ screen = d.screen.mark) :
      Move [] (d, k) ({ d with frame := d.frame.map g, windowSize, screen, quit }, k)
  /-- A resource is made. -/
  | make {d k d' k'} (stores : Stores d k d' k') : Move [] (d, k) (d', k')
  /-- A resource is released. -/
  | release {d k id d' drop k'} (idle : d.frame = none) (removed : d.remove? id = some (d', drop))
      (grows : k.driver.Grows d.context.uploadPool k'.driver) : Move [] (d, k) (d', k')
  /-- Something is done with the screen. -/
  | screen {d k screen k'} (outside : d.active = none)
      (works : Swapchain.Works d.context d.windowSize (d.screen, k) (screen, k')) :
      Move [] (d, k) ({ d with screen }, k')
  /-- A frame begins. -/
  | begin {d k f k'} (outside : d.active = none) (idle : d.frame = none)
      (slot : d.slots[d.slotIndex]? = some f)
      (gains : k.Gains [] [.beginCommandBuffer f.commands, .resetCommandBuffer f.commands,
        .resetDescriptorPool f.pool, .waitForFence f.fence] k') :
      Move [] (d, k) ({ d with frame := some {} }, k')
  /-- A frame is not begun or handed over after all. -/
  | stall {d k f l k'} (outside : d.active = none) (slot : d.slots[d.slotIndex]? = some f)
      (gains : k.Gains [] l k') (steps : ∀ c ∈ l, c.IsStepOf f) :
      Move [] (d, k) ({ d with frame := none }, k')
  /-- The frame is handed over. -/
  | submit {d k f sync k'} (outside : d.active = none) (frame : d.frame.isSome = true)
      (slot : d.slots[d.slotIndex]? = some f)
      (gains : k.Gains [] [.submit d.context.queue (f.submission sync) f.fence,
        .resetFence f.fence, .endCommandBuffer f.commands] k') :
      Move [] (d, k) ({ d with frame := none }, k')
  /-- The next frame will have the next slot. -/
  | next {d k} (outside : d.active = none) (idle : d.frame = none) :
      Move [] (d, k) ({ d with slotIndex := (d.slotIndex + 1) % d.slots.length }, k)
  /-- A pass begins. -/
  | enter {d k pass action a t f viewport k'} (outside : d.active = none)
      (frame : d.frame.isSome = true) (slot : d.slots[d.slotIndex]? = some f)
      (enters : d.Enters action pass a (some t))
      (gains : k.Gains [] ((beginsOf a t viewport).map (.record f.commands)) k') :
      Move [.beginPass pass action] (d, k) ({ d with active := some a }, k')
  /-- A pass without a target begins. -/
  | enterUntargeted {d k pass action a} (outside : d.active = none) (frame : d.frame.isSome = true)
      (enters : d.Enters action pass a none) :
      Move [.beginPass pass action] (d, k) ({ d with active := some a }, k)
  /-- A command is recorded that binds nothing. -/
  | record {d k a f r k'} (active : d.active = some a) (recording : a.recording = true)
      (slot : d.slots[d.slotIndex]? = some f) (records : d.Records a r)
      (gains : k.Gains [] [.record f.commands r] k') : Move [] (d, k) (d, k')
  /-- A draw state is bound. -/
  | bind {d k a state p m views f made l k'} (active : d.active = some a)
      (recording : a.recording = true) (slot : d.slots[d.slotIndex]? = some f)
      (fits : d.Fits a state p m views)
      (fetches : f.Fetches p d.sampler views (k.driver.made.count .descriptorSet) made l)
      (gains : k.Gains made (l ++ f.binds p m) k') :
      Move [.applyDrawState state] (d, k) ({ d with active := some (a.use state) }, k')
  /-- A draw state is bound but for its set. The command fails, and has no label. -/
  | misbind {d k a state p m views f code k'} (active : d.active = some a)
      (recording : a.recording = true) (slot : d.slots[d.slotIndex]? = some f)
      (fits : d.Fits a state p m views) (needs : p.bindings ≠ [])
      (gains : k.Gains [] (.failed .allocateDescriptorSets
        (.allocateDescriptorSet .null f.pool p.setLayout) code :: f.binds p m) k') :
      Move [] (d, k) ({ d with active := some (a.use state) }, k')
  /-- A draw state is taken in a pass without a target. -/
  | bindUntargeted {d k a state p m views k'} (active : d.active = some a)
      (untargeted : a.recording = false)
      (fits : d.Fits a state p m views) (rests : k'.driver = k.driver) :
      Move [.applyDrawState state] (d, k) ({ d with active := some (a.use state) }, k')
  /-- The pass ends. -/
  | leave {d k a f k'} (active : d.active = some a) (recording : a.recording = true)
      (slot : d.slots[d.slotIndex]? = some f)
      (gains : k.Gains [] [.record f.commands .endPass] k') :
      Move [.endPass] (d, k) (d.afterPass a, k')
  /-- A pass without a target ends. -/
  | leaveUntargeted {d k a} (active : d.active = some a) (untargeted : a.recording = false) :
      Move [.endPass] (d, k) (d.afterPass a, k)

/-- Moves one after the other, with their labels. -/
inductive Moves (s : Device × Host) : List GraphicsDevice.Command → Device × Host → Prop
  /-- There is none. -/
  | refl : Moves s [] s
  /-- One more. -/
  | step {cs cs' t u} (moves : Moves s cs t) (move : Move cs' t u) : Moves s (cs ++ cs') u

variable {d : Device} {k k' : Host} {s t u s₀ : Device × Host}
  {cs : List GraphicsDevice.Command}

/-- A move without a label. -/
theorem Moves.unlabelled (h : Moves s cs t) (move : Move [] t u) : Moves s cs u :=
  List.append_nil cs ▸ h.step move

/-- What every move keeps, all of them keep. -/
theorem Moves.keeps {I : Device × Host → Prop} (h : Moves s cs t)
    (hI : ∀ {cs s t}, Move cs s t → I s → I t) (hs : I s) : I t := by
  induction h with
  | refl => exact hs
  | step _ move ih => exact hI move ih

theorem Moves.outsideFrames (h : Moves s₀ cs (d, k))
    (hk : k.driver.Grows d.context.uploadPool k'.driver) : Moves s₀ cs (d, k') :=
  h.unlabelled (.outsideFrames hk)

theorem Moves.congr (h : Moves s₀ cs (d, k)) (hk : k'.driver = k.driver) : Moves s₀ cs (d, k') :=
  h.outsideFrames (hk ▸ (Driver.Adds.refl _).toGrows)

/-- The journal may be another one. -/
theorem Moves.journal (h : Moves s₀ cs s) (j : Log.Journal) :
    Moves s₀ cs (Log.HasJournal.journal.set j s) :=
  h.congr (d := s.1) rfl

end Device

variable {k k' k'' : Host} {made : List ObjectKind} {l : List Call} {f : FrameSlot} {ctx : Context}
  {name : CallName} {c : Call} {action : String} {r : Recorded}

/-! ### Triples of calls -/

namespace Host.Gains

theorem refl (k : Host) : k.Gains [] [] k := ⟨rfl, rfl⟩

/-- Only the driver counts. -/
theorem congr (h : k.Gains made l k') (hd : k''.driver.calls = k'.driver.calls)
    (hm : k''.driver.made = k'.driver.made) : k.Gains made l k'' :=
  ⟨hd.trans h.calls, hm.trans h.made⟩

theorem push (h : k.Gains made l k') (c : Call) :
    k.Gains made (c :: l) { k' with driver := k'.driver.push c } :=
  ⟨congrArg (c :: ·) h.calls, h.made⟩

/-- What is not among the calls that were made was called before. -/
theorem call_before {later past : List Call} (h : k.Gains made l k') (hl : c ∉ l)
    (hcalls : k'.driver.calls = later ++ c :: past) :
    ∃ earlier, k.driver.calls = earlier ++ c :: past :=
  exists_append_of_notMem hl (h.calls.symm.trans hcalls)

end Host.Gains

/-- What is recorded outside frames are preparations, so any other command was recorded before. -/
theorem Driver.Grows.record_before {uploads : Object .commandPool} {b : Object .commandBuffer}
    {later past : List Call} (h : k.driver.Grows uploads k'.driver) (hr : ¬r.IsPreparation)
    (hcalls : k'.driver.calls = later ++ .record b r :: past) :
    ∃ earlier, k.driver.calls = earlier ++ .record b r :: past := by
  obtain ⟨l, hl, houtside⟩ := h.calls
  exact exists_append_of_notMem (fun hmem ↦ hr (houtside.of_record hmem).2) (hl.symm.trans hcalls)

theorem meets_pushGains {E : EngineError → Host → Prop} :
    Meets (k.Gains made l) (Run.changeDriver (·.push c)) (fun _ ↦ k.Gains made (c :: l)) E :=
  meets_changeDriver fun _ h ↦ h.push c

theorem meets_recordGains {b : Object .commandBuffer} {E : EngineError → Host → Prop} :
    Meets (k.Gains made l) (Run.record b r) (fun _ ↦ k.Gains made (.record b r :: l)) E :=
  meets_pushGains

/-- A call that hands out nothing is made, or fails. -/
theorem meets_performGains :
    Meets (k.Gains made l) (work action (Driver.perform name c))
      (fun _ ↦ k.Gains made (c :: l)) fun _ k' ↦
        ∃ code, k.Gains made (.failed name c code :: l) k' := by
  refine meets_work (fun k' _ e h he ↦ ?_) (fun k' code e h he ↦ ?_) fun k' j h ↦ ?_
  · rw [Driver.perform_ok he]
    have htallied : k.Gains made l { k' with driver := (k'.driver.tally name).2 } := h.congr rfl rfl
    exact htallied.push c
  · rw [Driver.perform_error he]
    have htallied : k.Gains made l { k' with driver := (k'.driver.tally name).2 } := h.congr rfl rfl
    exact ⟨code, htallied.push _⟩
  · obtain ⟨code, h⟩ := h
    exact ⟨code, h.congr rfl rfl⟩

namespace FrameSlot

/-- The slot did some of its steps. -/
def Stepped (f : FrameSlot) (k k' : Host) : Prop :=
  ∃ l, k.Gains [] l k' ∧ ∀ c ∈ l, c.IsStepOf f

/-- A call of a slot is one more of its steps, also if it fails. -/
theorem meets_performStep (hl : ∀ c ∈ l, c.IsStepOf f) (hname : name ≠ .allocateDescriptorSets) :
    Meets (k.Gains [] l) (work action (Driver.perform name c)) (fun _ ↦ k.Gains [] (c :: l))
      fun _ ↦ f.Stepped k := by
  refine meets_performGains.mono (fun _ h ↦ h) (fun _ _ h ↦ h) ?_
  rintro _ k' ⟨code, h⟩
  exact ⟨_, h, List.forall_mem_cons.2 ⟨hname, hl⟩⟩

theorem meets_beginGains :
    Meets (k.Gains [] []) f.begin
      (fun _ ↦ k.Gains [] [.beginCommandBuffer f.commands, .resetCommandBuffer f.commands,
        .resetDescriptorPool f.pool, .waitForFence f.fence])
      fun _ ↦ f.Stepped k := by
  refine .bind (meets_performStep (by simp) nofun) fun _ ↦ ?_
  refine .bind (meets_performStep (by simp [Call.IsStepOf]) nofun) fun _ ↦ ?_
  refine .bind (meets_performStep (by simp [Call.IsStepOf]) nofun) fun _ ↦ ?_
  exact meets_performStep (by simp [Call.IsStepOf]) nofun

theorem meets_submitGains {sync : Option (Object .semaphore × Object .semaphore)} :
    Meets (k.Gains [] []) (f.submit ctx sync)
      (fun _ ↦ k.Gains [] [.submit ctx.queue (f.submission sync) f.fence,
        .resetFence f.fence, .endCommandBuffer f.commands])
      fun _ ↦ f.Stepped k := by
  refine .bind (meets_performStep (by simp) nofun) fun _ ↦ ?_
  refine .bind (meets_performStep (by simp [Call.IsStepOf]) nofun) fun _ ↦ ?_
  exact meets_performStep (by simp [Call.IsStepOf]) nofun

/-- A set is made, or cannot be made. -/
theorem meets_allocateSetGains {layout : Object .setLayout} :
    Meets (k.Gains [] l) (f.allocateSet layout)
      (fun set k' ↦ set = ⟨k.driver.made.count .descriptorSet + 1⟩ ∧
        k.Gains [.descriptorSet] (.allocateDescriptorSet set f.pool layout :: l) k')
      fun _ k' ↦ ∃ code, k.Gains [] (.failed .allocateDescriptorSets
        (.allocateDescriptorSet .null f.pool layout) code :: l) k' := by
  refine meets_work (fun k' set e h he ↦ ?_) (fun k' code e h he ↦ ?_) fun k' j h ↦ ?_
  · obtain ⟨rfl, rfl⟩ := Driver.create_ok he
    have hmade : k'.driver.made = k.driver.made := h.made
    refine ⟨?_, congrArg (_ :: ·) h.calls, congrArg (_ :: ·) hmade⟩
    show (⟨k'.driver.made.count _ + 1⟩ : Object .descriptorSet) = _
    rw [hmade]
  · rw [Driver.create_error he]
    have htallied : k.Gains [] l
        { k' with driver := (k'.driver.tally .allocateDescriptorSets).2 } := h.congr rfl rfl
    exact ⟨code, htallied.push _⟩
  · obtain ⟨code, h⟩ := h
    exact ⟨code, h.congr rfl rfl⟩

end FrameSlot

theorem Mesh.meets_bindGains {m : Mesh} {b : Object .commandBuffer}
    {E : EngineError → Host → Prop} :
    Meets (k.Gains made l) (m.bind b)
      (fun _ ↦ k.Gains made (m.binds.map (.record b) ++ l)) E := by
  refine .bind meets_recordGains fun _ ↦ ?_
  rw [Mesh.binds]
  cases m.indices with
  | none => exact .pure fun _ h ↦ h
  | some i => exact meets_recordGains

end RenderTargets.Vulkan
