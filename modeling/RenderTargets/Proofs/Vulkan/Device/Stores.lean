import RenderTargets.Proofs.Vulkan.Backing
import RenderTargets.Proofs.Vulkan.Device.Accepts
/-!
# What commands do to the stores of a device

Only commands that make or release something change what a device stores. All others leave the
stores as they are, **however they end and whatever the driver lets fail**, but for textures that a
pass marks as resolved; this is `Device.Leaves`. What a command does that is taken is
`Device.Updates`, with one constructor for each resource that is made, and `meets_updates` says that
there is nothing else. A command that makes or releases something and fails leaves the device as it
was.

How a resource is made is not looked at here. The lemmas `makes_createTexture` and so on carry any
triple of the making over to the device, so that what is known of a new resource is known of it in
its store.
-/

namespace RenderTargets.Vulkan.Device

open StepWith Run

variable {d d' d'' : Device} {α : Type} {P : Host → Prop} {c : GraphicsDevice.Command}

/-- The stores are the same, but for marks of textures. -/
structure Leaves (d d' : Device) : Prop where
  /-- Some textures were resolved. -/
  textures : ∃ ids : List TextureId, d'.textures = ids.foldl markResolved d.textures
  /-- Meshes are the same. -/
  meshes : d'.meshes = d.meshes
  /-- Shaders are the same. -/
  shaders : d'.shaders = d.shaders
  /-- Pipelines are the same. -/
  pipelines : d'.pipelines = d.pipelines
  /-- Passes are the same. -/
  passes : d'.passes = d.passes

namespace Leaves

theorem refl (d : Device) : d.Leaves d := ⟨⟨[], rfl⟩, rfl, rfl, rfl, rfl⟩

theorem trans (h : d.Leaves d') (h' : d'.Leaves d'') : d.Leaves d'' where
  textures := by
    obtain ⟨ids, hids⟩ := h.textures
    obtain ⟨ids', hids'⟩ := h'.textures
    exact ⟨ids ++ ids', by rw [hids', hids, List.foldl_append]⟩
  meshes := h'.meshes.trans h.meshes
  shaders := h'.shaders.trans h.shaders
  pipelines := h'.pipelines.trans h.pipelines
  passes := h'.passes.trans h.passes

end Leaves

/-- The stores are as the device left them. -/
abbrev Left (d : Device) (s : Device × Host) : Prop := d.Leaves s.1

/-! ### Commands that leave the stores alone -/

/-- What is done on the host is not done to the device. -/
theorem leaves_lift {x : Run α} : Keeps (Left d) (liftM x : DeviceStep α) :=
  Meets.snd fun s ↦ Keeps.const (p := d.Leaves s)

theorem leaves_change {g : Device → Device} (hg : ∀ d : Device, d.Leaves (g d)) :
    Keeps (Left d) (RunOn.change g) :=
  Meets.update fun s hs ↦ hs.trans (hg s.1)

theorem leaves_onScreen {x : RunOn Swapchain α} : Keeps (Left d) (onScreen x) :=
  .within fun s hs ↦ (Keeps.const (p := d.Leaves s.1)).mono (fun _ _ ↦ hs)
    (fun _ _ h ↦ h.trans ⟨⟨[], rfl⟩, rfl, rfl, rfl, rfl⟩)
    fun _ _ h ↦ h.trans ⟨⟨[], rfl⟩, rfl, rfl, rfl, rfl⟩

theorem leaves_slot : Keeps (Left d) slot :=
  meets_look fun _ ↦ .orTrap fun _ _ _ hs ↦ hs

theorem leaves_record {r : Recorded} : Keeps (Left d) (record r) :=
  .bind leaves_slot fun _ ↦ leaves_lift

theorem leaves_ensureFrame : Keeps (Left d) ensureFrame := by
  refine meets_look fun _ ↦ ?_
  refine .ite (fun _ ↦ ?_) fun _ ↦ ?_
  · refine .bind leaves_slot fun _ ↦ ?_
    exact .bind leaves_lift fun _ ↦ leaves_change fun _ ↦ ⟨⟨[], rfl⟩, rfl, rfl, rfl, rfl⟩
  · exact .pure fun _ hs ↦ hs

theorem leaves_changeFrame {g : FrameState → FrameState} : Keeps (Left d) (changeFrame g) :=
  leaves_change fun _ ↦ ⟨⟨[], rfl⟩, rfl, rfl, rfl, rfl⟩

theorem leaves_screenImage : Keeps (Left d) screenImage := by
  have htake : ∀ n, Keeps (Left d) (do
      let image ← onScreen (Swapchain.acquire n)
      changeFrame ({ · with image })
      return image) := fun n ↦
    .bind leaves_onScreen fun _ ↦ .bind leaves_changeFrame fun _ ↦ .pure fun _ hs ↦ hs
  refine meets_look fun _ ↦ ?_
  split
  · exact .refuse fun _ _ hs ↦ hs
  · refine .ite (fun _ ↦ .pure fun _ hs ↦ hs) fun _ ↦ .bind leaves_changeFrame fun _ ↦ ?_
    refine .ite (fun _ ↦ ?_) fun _ ↦ htake _
    refine .bind leaves_onScreen fun _ ↦ meets_look fun _ ↦ ?_
    exact .ite (fun _ ↦ .pure fun _ hs ↦ hs) fun _ ↦ htake _

theorem leaves_screenTarget {action : PassAction} : Keeps (Left d) (screenTarget action) := by
  refine .bind leaves_changeFrame fun _ ↦ ?_
  refine .bind leaves_screenImage fun image ↦ ?_
  refine meets_look fun _ ↦ ?_
  cases image with
  | none => exact .pure fun _ hs ↦ hs
  | some index => exact .orTrap_bind fun _ _ ↦ .pure fun _ hs ↦ hs

theorem leaves_recordBegin {extent : Extent} {target : Target} :
    Keeps (Left d) (recordBegin extent target) :=
  .orTrap_bind fun _ _ ↦ .bind leaves_record fun _ ↦ .bind leaves_record fun _ ↦ leaves_record

/-- The pass becomes the active one after its beginning was recorded. -/
theorem leaves_enterPass {active : ActivePass} (target : Option Target) :
    Keeps (Left d) (do
      if let some t := target then recordBegin active.extent t
      RunOn.change ({ · with active := some active }) : DeviceStep Unit) := by
  have hchange : Keeps (Left d) (RunOn.change ({ · with active := some active })) :=
    leaves_change fun _ ↦ ⟨⟨[], rfl⟩, rfl, rfl, rfl, rfl⟩
  cases target with
  | none => exact hchange
  | some t => exact .bind leaves_recordBegin fun _ ↦ hchange

theorem leaves_beginPass {pass : Option PassId} {action : PassAction} :
    Keeps (Left d) (beginPass pass action) := by
  refine meets_look fun _ ↦ .ite (fun _ ↦ .refuse_bind fun _ _ hs ↦ hs) fun _ ↦ ?_
  cases pass with
  | none =>
    refine .bind leaves_ensureFrame fun _ ↦ ?_
    exact .bind leaves_screenTarget fun ⟨active, target⟩ ↦ leaves_enterPass target
  | some id =>
    refine .bind Keeps.ofChecked fun ⟨active, target⟩ ↦ ?_
    exact .bind leaves_ensureFrame fun _ ↦ leaves_enterPass (some target)

theorem leaves_endPass : Keeps (Left d) endPass := by
  refine meets_look fun _ ↦ ?_
  split
  · exact .refuse fun _ _ hs ↦ hs
  · next a _ =>
    have hresolve : Keeps (Left d) (if a.resolves then
        RunOn.change fun d ↦ { d with textures := a.attachments.foldl markResolved d.textures }
        else pure () : DeviceStep Unit) :=
      .ite (fun _ ↦ leaves_change fun _ ↦ ⟨⟨_, rfl⟩, rfl, rfl, rfl, rfl⟩)
        fun _ ↦ .pure fun _ hs ↦ hs
    refine .bind (leaves_change fun _ ↦ ⟨⟨[], rfl⟩, rfl, rfl, rfl, rfl⟩) fun _ ↦ ?_
    exact .ite (fun _ ↦ .bind leaves_record fun _ ↦ hresolve) fun _ ↦ hresolve

theorem leaves_activePass {command : String} : Keeps (Left d) (activePass command) := by
  refine meets_look fun _ ↦ ?_
  split
  · exact .pure fun _ hs ↦ hs
  · exact .refuse fun _ _ hs ↦ hs

theorem leaves_applyViewport {rect : Rect} {topLeft : Bool} :
    Keeps (Left d) (applyViewport rect topLeft) := by
  refine .bind leaves_activePass fun _ ↦ ?_
  exact .ite (fun _ ↦ .orTrap_bind fun _ _ ↦ leaves_record) fun _ ↦ .pure fun _ hs ↦ hs

theorem leaves_sampledViews {ids : List TextureId} : Keeps (Left d) (sampledViews ids) := by
  induction ids with
  | nil => exact .pure fun _ hs ↦ hs
  | cons id ids ih =>
    refine meets_look fun _ ↦ ?_
    split
    · exact .fail fun _ hs ↦ hs
    · exact .ite (fun _ ↦ .refuse_bind fun _ _ hs ↦ hs) fun _ ↦ .bind ih fun _ ↦
        .pure fun _ hs ↦ hs

theorem leaves_bindViews {p : Pipeline} {views : List (Object .view)} :
    Keeps (Left d) (bindViews p views) := by
  refine .ite (fun _ ↦ .pure fun _ hs ↦ hs) fun _ ↦ ?_
  refine .bind leaves_slot fun _ ↦ ?_
  refine meets_look fun _ ↦ ?_
  exact .bind leaves_lift fun _ ↦ .bind leaves_lift fun _ ↦ leaves_record

theorem leaves_applyDrawState {state : DrawState} : Keeps (Left d) (applyDrawState state) := by
  refine meets_look fun _ ↦ .orFail_bind (fun pipeline _ ↦ ?_) fun _ hs ↦ hs
  refine .orFail_bind (fun mesh _ ↦ .bind leaves_sampledViews fun views ↦ ?_) fun _ hs ↦ hs
  refine .ite (fun _ ↦ .refuse_bind fun _ _ hs ↦ hs) fun _ ↦ .bind leaves_activePass fun _ ↦ ?_
  refine .ite (fun _ ↦ .refuse_bind fun _ _ hs ↦ hs) fun _ ↦ ?_
  refine .ite (fun _ ↦ .refuse_bind fun _ _ hs ↦ hs) fun _ ↦ ?_
  refine .bind (leaves_change fun _ ↦ ⟨⟨[], rfl⟩, rfl, rfl, rfl, rfl⟩) fun _ ↦ ?_
  refine .ite (fun _ ↦ ?_) fun _ ↦ ?_
  · refine .bind leaves_record fun _ ↦ ?_
    exact .bind leaves_slot fun _ ↦ .bind leaves_lift fun _ ↦ leaves_bindViews
  · exact .pure fun _ hs ↦ hs

theorem leaves_applyUniforms {stage : ShaderStage} {data : List UInt8} :
    Keeps (Left d) (applyUniforms stage data) := by
  refine .bind leaves_activePass fun _ ↦ ?_
  split
  · exact .refuse fun _ _ hs ↦ hs
  · refine meets_look fun _ ↦ .orFail_bind (fun _ _ ↦ ?_) fun _ hs ↦ hs
    refine .ite (fun _ ↦ .refuse_bind fun _ _ hs ↦ hs) fun _ ↦ ?_
    refine .ite (fun _ ↦ .refuse_bind fun _ _ hs ↦ hs) fun _ ↦ ?_
    exact .ite (fun _ ↦ leaves_record) fun _ ↦ .pure fun _ hs ↦ hs

theorem leaves_draw {group : ℕ} : Keeps (Left d) (draw group) := by
  refine .bind leaves_activePass fun _ ↦ ?_
  split
  · exact .refuse fun _ _ hs ↦ hs
  · refine meets_look fun _ ↦ .orFail_bind (fun _ _ ↦ ?_) fun _ hs ↦ hs
    split
    · exact .refuse fun _ _ hs ↦ hs
    · exact .ite (fun _ ↦ .bind leaves_slot fun _ ↦ leaves_lift) fun _ ↦ .pure fun _ hs ↦ hs

theorem leaves_fillRects {color : Vec4} {rects : List Rect} :
    Keeps (Left d) (fillRects color rects) := by
  refine .bind leaves_activePass fun _ ↦ ?_
  refine .ite (fun _ ↦ .orTrap_bind fun _ _ ↦ ?_) fun _ ↦ .pure fun _ hs ↦ hs
  exact .ite (fun _ ↦ leaves_record) fun _ ↦ .pure fun _ hs ↦ hs

theorem leaves_handOver : Keeps (Left d) handOver := by
  have hnext : Keeps (Left d)
      (RunOn.change fun d ↦ { d with slotIndex := (d.slotIndex + 1) % d.slots.length }) :=
    leaves_change fun _ ↦ ⟨⟨[], rfl⟩, rfl, rfl, rfl, rfl⟩
  refine meets_look fun _ ↦ ?_
  refine .bind (leaves_change fun _ ↦ ⟨⟨[], rfl⟩, rfl, rfl, rfl, rfl⟩) fun _ ↦ ?_
  refine .bind leaves_slot fun _ ↦ ?_
  split
  · exact .bind leaves_lift fun _ ↦ hnext
  · exact .orTrap_bind fun _ _ ↦ .bind leaves_lift fun _ ↦ .bind leaves_onScreen fun _ ↦ hnext

theorem leaves_commitFrame : Keeps (Left d) commitFrame := by
  refine meets_look fun _ ↦ ?_
  refine .ite (fun _ ↦ .refuse_bind fun _ _ hs ↦ hs) fun _ ↦ ?_
  refine .bind leaves_ensureFrame fun _ ↦ ?_
  refine meets_look fun _ ↦ ?_
  refine .ite (fun _ ↦ ?_) fun _ ↦ ?_
  · exact .bind leaves_beginPass fun _ ↦ .bind leaves_endPass fun _ ↦ leaves_handOver
  · exact leaves_handOver

theorem leaves_requestQuit : Keeps (Left d) requestQuit :=
  leaves_change fun _ ↦ ⟨⟨[], rfl⟩, rfl, rfl, rfl, rfl⟩

/-! ### Making and releasing -/

/-- What is known of a new texture is known of it in the store. -/
theorem makes_createTexture {t : TextureDesc} {Q : Texture → Host → Prop}
    (h : Meets P (Texture.create d.context t) Q fun _ ↦ P)
    (hQ : ∀ x k j, Q x k → Q x { k with journal := j }) :
    Meets (RunOn.At d P) (createTexture t)
      (fun id s ↦ ∃ x textures, d.textures.insert? x = some (id, textures) ∧
        RunOn.At { d with textures } (Q x) s) fun _ ↦ RunOn.At d P := by
  refine RunOn.meets_part_bind <| .ite (fun _ ↦ .fail_bind fun _ hs ↦ hs) fun _ ↦ ?_
  refine RunOn.meets_lift_bind h (fun _ _ hk ↦ ⟨rfl, hk⟩) fun x ↦ ?_
  refine .bind (Meets.note (Q := fun _ ↦ RunOn.At d (Q x)) fun _ _ hs ↦ ⟨hs.1, hQ _ _ _ hs.2⟩)
    fun _ ↦ ?_
  refine .orTrap_bind fun ⟨id, textures⟩ hi ↦ ?_
  refine RunOn.meets_change_bind <| .pure fun _ hs ↦ ?_
  exact ⟨x, textures, hi, hs⟩

theorem makes_createMesh {m : MeshDesc} {Q : Mesh → Host → Prop}
    (h : Meets P (Mesh.create m) Q fun _ ↦ P) :
    Meets (RunOn.At d P) (createMesh m)
      (fun id s ↦ ∃ x meshes, d.meshes.insert? x = some (id, meshes) ∧
        RunOn.At { d with meshes } (Q x) s) fun _ ↦ RunOn.At d P := by
  refine RunOn.meets_lift_bind h (fun _ _ hk ↦ ⟨rfl, hk⟩) fun x ↦ RunOn.meets_part_bind ?_
  refine .orTrap_bind fun ⟨id, meshes⟩ hi ↦ RunOn.meets_change_bind <| .pure fun _ hs ↦ ?_
  exact ⟨x, meshes, hi, hs⟩

theorem makes_createShader {m : ShaderDesc} {Q : Shader → Host → Prop}
    (h : Meets P (Shader.create d.context m) Q fun _ ↦ P) :
    Meets (RunOn.At d P) (createShader m)
      (fun id s ↦ ∃ x shaders, d.shaders.insert? x = some (id, shaders) ∧
        RunOn.At { d with shaders } (Q x) s) fun _ ↦ RunOn.At d P := by
  refine RunOn.meets_part_bind <| RunOn.meets_lift_bind h (fun _ _ hk ↦ ⟨rfl, hk⟩) fun x ↦ ?_
  refine .orTrap_bind fun ⟨id, shaders⟩ hi ↦ RunOn.meets_change_bind <| .pure fun _ hs ↦ ?_
  exact ⟨x, shaders, hi, hs⟩

theorem makes_createPipeline {p : PipelineDesc} {Q : Pipeline → Host → Prop}
    (h : ∀ shader, d.shaders.get? p.shader = some shader →
      Meets P (Pipeline.create d.context p shader) Q fun _ ↦ P) :
    Meets (RunOn.At d P) (createPipeline p)
      (fun id s ↦ ∃ x pipelines, d.pipelines.insert? x = some (id, pipelines) ∧
        RunOn.At { d with pipelines } (Q x) s) fun _ ↦ RunOn.At d P := by
  refine RunOn.meets_part_bind <| .orFail_bind (fun shader hs ↦ ?_) fun _ hs ↦ hs
  refine RunOn.meets_lift_bind (h shader hs) (fun _ _ hk ↦ ⟨rfl, hk⟩) fun x ↦ ?_
  refine .orTrap_bind fun ⟨id, pipelines⟩ hi ↦ RunOn.meets_change_bind <| .pure fun _ hs ↦ ?_
  exact ⟨x, pipelines, hi, hs⟩

theorem makes_createPass {p : PassDesc} {Q : Pass → Host → Prop}
    (h : Meets P (Pass.create d.context p d.textures d.capabilities.maxColors) Q fun _ ↦ P)
    (hQ : ∀ x k j, Q x k → Q x { k with journal := j }) :
    Meets (RunOn.At d P) (createPass p)
      (fun id s ↦ ∃ x passes, d.passes.insert? x = some (id, passes) ∧
        RunOn.At { d with passes } (Q x) s) fun _ ↦ RunOn.At d P := by
  refine RunOn.meets_part_bind <| RunOn.meets_lift_bind h (fun _ _ hk ↦ ⟨rfl, hk⟩) fun x ↦ ?_
  refine .bind (Meets.note (Q := fun _ ↦ RunOn.At d (Q x)) fun _ _ hs ↦ ⟨hs.1, hQ _ _ _ hs.2⟩)
    fun _ ↦ ?_
  refine .orTrap_bind fun ⟨id, passes⟩ hi ↦ ?_
  refine RunOn.meets_change_bind <| .pure fun _ hs ↦ ?_
  exact ⟨x, passes, hi, hs⟩

/-- A resource is taken out of its store and given up, or the device stays as it was. -/
theorem releases_destroy {id : ResourceId} {Q : Device → Host → Prop}
    (hwait : Keeps P (work "wait idle before release"
      (Driver.perform .waitDevice (.waitDevice d.context.device))))
    (hP : ∀ k j, P k → P { k with journal := j })
    (h : ∀ d' drop, d.remove? id = some (d', drop) → Meets P drop (fun _ ↦ Q d') fun _ _ ↦ False) :
    Meets (RunOn.At d P) (destroy id)
      (fun _ s ↦ ∃ d' drop, d.remove? id = some (d', drop) ∧ RunOn.At d' (Q d') s)
      fun _ ↦ RunOn.At d P := by
  refine RunOn.meets_part_bind ?_
  refine .ite (fun _ ↦ .refuse_bind fun _ _ hs ↦ ⟨hs.1, hP _ _ hs.2⟩) fun _ ↦ ?_
  refine RunOn.meets_lift_bind hwait (fun _ _ hk ↦ ⟨rfl, hk⟩) fun _ ↦ ?_
  split
  · exact .fail fun _ hs ↦ hs
  · next d' drop hr =>
    refine RunOn.meets_change_bind ?_
    exact (RunOn.meets_lift (h d' drop hr)).mono (fun _ hs ↦ hs)
      (fun _ _ hs ↦ ⟨d', drop, hr, hs⟩) fun _ _ hs ↦ hs.2.elim

/-! ### All commands -/

/-- What the stores are after a command that was taken. The trace is that at the end of the command.
-/
inductive Updates (calls : List Call) (d : Device) :
    GraphicsDevice.Command → Option ResourceId → Device → Prop
  /-- A texture was made, of images with its size and samples. -/
  | createTexture {t id x textures} (backed : x.IsBacked calls)
      (stored : d.textures.insert? x = some (id, textures)) :
      Updates calls d (.createTexture t) (some (.texture id)) { d with textures }
  /-- A mesh was made. -/
  | createMesh {m id x meshes} (stored : d.meshes.insert? x = some (id, meshes)) :
      Updates calls d (.createMesh m) (some (.mesh id)) { d with meshes }
  /-- A shader was made. -/
  | createShader {m id x shaders} (stored : d.shaders.insert? x = some (id, shaders)) :
      Updates calls d (.createShader m) (some (.shader id)) { d with shaders }
  /-- A pipeline was made. -/
  | createPipeline {p id x pipelines} (stored : d.pipelines.insert? x = some (id, pipelines)) :
      Updates calls d (.createPipeline p) (some (.pipeline id)) { d with pipelines }
  /-- A pass was made of textures that fit each other, and their images were put together. -/
  | createPass {p id parts x passes} (fit : Pass.partsOf p d.textures = .ok parts)
      (made : x.IsOf p parts) (joined : x.IsJoined d.context p parts calls)
      (stored : d.passes.insert? x = some (id, passes)) :
      Updates calls d (.createPass p) (some (.pass id)) { d with passes }
  /-- A resource was released. -/
  | destroy {id d' drop} (removed : d.remove? id = some (d', drop)) :
      Updates calls d (.destroy id) none d'
  /-- Nothing was made or released. -/
  | other {c : GraphicsDevice.Command} {d' : Device} (leaves : d.Leaves d') :
      Updates calls d c none d'

/-- A command that is taken updates the stores, and one that is refused leaves them alone. -/
theorem meets_updates :
    Meets (RunOn.At d fun _ ↦ True) c.answer (fun a s ↦ Updates s.2.driver.calls d c a s.1)
      fun _ ↦ Left d := by
  have hleft {s : Device × Host} (hs : RunOn.At d (fun _ ↦ True) s) : Left d s := hs.1 ▸ .refl d
  have hother {c : GraphicsDevice.Command} {x : DeviceStep Unit} (hx : Keeps (Left d) x) :
      Meets (RunOn.At d fun _ ↦ True) x (fun _ s ↦ Updates s.2.driver.calls d c none s.1)
        fun _ ↦ Left d :=
    hx.mono (fun _ ↦ hleft) (fun _ _ hs ↦ .other hs) fun _ _ hs ↦ hs
  cases c with
  | createTexture =>
    refine .map ((makes_createTexture Texture.backed_create fun _ _ _ h ↦ h).mono (fun _ hs ↦ hs)
      ?_ fun _ _ ↦ hleft)
    rintro id ⟨_, k⟩ ⟨x, textures, hi, rfl, hx⟩
    exact .createTexture hx hi
  | createMesh =>
    refine .map ((makes_createMesh (Q := fun _ _ ↦ True) .any).mono (fun _ hs ↦ hs) ?_
      fun _ _ ↦ hleft)
    rintro id ⟨_, k⟩ ⟨x, meshes, hi, rfl, -⟩
    exact .createMesh hi
  | createShader =>
    refine .map ((makes_createShader (Q := fun _ _ ↦ True) .any).mono (fun _ hs ↦ hs) ?_
      fun _ _ ↦ hleft)
    rintro id ⟨_, k⟩ ⟨x, shaders, hi, rfl, -⟩
    exact .createShader hi
  | createPipeline =>
    refine .map ((makes_createPipeline (Q := fun _ _ ↦ True) fun _ _ ↦ .any).mono (fun _ hs ↦ hs)
      ?_ fun _ _ ↦ hleft)
    rintro id ⟨_, k⟩ ⟨x, pipelines, hi, rfl, -⟩
    exact .createPipeline hi
  | createPass =>
    refine .map ((makes_createPass Pass.joined_create fun _ _ _ h ↦ h).mono (fun _ hs ↦ hs) ?_
      fun _ _ ↦ hleft)
    rintro id ⟨_, k⟩ ⟨x, passes, hi, rfl, parts, hparts, hmade, hjoined⟩
    exact .createPass hparts hmade hjoined hi
  | destroy id =>
    refine .map ((releases_destroy (Q := fun _ _ ↦ True) .any (fun _ _ h ↦ h) fun d' drop hr ↦
      (silent_remove? hr).meets .any).mono (fun _ hs ↦ hs) ?_ fun _ _ ↦ hleft)
    rintro _ ⟨_, k⟩ ⟨d', drop, hr, rfl, -⟩
    exact .destroy hr
  | beginPass => exact .map (hother leaves_beginPass)
  | applyViewport => exact .map (hother leaves_applyViewport)
  | applyDrawState => exact .map (hother leaves_applyDrawState)
  | applyUniforms => exact .map (hother leaves_applyUniforms)
  | draw => exact .map (hother leaves_draw)
  | fillRects => exact .map (hother leaves_fillRects)
  | endPass => exact .map (hother leaves_endPass)
  | commitFrame => exact .map (hother leaves_commitFrame)
  | requestQuit => exact .map (hother leaves_requestQuit)

end RenderTargets.Vulkan.Device
