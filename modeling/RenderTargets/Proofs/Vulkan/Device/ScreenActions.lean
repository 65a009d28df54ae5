import RenderTargets.Proofs.Vulkan.Device.CommandMoves
import RenderTargets.Proofs.Vulkan.Asking
/-!
# What a device does to its screen state

Most commands are of no consequence for the images of the screen: they keep what matters to those
(`Device.KeepsScreen`) and make calls that have nothing to do with them. What is left is to begin a
frame, to ask for an image with the first pass into the screen, and to hand the frame over; each is
one action. `Device.ActsFrom p s` says that a device got to `s` from the screen state `p` by
actions.

## Images in any order

The driver hands out the images of a swapchain one after the other. That is its own affair, so the
commands that ask for an image are taken with anything done to its images before
(`Swapchain.acquireFrom`). Asking as before gives the commands as they are
(`Event.performWith_acquire`).
-/

namespace RenderTargets.Vulkan

open StepWith Run Relation

variable {α : Type} {s₀ s t : Device × Host} {p : ScreenState}

namespace Device

/-! ### Screen states -/

/-- What of a device matters to the images of its screen. -/
def screenState (s : Device × Host) : ScreenState where
  slots := s.1.slots
  slotIndex := s.1.slotIndex
  available := s.1.screen.imageAvailable
  swapchain := s.1.screen.swapchain
  marked := s.1.screen.needsRebuild
  frame := s.1.frame.map ({ · with screenPass := false })
  calls := s.2.driver.calls

theorem screenState_eq {d : Device} {k k' : Host} {l : List Call} (h : k'.driver.calls = l) :
    screenState (d, k') = { screenState (d, k) with calls := l } := by
  subst h
  rfl

/-- The device got here by actions, if the driver was obliging. -/
structure ActsFrom (p : ScreenState) (s : Device × Host) : Prop where
  /-- The calls go on in any case. -/
  suffix : p.calls <:+ s.2.driver.calls
  /-- The actions. -/
  actions : Obliging s.2.driver.calls → ReflTransGen ScreenState.Action p (screenState s)

theorem ActsFrom.refl (s : Device × Host) : ActsFrom (screenState s) s :=
  ⟨List.suffix_refl _, fun _ ↦ .refl⟩

theorem ActsFrom.tail (h : ActsFrom p s) (hc : s.2.driver.calls <:+ t.2.driver.calls)
    (hb : ScreenState.Action (screenState s) (screenState t)) : ActsFrom p t :=
  ⟨h.suffix.trans hc, fun ho ↦ (h.actions (ho.suffix hc)).tail hb⟩

theorem ActsFrom.of_screenState_eq (h : ActsFrom p s) (ht : screenState t = screenState s) :
    ActsFrom p t := by
  have hcalls : t.2.driver.calls = s.2.driver.calls := congrArg ScreenState.calls ht
  exact ⟨hcalls ▸ h.suffix, fun ho ↦ ht ▸ h.actions (hcalls ▸ ho)⟩

/-- Nothing is said of a device that was let down. -/
theorem ActsFrom.letDown (h : ActsFrom p s) (ht : t.2.IsLetDown s.2.driver.calls) : ActsFrom p t :=
  ⟨h.suffix.trans ht.suffix, fun ho ↦ (ht.not_obliging ho).elim⟩

/-! ### Commands that keep the screen state -/

/-- What of a device has to do with frames: the screen, the size of the window, the slots and the
frame. -/
def setting (d : Device) : Swapchain × Extent × List FrameSlot × ℕ × Option FrameState :=
  (d.screen, d.windowSize, d.slots, d.slotIndex, d.frame.map ({ · with screenPass := false }))

/-- What has to do with frames is the same, and no call had to do with the images of the screen. -/
structure KeepsScreen (s₀ s : Device × Host) : Prop where
  /-- The setting. -/
  setting : s.1.setting = s₀.1.setting
  /-- The calls. -/
  only : s₀.2.driver.Only Call.isOffScreen s.2.driver

theorem KeepsScreen.refl (s : Device × Host) : KeepsScreen s s := ⟨rfl, .refl _⟩

/-- So is the screen state but for the calls. -/
theorem KeepsScreen.screenState (h : KeepsScreen s₀ s) :
    screenState s = { screenState s₀ with calls := s.2.driver.calls } := by
  obtain ⟨hscreen, -, hslots, hindex, hframe⟩ : s.1.screen = s₀.1.screen ∧
      s.1.windowSize = s₀.1.windowSize ∧ s.1.slots = s₀.1.slots ∧
      s.1.slotIndex = s₀.1.slotIndex ∧ s.1.frame.map ({ · with screenPass := false }) =
        s₀.1.frame.map ({ · with screenPass := false }) := by
    simpa only [Device.setting, Prod.mk.injEq] using h.setting
  simp only [Device.screenState, hscreen, hslots, hindex, hframe]

theorem KeepsScreen.actions (h : KeepsScreen s t) (hs : ActsFrom p s) : ActsFrom p t := by
  obtain ⟨l, hl, houtside⟩ := h.only.calls
  refine hs.tail ⟨l, hl.symm⟩ ?_
  rw [h.screenState, hl]
  exact .offScreen id houtside

theorem KeepsScreen.journal (h : KeepsScreen s₀ s) (j : Log.Journal) :
    KeepsScreen s₀ (Log.HasJournal.journal.set j s) := ⟨h.setting, h.only⟩

/-- What is done on the host keeps the screen state if no call has to do with the images. -/
theorem keepsScreen_run {x : Run α} (hx : Run.Respects (Driver.Only Call.isOffScreen) x)
    (d : Device) :
    Keeps (fun k ↦ KeepsScreen s₀ (d, k)) x := by
  intro k hk
  exact (hx s₀.2.driver k hk.only).mono (fun _ _ ho ↦ ⟨hk.setting, ho⟩)
    fun _ _ ho ↦ ⟨hk.setting, ho⟩

theorem keepsScreen_lift {x : Run α} (hx : Run.Respects (Driver.Only Call.isOffScreen) x) :
    Keeps (KeepsScreen s₀) (liftM x : DeviceStep α) :=
  Meets.snd fun d ↦ keepsScreen_run hx d

theorem keepsScreen_resources {x : Run α} (hx : Run.Respects (Driver.Only Call.ofResources) x) :
    Keeps (KeepsScreen s₀) (liftM x : DeviceStep α) :=
  keepsScreen_lift (hx.only_mono fun _ ↦ Call.isOffScreen_of_ofResources)

theorem keepsScreen_change {g : Device → Device} (hg : ∀ d : Device, (g d).setting = d.setting) :
    Keeps (KeepsScreen s₀) (RunOn.change g) :=
  Meets.update fun s hs ↦ ⟨(hg s.1).trans hs.setting, hs.only⟩

theorem keepsScreen_refuse {source : String} {cause : BackendCause} :
    Keeps (KeepsScreen s₀) (Log.refuse source cause : DeviceStep α) :=
  .refuse fun _ j hs ↦ hs.journal j

theorem keepsScreen_refuse_bind {β : Type} {source : String} {cause : BackendCause}
    {f : α → DeviceStep β} :
    Keeps (KeepsScreen s₀) ((Log.refuse source cause : DeviceStep α) >>= f) :=
  .refuse_bind fun _ j hs ↦ hs.journal j

theorem keepsScreen_slot : Keeps (KeepsScreen s₀) slot :=
  meets_look fun _ ↦ .orTrap fun _ _ _ hs ↦ hs

theorem respects_record {b : Object .commandBuffer} {r : Recorded} :
    Run.Respects (Driver.Only Call.isOffScreen) (Run.record b r) := .push rfl

theorem keepsScreen_record {r : Recorded} : Keeps (KeepsScreen s₀) (record r) :=
  .bind keepsScreen_slot fun _ ↦ keepsScreen_lift respects_record

theorem keepsScreen_activePass {command : String} :
    Keeps (KeepsScreen s₀) (activePass command) := by
  refine meets_look fun _ ↦ ?_
  split
  · exact .pure fun _ hs ↦ hs
  · exact keepsScreen_refuse

theorem keepsScreen_recordBegin {extent : Extent} {target : Target} :
    Keeps (KeepsScreen s₀) (recordBegin extent target) := by
  refine .orTrap_bind fun _ _ ↦ ?_
  exact .bind keepsScreen_record fun _ ↦ .bind keepsScreen_record fun _ ↦ keepsScreen_record

/-- The pass becomes the active one after its beginning was recorded. -/
theorem keepsScreen_enterPass {active : ActivePass} (target : Option Target) :
    Keeps (KeepsScreen s₀) (do
      if let some t := target then recordBegin active.extent t
      RunOn.change ({ · with active := some active }) : DeviceStep Unit) := by
  cases target with
  | none => exact keepsScreen_change fun _ ↦ rfl
  | some t => exact .bind keepsScreen_recordBegin fun _ ↦ keepsScreen_change fun _ ↦ rfl

theorem keepsScreen_applyViewport {rect : Rect} {topLeft : Bool} :
    Keeps (KeepsScreen s₀) (applyViewport rect topLeft) := by
  refine .bind keepsScreen_activePass fun _ ↦ ?_
  exact .ite (fun _ ↦ .orTrap_bind fun _ _ ↦ keepsScreen_record) fun _ ↦ .pure fun _ hs ↦ hs

theorem keepsScreen_sampledViews {ids : List TextureId} :
    Keeps (KeepsScreen s₀) (sampledViews ids) := by
  induction ids with
  | nil => exact .pure fun _ hs ↦ hs
  | cons id ids ih =>
    refine meets_look fun _ ↦ ?_
    split
    · exact .fail fun _ hs ↦ hs
    · exact .ite (fun _ ↦ keepsScreen_refuse_bind) fun _ ↦ .bind ih fun _ ↦ .pure fun _ hs ↦ hs

theorem keepsScreen_bindViews {pipeline : Pipeline} {views : List (Object .view)} :
    Keeps (KeepsScreen s₀) (bindViews pipeline views) := by
  refine .ite (fun _ ↦ .pure fun _ hs ↦ hs) fun _ ↦ ?_
  refine .bind keepsScreen_slot fun _ ↦ ?_
  refine meets_look fun _ ↦ ?_
  refine .bind (keepsScreen_lift (.make (fun _ ↦ rfl) fun _ ↦ rfl)) fun _ ↦ ?_
  exact .bind (keepsScreen_lift (.push rfl)) fun _ ↦ keepsScreen_record

theorem respects_bindMesh {m : Mesh} {b : Object .commandBuffer} :
    Run.Respects (Driver.Only Call.isOffScreen) (m.bind b) := by
  refine .bind respects_record fun _ ↦ ?_
  split
  · exact respects_record
  · exact .pure

theorem keepsScreen_applyDrawState {state : DrawState} :
    Keeps (KeepsScreen s₀) (applyDrawState state) := by
  refine meets_look fun _ ↦ .orFail_bind (fun pipeline _ ↦ ?_) fun _ hs ↦ hs
  refine .orFail_bind (fun mesh _ ↦ .bind keepsScreen_sampledViews fun views ↦ ?_) fun _ hs ↦ hs
  refine .ite (fun _ ↦ keepsScreen_refuse_bind) fun _ ↦ .bind keepsScreen_activePass fun _ ↦ ?_
  refine .ite (fun _ ↦ keepsScreen_refuse_bind) fun _ ↦ ?_
  refine .ite (fun _ ↦ keepsScreen_refuse_bind) fun _ ↦ ?_
  refine .bind (keepsScreen_change fun _ ↦ rfl) fun _ ↦ ?_
  refine .ite (fun _ ↦ ?_) fun _ ↦ ?_
  · refine .bind keepsScreen_record fun _ ↦ ?_
    refine .bind keepsScreen_slot fun _ ↦ ?_
    exact .bind (keepsScreen_lift respects_bindMesh) fun _ ↦ keepsScreen_bindViews
  · exact .pure fun _ hs ↦ hs

theorem keepsScreen_applyUniforms {stage : ShaderStage} {data : List UInt8} :
    Keeps (KeepsScreen s₀) (applyUniforms stage data) := by
  refine .bind keepsScreen_activePass fun _ ↦ ?_
  split
  · exact keepsScreen_refuse
  · refine meets_look fun _ ↦ .orFail_bind (fun _ _ ↦ ?_) fun _ hs ↦ hs
    refine .ite (fun _ ↦ keepsScreen_refuse_bind) fun _ ↦ ?_
    refine .ite (fun _ ↦ keepsScreen_refuse_bind) fun _ ↦ ?_
    exact .ite (fun _ ↦ keepsScreen_record) fun _ ↦ .pure fun _ hs ↦ hs

theorem keepsScreen_draw {group : ℕ} : Keeps (KeepsScreen s₀) (draw group) := by
  refine .bind keepsScreen_activePass fun _ ↦ ?_
  split
  · exact keepsScreen_refuse
  · refine meets_look fun _ ↦ .orFail_bind (fun _ _ ↦ ?_) fun _ hs ↦ hs
    split
    · exact keepsScreen_refuse
    · refine .ite (fun _ ↦ ?_) fun _ ↦ ?_
      · exact .bind keepsScreen_slot fun _ ↦ keepsScreen_lift respects_record
      · exact .pure fun _ hs ↦ hs

theorem keepsScreen_fillRects {color : Vec4} {rects : List Rect} :
    Keeps (KeepsScreen s₀) (fillRects color rects) := by
  refine .bind keepsScreen_activePass fun _ ↦ ?_
  refine .ite (fun _ ↦ .orTrap_bind fun _ _ ↦ ?_) fun _ ↦ .pure fun _ hs ↦ hs
  exact .ite (fun _ ↦ keepsScreen_record) fun _ ↦ .pure fun _ hs ↦ hs

theorem keepsScreen_endPass : Keeps (KeepsScreen s₀) endPass := by
  refine meets_look fun _ ↦ ?_
  split
  · exact keepsScreen_refuse
  · next a _ =>
    have hresolve : Keeps (KeepsScreen s₀) (if a.resolves then
        RunOn.change fun d ↦ { d with textures := a.attachments.foldl markResolved d.textures }
        else pure () : DeviceStep Unit) :=
      .ite (fun _ ↦ keepsScreen_change fun _ ↦ rfl) fun _ ↦ .pure fun _ hs ↦ hs
    refine .bind (keepsScreen_change fun _ ↦ rfl) fun _ ↦ ?_
    exact .ite (fun _ ↦ .bind keepsScreen_record fun _ ↦ hresolve) fun _ ↦ hresolve

theorem keepsScreen_requestQuit : Keeps (KeepsScreen s₀) requestQuit :=
  keepsScreen_change fun _ ↦ rfl

/-! ### Resources -/

theorem keepsScreen_createTexture {d : TextureDesc} : Keeps (KeepsScreen s₀) (createTexture d) := by
  refine meets_look fun _ ↦ ?_
  refine .ite (fun _ ↦ .fail_bind fun _ hs ↦ hs) fun _ ↦ ?_
  refine .bind (keepsScreen_resources Texture.only_create) fun _ ↦ ?_
  refine .bind (Meets.note (Q := fun _ ↦ KeepsScreen s₀) fun _ j hs ↦ hs.journal j) fun _ ↦ ?_
  exact .orTrap_bind fun _ _ ↦ .bind (keepsScreen_change fun _ ↦ rfl) fun _ ↦ .pure fun _ hs ↦ hs

theorem keepsScreen_createMesh {d : MeshDesc} : Keeps (KeepsScreen s₀) (createMesh d) := by
  refine .bind (keepsScreen_resources Mesh.only_create) fun _ ↦ ?_
  refine meets_look fun _ ↦ ?_
  exact .orTrap_bind fun _ _ ↦ .bind (keepsScreen_change fun _ ↦ rfl) fun _ ↦ .pure fun _ hs ↦ hs

theorem keepsScreen_createShader {d : ShaderDesc} : Keeps (KeepsScreen s₀) (createShader d) := by
  refine meets_look fun _ ↦ ?_
  refine .bind (keepsScreen_resources Shader.only_create) fun _ ↦ ?_
  exact .orTrap_bind fun _ _ ↦ .bind (keepsScreen_change fun _ ↦ rfl) fun _ ↦ .pure fun _ hs ↦ hs

theorem keepsScreen_createPipeline {d : PipelineDesc} :
    Keeps (KeepsScreen s₀) (createPipeline d) := by
  refine meets_look fun _ ↦ ?_
  refine .orFail_bind (fun _ _ ↦ ?_) fun _ hs ↦ hs
  refine .bind (keepsScreen_resources Pipeline.only_create) fun _ ↦ ?_
  exact .orTrap_bind fun _ _ ↦ .bind (keepsScreen_change fun _ ↦ rfl) fun _ ↦ .pure fun _ hs ↦ hs

theorem keepsScreen_createPass {d : PassDesc} : Keeps (KeepsScreen s₀) (createPass d) := by
  refine meets_look fun _ ↦ ?_
  refine .bind (keepsScreen_resources Pass.only_create) fun _ ↦ ?_
  refine .bind (Meets.note (Q := fun _ ↦ KeepsScreen s₀) fun _ j hs ↦ hs.journal j) fun _ ↦ ?_
  exact .orTrap_bind fun _ _ ↦ .bind (keepsScreen_change fun _ ↦ rfl) fun _ ↦ .pure fun _ hs ↦ hs

theorem only_remove? {d d' : Device} {id : ResourceId} {drop : Run Unit}
    (hr : d.remove? id = some (d', drop)) :
    Run.Respects (Driver.Only Call.ofResources) drop ∧ d'.setting = d.setting := by
  cases id <;> obtain ⟨⟨x, m⟩, -, he⟩ := Option.map_eq_some_iff.1 hr <;> cases he <;>
    exact ⟨x.only_drop, rfl⟩

theorem keepsScreen_destroy {id : ResourceId} : Keeps (KeepsScreen s₀) (destroy id) := by
  refine RunOn.meets_at fun d ↦ ?_
  have hwait : Run.Respects (Driver.Only Call.isOffScreen) (work "wait idle before release"
      (Driver.perform .waitDevice (.waitDevice d.context.device))) := .perform (fun _ ↦ rfl) rfl
  refine (releases_destroy (Q := fun d' k ↦ KeepsScreen s₀ (d', k)) (keepsScreen_run hwait d)
    (fun _ j hk ↦ hk.journal j) fun d' drop hr ↦ ?_).mono (fun _ hs ↦ hs) ?_ ?_
  · obtain ⟨honly, hsetting⟩ := only_remove? hr
    refine (silent_remove? hr).meets ((keepsScreen_run (honly.only_mono fun _ ↦
      Call.isOffScreen_of_ofResources) d').pre fun k hk ↦ ⟨hsetting.trans hk.setting, hk.only⟩)
  · rintro _ ⟨_, k⟩ ⟨d', drop, -, rfl, hk⟩
    exact hk
  · rintro _ ⟨_, k⟩ ⟨rfl, hk⟩
    exact hk

/-- Only passes and the end of a frame have to do with frames. -/
theorem keepsScreen_command {c : GraphicsDevice.Command}
    (hb : ∀ pass action, c ≠ .beginPass pass action) (hc : c ≠ .commitFrame) :
    Keeps (KeepsScreen s₀) (c.perform (σ := Device × Host)) := by
  cases c with
  | createTexture => exact Meets.map keepsScreen_createTexture
  | createMesh => exact Meets.map keepsScreen_createMesh
  | createShader => exact Meets.map keepsScreen_createShader
  | createPipeline => exact Meets.map keepsScreen_createPipeline
  | createPass => exact Meets.map keepsScreen_createPass
  | destroy => exact keepsScreen_destroy
  | beginPass => exact (hb _ _ rfl).elim
  | applyViewport => exact keepsScreen_applyViewport
  | applyDrawState => exact keepsScreen_applyDrawState
  | applyUniforms => exact keepsScreen_applyUniforms
  | draw => exact keepsScreen_draw
  | fillRects => exact keepsScreen_fillRects
  | endPass => exact keepsScreen_endPass
  | commitFrame => exact (hc rfl).elim
  | requestQuit => exact keepsScreen_requestQuit

/-! ### Images in any order -/

/-- What `screenTarget` does, with another way of asking for an image. -/
def screenTargetWith (acquire : ℕ → RunOn Swapchain (Option ℕ)) (action : PassAction) :
    DeviceStep (ActivePass × Option Target) := do
  changeFrame ({ · with screenPass := true })
  let image ← screenImageWith acquire
  let screen := (← RunOn.part).screen
  let active : ActivePass :=
    { extent := screen.extent
      signature := ⟨1, screen.colorFormat, some screenDepthFormat, 1⟩
      attachments := []
      resolves := false
      recording := image.isSome }
  match image with
  | none => return (active, none)
  | some index =>
    let framebuffer ← StepWith.orTrap screen.framebuffers[index]?
    let clears : List ClearValue :=
      [.color (action.color.getD .black),
       .depthStencil (action.depth.getD .one) (action.stencil.getD 0)]
    return (active, some ⟨screen.renderPass, framebuffer, clears⟩)

/-- What `beginPass` does, with another way of asking for an image. -/
def beginPassWith (acquire : ℕ → RunOn Swapchain (Option ℕ)) (pass : Option PassId)
    (action : PassAction) : DeviceStep Unit := do
  let d ← RunOn.part
  if d.active.isSome then Log.refuse source .nestedPass
  let (active, target) ←
    match pass with
    | some id => do
      let (active, target) ← StepWith.ofChecked (d.offscreenTarget id action)
      ensureFrame
      pure (active, some target)
    | none => do
      ensureFrame
      screenTargetWith acquire action
  if let some t := target then recordBegin active.extent t
  RunOn.change ({ · with active := some active })

/-- What `commitFrame` does, with another way of asking for an image. -/
def commitFrameWith (acquire : ℕ → RunOn Swapchain (Option ℕ)) : DeviceStep Unit := do
  if (← RunOn.part).active.isSome then Log.refuse source .commitInsidePass
  ensureFrame
  if !(← RunOn.part).frame.any (·.screenPass) then
    beginPassWith acquire none {}
    endPass
  handOver

/-- The step of an event, with another way of asking for an image. -/
def Event.performWith (acquire : ℕ → RunOn Swapchain (Option ℕ)) : Event → DeviceStep Unit
  | command (.beginPass pass action) => beginPassWith acquire pass action
  | command .commitFrame => commitFrameWith acquire
  | e => e.perform

theorem Event.performWith_acquire (e : Event) : e.performWith Swapchain.acquire = e.perform := by
  cases e with
  | command c => cases c <;> rfl
  | resize | surround => rfl

theorem Event.performWith_command {acquire : ℕ → RunOn Swapchain (Option ℕ)}
    {c : GraphicsDevice.Command} (hb : ∀ pass action, c ≠ .beginPass pass action)
    (hc : c ≠ .commitFrame) : (command c).performWith acquire = c.perform := by
  cases c with
  | beginPass => exact (hb _ _ rfl).elim
  | commitFrame => exact (hc rfl).elim
  | _ => rfl

/-! ### Frames -/

/-- If the screen is needed, the surface has pixels for the window. -/
def Sees (now : Prop) (s : Device × Host) : Prop :=
  now → s.2.driver.surface.HasPixels s.1.windowSize

variable {now : Prop} {d : Device} {k : Host} {arrange : List ImageRing → List ImageRing}

theorem actsFrom_of_keepsScreen {x : DeviceStep α} (hx : ∀ s₀, Keeps (KeepsScreen s₀) x) :
    Keeps (ActsFrom p) x :=
  fun s hs ↦ (hx s s (.refl s)).mono (fun _ _ h ↦ h.actions hs) fun _ _ h ↦ h.actions hs

theorem actsFrom_ensureFrame :
    Meets (fun s ↦ Sees now s ∧ ActsFrom p s) ensureFrame
      (fun _ s ↦ (s.1.frame.isSome = true ∧ Sees now s) ∧ ActsFrom p s) fun _ ↦ ActsFrom p := by
  rintro ⟨d, k⟩ ⟨hsees, hactions⟩
  refine Meets.ite (P := RunOn.At d (Host.IsAt k.driver.surface k.driver.calls)) (fun hf ↦ ?_)
    (fun hf ↦ ?_) (d, k) ⟨rfl, rfl, rfl⟩
  · have hidle : d.frame = none := Option.isNone_iff_eq_none.1 hf
    refine .bind meets_slotAt fun f ↦ .assume fun hslot ↦ ?_
    refine RunOn.meets_lift_bind FrameSlot.meets_beginAt
      (fun _ _ ht ↦ hactions.letDown ht) fun _ ↦ RunOn.meets_change.post ?_
    rintro _ ⟨_, k'⟩ ⟨rfl, hcalls, hsurface⟩
    refine ⟨⟨rfl, fun hnow ↦ hsurface ▸ hsees hnow⟩,
      hactions.tail (hcalls ▸ ⟨_, List.append_assoc _ [_] _⟩) ?_⟩
    rw [screenState_eq (k := k) hcalls]
    exact .begin (congrArg (Option.map _) hidle) hslot
      (by simp [Call.isOffScreen, Call.isQuiet, Call.isOnScreen])
  · refine .pure ?_
    rintro ⟨_, k'⟩ ⟨rfl, hcalls, hsurface⟩
    exact ⟨⟨Option.isSome_iff_ne_none.2 (by simpa using hf), fun hnow ↦ hsurface ▸ hsees hnow⟩,
      hactions.of_screenState_eq (screenState_eq hcalls)⟩

/-- The screen state depends on little of the screen. -/
theorem screenState_screen {screen : Swapchain}
    (h : screen.imageAvailable = d.screen.imageAvailable)
    {k' : Host} : screenState ({ d with screen }, k') = { screenState (d, k) with
      swapchain := screen.swapchain, marked := screen.needsRebuild, calls := k'.driver.calls } :=
  congrArg (fun available ↦ { screenState (d, k) with
    available, swapchain := screen.swapchain, marked := screen.needsRebuild
    calls := k'.driver.calls }) h

/-- What is left of a call for an image is the mark. -/
theorem screenState_after {code : ResultCode} {k' : Host} :
    screenState ({ d with screen := d.screen.after code }, k') = { screenState (d, k) with
      marked := (d.screen.after code).needsRebuild, calls := k'.driver.calls } := by
  unfold Swapchain.after
  split <;> rfl

/-- An image is asked for by an action, whatever was done before. -/
theorem actsFrom_takeImage {frame : FrameState} (hf : d.frame = some frame)
    (ha : frame.asked = false) (hm : d.screen.needsRebuild = false) (hb : ActsFrom p (d, k)) :
    Meets (RunOn.At { d with frame := some { frame with asked := true } }
        (Host.IsAt k.driver.surface k.driver.calls))
      (do
        let image ← onScreen (Swapchain.acquireFrom arrange d.slotIndex)
        changeFrame ({ · with image })
        return image)
      (fun _ ↦ ActsFrom p) fun _ ↦ ActsFrom p := by
  let d' : Device := { d with frame := some { frame with asked := true } }
  have hframe : (screenState (d, k)).frame = some { frame with screenPass := false } :=
    congrArg (Option.map _) hf
  refine .bind (meets_onScreen (d := d') (R := fun image s ↦ ∃ screen,
    s.1 = { d' with screen } ∧
      d.screen.Asks d.slotIndex k.driver.calls image screen s.2.driver.calls)
    Swapchain.meets_acquireAt (fun _ t _ hasks ↦ ⟨t, rfl, hasks⟩)
    fun _ _ _ ht ↦ hb.letDown ht) fun image ↦ ?_
  rintro ⟨_, k'⟩ ⟨screen, rfl, hasks⟩
  show ActsFrom p ({ d' with screen, frame := some { frame with asked := true, image } }, k')
  generalize hl : k'.driver.calls = l at hasks
  cases hasks with
  | missed available =>
    refine hb.tail (hl ▸ List.suffix_cons _ _) ?_
    rw [screenState_eq (k := k) hl]
    exact .miss hframe ha hm available
  | @taken signal i code available there =>
    refine hb.tail (hl ▸ List.suffix_cons _ _) ?_
    rw [screenState_after
      (d := { d with frame := some { frame with asked := true, image := some i } })
      (k := k), hl]
    refine .take hframe ha hm available fun hcode ↦ ?_
    rw [Swapchain.after, if_pos (.inl hcode)]
    rfl

/-- The screen is built anew by an action: it is marked no longer, or cannot be asked in this frame.
-/
theorem actsFrom_rebuild {frame : FrameState} (hf : d.frame = some frame) (ha : frame.asked = false)
    (hm : d.screen.needsRebuild = true) (hsees : Sees True (d, k)) (hb : ActsFrom p (d, k)) :
    Meets (RunOn.At { d with frame := some { frame with asked := true } }
        (Host.IsAt k.driver.surface k.driver.calls))
      (onScreen (Swapchain.rebuild d.context d.windowSize))
      (fun _ s ↦ ∃ screen, s.1 = { d with screen, frame := some { frame with asked := true } } ∧
        screen.needsRebuild = false ∧ ActsFrom p ({ d with screen }, s.2))
      fun _ ↦ ActsFrom p := by
  have hframe : (screenState (d, k)).frame = some { frame with screenPass := false } :=
    congrArg (Option.map _) hf
  refine meets_onScreen ((Swapchain.built_rebuild (s := d.screen) (hsees trivial)).pre ?_)
    (fun _ screen k' h ↦ ?_) fun _ screen k' h ↦ ?_
  · rintro ⟨_, k'⟩ ⟨rfl, hcalls, hsurface⟩
    exact ⟨rfl, rfl, .of_eq hcalls hsurface, False.elim⟩
  -- The frame stays as it was if the screen is there, and cannot ask any more if not.
  · obtain ⟨info, l, hl, hmem⟩ := h.1.made trivial
    obtain ⟨l', hl', hscreen⟩ := h.1.only.calls
    obtain rfl := List.append_cancel_right (hl.symm.trans hl')
    have havailable : screen.imageAvailable = d.screen.imageAvailable := h.1.available
    have hmark : screen.needsRebuild = false := h.2
    refine ⟨screen, rfl, hmark, hb.tail ⟨l, hl.symm⟩ ?_⟩
    rw [screenState_screen (k := k) havailable, hmark, show k'.driver.calls = _ from hl]
    exact .renew hframe ha hmem hscreen
  · obtain ⟨l, hl, hscreen⟩ := h.only.calls
    refine hb.tail ⟨l, hl.symm⟩ ?_
    rw [screenState_screen (d := { d with frame := some { frame with asked := true } }) (k := k)
      h.available, h.marked, show k'.driver.calls = _ from hl]
    exact .fail hframe ha hm hscreen

theorem actsFrom_screenImageWith :
    Meets (fun s ↦ (s.1.frame.isSome = true ∧ Sees True s) ∧ ActsFrom p s)
      (screenImageWith (Swapchain.acquireFrom arrange)) (fun _ ↦ ActsFrom p) fun _ ↦
        ActsFrom p := by
  rintro ⟨d, k⟩ ⟨⟨hframe, hsees⟩, hb⟩
  obtain ⟨frame, hf⟩ : ∃ frame, d.frame = some frame := Option.isSome_iff_exists.1 hframe
  refine RunOn.meets_part_bind (P := Host.IsAt k.driver.surface k.driver.calls) (t := d) ?_ (d, k)
    ⟨rfl, rfl, rfl⟩
  simp only [hf]
  refine .ite (fun _ ↦ .pure ?_) fun hasked ↦ meets_changeFrame_bind hf ?_
  · rintro ⟨_, k'⟩ ⟨rfl, hcalls, -⟩
    exact hb.of_screenState_eq (screenState_eq hcalls)
  have hasked : frame.asked = false := Bool.eq_false_iff.2 hasked
  refine .ite (fun hm ↦ .bind (actsFrom_rebuild hf hasked hm hsees hb) fun _ ↦ ?_)
    fun hm ↦ actsFrom_takeImage hf hasked (Bool.eq_false_iff.2 hm) hb
  rintro ⟨_, k'⟩ ⟨screen, rfl, hmark, hb'⟩
  refine Meets.ite (P := RunOn.At { d with screen, frame := some { frame with asked := true } }
    (Host.IsAt k'.driver.surface k'.driver.calls)) (fun hm' ↦ ?_) (fun _ ↦ ?_)
    (_, k') ⟨rfl, rfl, rfl⟩
  · exact (Bool.false_ne_true (hmark.symm.trans hm')).elim
  · exact actsFrom_takeImage (d := { d with screen }) hf hasked hmark hb'

theorem actsFrom_screenTargetWith {action : PassAction} :
    Meets (fun s ↦ (s.1.frame.isSome = true ∧ Sees True s) ∧ ActsFrom p s)
      (screenTargetWith (Swapchain.acquireFrom arrange) action) (fun _ ↦ ActsFrom p) fun _ ↦
        ActsFrom p := by
  refine .bind (Meets.update (Q := fun _ s ↦ (s.1.frame.isSome = true ∧ Sees True s) ∧ ActsFrom p s)
    fun s hs ↦ ?_) fun _ ↦ .bind actsFrom_screenImageWith fun image ↦ meets_look fun _ ↦ ?_
  · refine ⟨⟨(Option.isSome_map ..).trans hs.1.1, hs.1.2⟩, hs.2.of_screenState_eq ?_⟩
    show ({ screenState s with frame := (s.1.frame.map _).map _ } : ScreenState) = screenState s
    rw [Option.map_map]
    rfl
  · cases image with
    | none => exact .pure fun _ hs ↦ hs
    | some index => exact .orTrap_bind fun _ _ ↦ .pure fun _ hs ↦ hs

theorem actsFrom_beginPassWith {pass : Option PassId} {action : PassAction}
    (hnow : pass = none → now) :
    Meets (fun s ↦ Sees now s ∧ ActsFrom p s)
      (beginPassWith (Swapchain.acquireFrom arrange) pass action) (fun _ ↦ ActsFrom p)
      fun _ ↦ ActsFrom p := by
  refine meets_look fun d ↦ ?_
  refine .ite (fun _ ↦ .refuse_bind fun _ _ hs ↦ hs.2.of_screenState_eq rfl) fun _ ↦ ?_
  cases pass with
  | none =>
    refine .bind actsFrom_ensureFrame fun _ ↦ ?_
    refine .bind (actsFrom_screenTargetWith.pre fun s hs ↦ ?_) fun ⟨_, target⟩ ↦
      actsFrom_of_keepsScreen fun _ ↦ keepsScreen_enterPass target
    exact ⟨⟨hs.1.1, fun _ ↦ hs.1.2 (hnow rfl)⟩, hs.2⟩
  | some id =>
    refine .bind (.ofChecked (Q := fun _ s ↦ Sees now s ∧ ActsFrom p s) (fun _ _ _ hs ↦ hs)
      fun _ _ _ hs ↦ hs.2) fun ⟨_, target⟩ ↦ ?_
    refine .bind actsFrom_ensureFrame fun _ ↦ ?_
    exact (actsFrom_of_keepsScreen fun _ ↦ keepsScreen_enterPass (some target)).pre fun _ hs ↦ hs.2

/-! ### Handing over -/

/-- The device got here by actions and then handed a frame over, if the driver was obliging. -/
structure HandsOver (p : ScreenState) (s : Device × Host) : Prop where
  /-- The calls go on in any case. -/
  suffix : p.calls <:+ s.2.driver.calls
  /-- The actions, and the end of the frame. -/
  handOver : Obliging s.2.driver.calls → ∃ q, ReflTransGen ScreenState.Action p q ∧
    ScreenState.HandOver q (screenState s)

theorem ActsFrom.handOver (h : ActsFrom p s) (hc : s.2.driver.calls <:+ t.2.driver.calls)
    (ht : Obliging t.2.driver.calls → ScreenState.HandOver (screenState s) (screenState t)) :
      HandsOver p t :=
  ⟨h.suffix.trans hc, fun ho ↦ ⟨_, h.actions (ho.suffix hc), ht ho⟩⟩

/-- A screen that reports something else than success is marked. -/
theorem marked_after {screen : Swapchain} {code : ResultCode}
    (ho : code = .success ∨ code = .suboptimal ∨ code = .outOfDate)
    (h : screen.needsRebuild = true ∨ code ≠ .success) :
    (screen.after code).needsRebuild = true := by
  rw [Swapchain.after]
  split
  · rfl
  · next hcode => exact h.resolve_right (not_not.2 (ho.resolve_right hcode))

theorem actsFrom_handOver :
    Meets (ActsFrom p) handOver (fun _ ↦ HandsOver p) fun _ ↦ ActsFrom p := by
  rintro ⟨d, k⟩ hb
  let d' : Device := { d with frame := none }
  have himage : (screenState (d, k)).image = d.frame.bind (·.image) := by
    cases hf : d.frame <;> simp [ScreenState.image, screenState, hf]
  refine RunOn.meets_part_bind (P := Host.IsAt k.driver.surface k.driver.calls) (t := d)
    (RunOn.meets_change_bind ?_) (d, k) ⟨rfl, rfl, rfl⟩
  refine .bind (meets_slotAt (d := d')) fun f ↦ .assume fun hslot ↦ ?_
  split
  -- Without an image the frame is only submitted; with one, that is shown as well.
  · next hnone =>
    refine RunOn.meets_lift_bind FrameSlot.meets_submitAt (fun _ _ ht ↦ hb.letDown ht)
      fun _ ↦ RunOn.meets_change.post ?_
    rintro _ ⟨_, k'⟩ ⟨rfl, hcalls, -⟩
    have hcalls : k'.driver.calls = [.submit d.context.queue (f.submission none) f.fence,
      .resetFence f.fence, .endCommandBuffer f.commands] ++ k.driver.calls := hcalls
    refine hb.handOver ⟨_, hcalls.symm⟩ fun _ ↦ ?_
    rw [screenState_eq (k := k) hcalls]
    refine .withoutImage (himage.trans hnone) ?_
    simp [Call.isOffScreen, Call.isQuiet, Call.isOnScreen, FrameSlot.submission]
  · next index hindex =>
    refine .orTrap_bind fun sync hsync ↦ ?_
    obtain ⟨available, ha, hsync⟩ := Option.bind_eq_some_iff.1 hsync
    obtain ⟨rendered, hr, hsync⟩ := Option.bind_eq_some_iff.1 hsync
    cases hsync
    refine RunOn.meets_lift_bind FrameSlot.meets_submitAt (fun _ _ ht ↦ hb.letDown ht) fun _ ↦ ?_
    refine .bind (meets_onScreen (d := d')
      (R := fun _ s ↦ ∃ code, s.1 = { d' with screen := d.screen.after code } ∧ s.2.driver.calls =
      .present d.context.queue rendered d.screen.swapchain index code :: _)
      (Swapchain.meets_presentAt hr)
      (fun _ _ _ ht ↦ Exists.elim ht fun code ht ↦ ⟨code, ht.1 ▸ rfl, ht.2⟩) fun _ _ _ ht ↦
      hb.letDown (ht.since ⟨[_, _, _], rfl⟩)) fun _ ↦ ?_
    refine Meets.update ?_
    rintro ⟨_, k'⟩ ⟨code, rfl, hcalls⟩
    have hcalls : k'.driver.calls =
        .present d.context.queue rendered d.screen.swapchain index code ::
          .submit d.context.queue (f.submission (some (available, rendered))) f.fence ::
            ([.resetFence f.fence, .endCommandBuffer f.commands] ++ k.driver.calls) := hcalls
    refine hb.handOver ⟨[_, _, _, _], hcalls.symm⟩ fun ho ↦ ?_
    have hcode := ho _ (hcalls ▸ List.mem_cons_self)
    rw [screenState_after (d := { d' with slotIndex := _ }) (k := k), hcalls]
    exact .shown (himage.trans hindex) hslot ha (marked_after hcode)
      (by simp [Call.isOffScreen, Call.isQuiet, Call.isOnScreen])

theorem handsOver_commitFrameWith :
    Meets (fun s ↦ Sees True s ∧ ActsFrom p s) (commitFrameWith (Swapchain.acquireFrom arrange))
      (fun _ ↦ HandsOver p) fun _ ↦ ActsFrom p := by
  refine meets_look fun _ ↦ ?_
  refine .ite (fun _ ↦ .refuse_bind fun _ _ hs ↦ hs.2.of_screenState_eq rfl) fun _ ↦ ?_
  refine .bind actsFrom_ensureFrame fun _ ↦ ?_
  refine meets_look fun _ ↦ ?_
  refine .ite (fun _ ↦ ?_) fun _ ↦ ?_
  · refine .bind ((actsFrom_beginPassWith fun _ ↦ trivial).pre fun _ hs ↦ ⟨hs.1.2, hs.2⟩) fun _ ↦ ?_
    exact .bind (actsFrom_of_keepsScreen fun _ ↦ keepsScreen_endPass) fun _ ↦ actsFrom_handOver
  · exact actsFrom_handOver.pre fun _ hs ↦ hs.2

/-! ### Events -/

/-- What an event comes to: actions, after which a frame may be handed over. -/
def Advances (e : Event) (p : ScreenState) (s : Device × Host) : Prop :=
  ActsFrom p s ∨ e = .command .commitFrame ∧ HandsOver p s

theorem advances_performWith (e : Event) :
    Meets (fun s ↦ Sees e.NeedsScreen s ∧ ActsFrom p s)
      (e.performWith (Swapchain.acquireFrom arrange)) (fun _ ↦ Advances e p) fun _ ↦
        Advances e p := by
  -- Most commands have nothing to do with the images of the screen.
  have hother {x : DeviceStep Unit} (hx : ∀ s₀, Keeps (KeepsScreen s₀) x) :
      Meets (fun s ↦ Sees e.NeedsScreen s ∧ ActsFrom p s) x (fun _ ↦ Advances e p)
        fun _ ↦ Advances e p :=
    (actsFrom_of_keepsScreen hx).mono (fun _ hs ↦ hs.2) (fun _ _ ↦ .inl) fun _ _ ↦ .inl
  cases e with
  | command c =>
    cases c with
    | beginPass pass action =>
      refine (actsFrom_beginPassWith fun hpass ↦ ?_).mono (fun _ hs ↦ hs) (fun _ _ ↦ .inl)
        fun _ _ ↦ .inl
      subst hpass
      trivial
    | commitFrame =>
      exact handsOver_commitFrameWith.mono (fun _ hs ↦ ⟨fun _ ↦ hs.1 trivial, hs.2⟩)
        (fun _ _ hs ↦ .inr ⟨rfl, hs⟩) fun _ _ ↦ .inl
    | _ =>
      rw [Event.performWith_command]
      · exact hother fun _ ↦ keepsScreen_command (by simp) (by simp)
      all_goals simp
  | resize size =>
    refine Meets.update fun s hs ↦ .inl (hs.2.tail (List.suffix_refl _) ?_)
    exact .offScreen (l := []) (fun _ ↦ rfl) (List.forall_mem_nil _)
  | surround u => exact Meets.update fun s hs ↦ .inl (hs.2.of_screenState_eq rfl)

end Device

end RenderTargets.Vulkan
