import RenderTargets.Proofs.Vulkan.Device.ScreenActions
import RenderTargets.Proofs.Vulkan.Device.FailedSetup
import RenderTargets.Proofs.Vulkan.Exchange
/-!
# The swapchains of a device

A device asks for a swapchain when it is set up, and for another one in exchange for it whenever a
pass into the screen finds that marked. All these requests are admissible, each on its **occasion**
(`run_admissible`).

The trace tells what was asked for, also in vain, but nothing is said of the trace of a set-up that
fails or of a step that traps. Therefore the steps of a device are taken with another way of
exchanging swapchains as well (`createBy`, `Event.performBy`). If that makes no difference as long
as admissible requests are treated as before, there are no others.

## Events between exchanges

Before an exchange the screen awaits it, and the window has its size (`Displays`). Surface and
window only change between events, so what an event asks for is for both as the event found them
(`exchanges_command`), and a run goes from one occasion to the next (`Reaches.run`).
-/

namespace RenderTargets.Vulkan.Device

open StepWith Run Relation

variable {α : Type} {s t : Device × Host} {p : SwapchainInfo → Prop}
  {x : SwapchainInfo → Run (Object .swapchain)} {w : Window} {config : Config} {builtIn : Bool}

/-! ### Devices with another exchange -/

/-- What `createScreen` does, with another exchange. -/
def createScreenBy (x : SwapchainInfo → Run (Object .swapchain)) (ctx : Context)
    (surface : Object .surface) (size : Extent) (vsync : Bool) (frames : ℕ) :
    Run (Swapchain × Object .sampler) := do
  let screen ← Swapchain.createBy x ctx surface size vsync frames
  let sampler ← StepWith.undoing
    (Run.setUp "create sampler" "create sampler" (Driver.create .createSampler .createSampler))
    (screen.drop ctx)
  return (screen, sampler)

/-- What there is of a device before its screen. -/
structure Prepared where
  /-- What its objects share. -/
  context : Context
  /-- The connection to the driver. -/
  connection : Object .connection
  /-- What receives validation messages, if they are wanted. -/
  messenger : Option (Object .messenger)
  /-- The surface of the window. -/
  surface : Object .surface
  /-- The GPU. -/
  choice : Choice
  /-- Where the command buffers of frames come from. -/
  framePool : Object .commandPool
  /-- What frames are recorded with. -/
  slots : List FrameSlot

/-- Makes what there is of a device before its screen. -/
def prepare (w : Window) (config : Config) (builtIn : Bool) : Run Prepared := do
  if !(← get).driver.installed then
    Run.giveUp "Failed to load Vulkan library" .noDriver
  if config.appName.toList.contains '\x00' then .fail (.initialization .applicationName)
  let display ← displayOf w
  let extensions ← extensionsOf display
  let validate ← decideValidation config builtIn
  let connection ← connect config extensions validate
  let messenger ← if validate then some <$> listen config else pure none
  let surface ← createSurface w display
  let choice ← pickGpu
  let (context, framePool) ← openGpu choice
  modify fun h ↦ { h with owners := 1 }
  let slots ← FrameSlot.createMany framePool [] (max config.framesInFlight 1)
  return { context, connection, messenger, surface, choice, framePool, slots }

/-- What `create` does, with another exchange. -/
def createBy (x : SwapchainInfo → Run (Object .swapchain)) (w : Window) (size : Extent)
    (config : Config) (builtIn : Bool) : Run Device := do
  let r ← prepare w config builtIn
  let (screen, sampler) ← StepWith.undoing
    (createScreenBy x r.context r.surface size config.vsync (max config.framesInFlight 1))
    (Run.each FrameSlot.drop r.slots)
  let capabilities := r.choice.gpu.limits.capabilities config.disabled
  announce r.choice capabilities
  return { context := r.context, connection := r.connection, messenger := r.messenger, capabilities
           screen, framePool := r.framePool, slots := r.slots, sampler, windowSize := size }

/-- What `screenImage` does, with another exchange. -/
def screenImageBy (x : SwapchainInfo → Run (Object .swapchain)) : DeviceStep (Option ℕ) := do
  let d ← RunOn.part
  match d.frame with
  | none => Log.refuse source .noFrame
  | some frame =>
    if frame.asked then return frame.image
    changeFrame ({ · with asked := true })
    if d.screen.needsRebuild then
      onScreen (Swapchain.rebuildBy x d.context d.windowSize)
      if (← RunOn.part).screen.needsRebuild then return none
    let image ← onScreen (Swapchain.acquire d.slotIndex)
    changeFrame ({ · with image })
    return image

/-- What `screenTarget` does, with another exchange. -/
def screenTargetBy (x : SwapchainInfo → Run (Object .swapchain)) (action : PassAction) :
    DeviceStep (ActivePass × Option Target) := do
  changeFrame ({ · with screenPass := true })
  let image ← screenImageBy x
  let screen := (← RunOn.part).screen
  let active : ActivePass :=
    { extent := screen.extent
      signature := ⟨1, screen.colorFormat, some screenDepthFormat, 1⟩
      attachments := []
      resolves := false
      recording := image.isSome }
  match image with
  | none => return (active, none)
  | some index =>
    let framebuffer ← StepWith.orTrap screen.framebuffers[index]?
    let clears : List ClearValue :=
      [.color (action.color.getD .black),
       .depthStencil (action.depth.getD .one) (action.stencil.getD 0)]
    return (active, some ⟨screen.renderPass, framebuffer, clears⟩)

/-- What `beginPass` does, with another exchange. -/
def beginPassBy (x : SwapchainInfo → Run (Object .swapchain)) (pass : Option PassId)
    (action : PassAction) : DeviceStep Unit := do
  let d ← RunOn.part
  if d.active.isSome then Log.refuse source .nestedPass
  let (active, target) ←
    match pass with
    | some id => do
      let (active, target) ← StepWith.ofChecked (d.offscreenTarget id action)
      ensureFrame
      pure (active, some target)
    | none => do
      ensureFrame
      screenTargetBy x action
  if let some t := target then recordBegin active.extent t
  RunOn.change ({ · with active := some active })

/-- What `commitFrame` does, with another exchange. -/
def commitFrameBy (x : SwapchainInfo → Run (Object .swapchain)) : DeviceStep Unit := do
  if (← RunOn.part).active.isSome then Log.refuse source .commitInsidePass
  ensureFrame
  if !(← RunOn.part).frame.any (·.screenPass) then
    beginPassBy x none {}
    endPass
  handOver

/-- The step of an event, with another exchange. -/
def Event.performBy (x : SwapchainInfo → Run (Object .swapchain)) : Event → DeviceStep Unit
  | command (.beginPass pass action) => beginPassBy x pass action
  | command .commitFrame => commitFrameBy x
  | e => e.perform

/-! ### As it is -/

theorem createScreenBy_exchange {ctx : Context} {surface : Object .surface} {size : Extent}
    {vsync : Bool} {frames : ℕ} : createScreenBy Swapchain.exchange ctx surface size vsync frames =
      createScreen ctx surface size vsync frames := by
  rw [createScreenBy, Swapchain.createBy_exchange]
  rfl

theorem createBy_exchange {size : Extent} :
    createBy Swapchain.exchange w size config builtIn = create w size config builtIn := by
  have hite {β γ : Type} {c : Prop} [Decidable c] {y z : Run β} {f : β → Run γ} :
      (if c then y else z) >>= f = if c then y >>= f else z >>= f := by
    split <;> rfl
  simp only [createBy, prepare, createScreenBy_exchange, bind_assoc, hite, pure_bind]
  rfl

/-! ### Between exchanges -/

/-- This holds of the screen, and the window has this size. -/
def Displays (I : Swapchain × Host → Prop) (size : Extent) (s : Device × Host) : Prop :=
  I (s.1.screen, s.2) ∧ s.1.windowSize = size

variable {I J : Swapchain × Host → Prop} {size : Extent}

/-- Looking at the device tells the size of the window. -/
theorem displays_look {g : Device → DeviceStep α} {Q : α → Device × Host → Prop}
    {E : EngineError → Device × Host → Prop}
    (h : ∀ d, d.windowSize = size → Meets (Displays I size) (g d) Q E) :
    Meets (Displays I size) (RunOn.part >>= g) Q E :=
  fun s hs ↦ h s.1 hs.2 s hs

theorem sameFrom_look {g g' : Device → DeviceStep α}
    (h : ∀ d, d.windowSize = size → SameFrom (Displays I size) (g d) (g' d)) :
    SameFrom (Displays I size) (RunOn.part >>= g) (RunOn.part >>= g') :=
  fun s hs ↦ h s.1 hs.2 s hs

/-- Something is done with the screen. -/
theorem displays_onScreen {y : RunOn Swapchain α} (hy : Meets I y (fun _ ↦ J) fun _ ↦ J) :
    Meets (Displays I size) (onScreen y) (fun _ ↦ Displays J size) fun _ ↦ Displays J size := by
  exact .within fun s hs ↦ hy.mono (fun _ h ↦ h ▸ hs.1) (fun _ _ h ↦ ⟨h, hs.2⟩)
    fun _ _ h ↦ ⟨h, hs.2⟩

theorem displays_change {g : Device → Device} (hscreen : ∀ d, (g d).screen = d.screen)
    (hsize : ∀ d, (g d).windowSize = d.windowSize) :
    Keeps (Displays I size) (RunOn.change g) :=
  Meets.update fun s hs ↦ ⟨(hscreen s.1).symm ▸ hs.1, (hsize s.1).trans hs.2⟩

theorem displays_changeFrame {g : FrameState → FrameState} :
    Keeps (Displays I size) (changeFrame g) :=
  displays_change (fun _ ↦ rfl) fun _ ↦ rfl

section Persists

variable (hI : Swapchain.Persists I)
include hI

theorem Displays.journal (h : Displays I size s) (j : Log.Journal) :
    Displays I size (Log.HasJournal.journal.set j s) :=
  ⟨hI h.1 ⟨rfl, .refl _⟩, h.2⟩

/-- What keeps the screen state has nothing to do with the swapchain of the screen. -/
theorem displays_of_keepsScreen {y : DeviceStep α} (hy : ∀ s₀, Keeps (KeepsScreen s₀) y) :
    Keeps (Displays I size) y := by
  intro s hs
  have hkeep : ∀ t, KeepsScreen s t → Displays I size t := by
    intro t ht
    obtain ⟨hscreen, hsize, -⟩ : t.1.screen = s.1.screen ∧ t.1.windowSize = s.1.windowSize ∧
        _ := by simpa only [Device.setting, Prod.mk.injEq] using ht.setting
    exact ⟨hI hs.1 ⟨congrArg Swapchain.stem hscreen,
      ht.only.mono fun _ ↦ Call.keepsSwapchains_of_isOffScreen⟩, hsize.trans hs.2⟩
  exact (hy s s (.refl s)).mono (fun _ ↦ hkeep) fun _ ↦ hkeep

theorem displays_lift {y : Run α} (hy : Respects (Driver.Only Call.keepsSwapchains) y) :
    Keeps (Displays I size) (liftM y : DeviceStep α) :=
  Meets.snd fun d h hh ↦ (hI.run hy d.screen h hh.1).mono (fun _ _ h ↦ ⟨h, hh.2⟩)
    fun _ _ h ↦ ⟨h, hh.2⟩

theorem displays_slot : Keeps (Displays I size) slot :=
  displays_of_keepsScreen hI fun _ ↦ keepsScreen_slot

theorem displays_ensureFrame : Keeps (Displays I size) ensureFrame := by
  have hbegin (f : FrameSlot) : Respects (Driver.Only Call.keepsSwapchains) f.begin := by
    refine .bind (.perform (fun _ ↦ rfl) rfl) fun _ ↦ ?_
    refine .bind (.perform (fun _ ↦ rfl) rfl) fun _ ↦ ?_
    exact .bind (.perform (fun _ ↦ rfl) rfl) fun _ ↦ .perform (fun _ ↦ rfl) rfl
  refine displays_look fun _ _ ↦ ?_
  refine .ite (fun _ ↦ ?_) fun _ ↦ ?_
  · refine .bind (displays_slot hI) fun f ↦ ?_
    exact .bind (displays_lift hI (hbegin f)) fun _ ↦ displays_change (fun _ ↦ rfl) fun _ ↦ rfl
  · exact .pure fun _ hs ↦ hs

/-- The screen is asked for an image. -/
theorem displays_takeImage {n : ℕ} : Keeps (Displays I size) (do
    let image ← onScreen (Swapchain.acquire n)
    changeFrame ({ · with image })
    return image) := by
  refine .bind (displays_onScreen hI.acquire) fun _ ↦ ?_
  exact .bind displays_changeFrame fun _ ↦ .pure fun _ hs ↦ hs

theorem displays_handOver : Keeps (Displays I size) handOver := by
  have hsubmit (f : FrameSlot) {ctx : Context}
      {sync : Option (Object .semaphore × Object .semaphore)} :
      Respects (Driver.Only Call.keepsSwapchains) (f.submit ctx sync) :=
    .bind (.perform (fun _ ↦ rfl) rfl) fun _ ↦ .bind (.perform (fun _ ↦ rfl) rfl) fun _ ↦
      .perform (fun _ ↦ rfl) rfl
  have hnext : Keeps (Displays I size)
      (RunOn.change fun d ↦ { d with slotIndex := (d.slotIndex + 1) % d.slots.length }) :=
    displays_change (fun _ ↦ rfl) fun _ ↦ rfl
  refine displays_look fun _ _ ↦ ?_
  refine .bind (displays_change (fun _ ↦ rfl) fun _ ↦ rfl) fun _ ↦ ?_
  refine .bind (displays_slot hI) fun f ↦ ?_
  split
  · exact .bind (displays_lift hI (hsubmit f)) fun _ ↦ hnext
  · refine .orTrap_bind fun _ _ ↦ ?_
    refine .bind (displays_lift hI (hsubmit f)) fun _ ↦ ?_
    exact .bind (displays_onScreen hI.present) fun _ ↦ hnext

end Persists

/-! ### Commands -/

variable {s₀ : Swapchain} {k : Host}

theorem Displays.swapped (h : Displays (s₀.Awaits k) size s) :
    Displays (s₀.Swapped p k) size s :=
  ⟨h.1.swapped, h.2⟩

/-- A step before the exchange. -/
theorem swapped_before {y : DeviceStep α} (hy : Keeps (Displays (s₀.Awaits k) size) y) :
    Meets (Displays (s₀.Awaits k) size) y (fun _ ↦ Displays (s₀.Awaits k) size)
      fun _ ↦ Displays (s₀.Swapped p k) size :=
  hy.mono (fun _ h ↦ h) (fun _ _ h ↦ h) fun _ _ ↦ Displays.swapped

theorem swapped_ensureFrame :
    Meets (Displays (s₀.Awaits k) size) ensureFrame (fun _ ↦ Displays (s₀.Awaits k) size)
      fun _ ↦ Displays (s₀.Swapped p k) size :=
  swapped_before (displays_ensureFrame Swapchain.persists_awaits)

theorem swapped_handOver : Keeps (Displays (s₀.Swapped p k) size) handOver :=
  displays_handOver Swapchain.persists_swapped

/-- The screen is asked for an image after the exchange, or without one. -/
theorem swapped_takeImage {n : ℕ} : Keeps (Displays (s₀.Swapped p k) size) (do
    let image ← onScreen (Swapchain.acquire n)
    changeFrame ({ · with image })
    return image) :=
  displays_takeImage Swapchain.persists_swapped

/-- The pass becomes the active one after the exchange, or without one. -/
theorem swapped_enterPass {active : ActivePass} (target : Option Target) :
    Keeps (Displays (s₀.Swapped p k) size) (do
      if let some t := target then recordBegin active.extent t
      RunOn.change ({ · with active := some active }) : DeviceStep Unit) :=
  displays_of_keepsScreen Swapchain.persists_swapped fun _ ↦ keepsScreen_enterPass target

theorem displays_refuse_bind {β : Type} {cause : BackendCause} {f : α → DeviceStep β}
    {R : β → Device × Host → Prop} :
    Meets (Displays (s₀.Awaits k) size)
      ((Log.refuse source cause : DeviceStep α) >>= f) R
      fun _ ↦ Displays (s₀.Swapped p k) size :=
  .refuse_bind fun _ j h ↦ (h.journal Swapchain.persists_awaits j).swapped

/-- If the step exchanges the swapchain of the screen, the request is admissible. The screen was
`s₀` on the host `k`. -/
def Exchanges (o : Occasion) (s₀ : Swapchain) (k : Host) (y : DeviceStep α) : Prop :=
  Meets (Displays (s₀.Awaits k) o.size) y
    (fun _ ↦ Displays (s₀.Swapped (SwapchainInfo.IsAdmissible o) k) o.size)
    fun _ ↦ Displays (s₀.Swapped (SwapchainInfo.IsAdmissible o) k) o.size

section Occasion

variable {o : Occasion} (ho : o.offer.IsConsistent)
  (hk : k.driver.surface = o.offer) (hs₀ : s₀.StandsAt o)
include ho hk hs₀

theorem exchanges_screenImage : Exchanges o s₀ k screenImage := by
  refine displays_look fun d hd ↦ ?_
  split
  · exact .refuse fun _ j h ↦ (h.journal Swapchain.persists_awaits j).swapped
  · refine .ite (fun _ ↦ .pure fun _ ↦ Displays.swapped) fun _ ↦ ?_
    refine .bind (swapped_before displays_changeFrame) fun _ ↦ ?_
    refine .ite (fun _ ↦ ?_) fun _ ↦ swapped_takeImage.pre fun _ ↦ Displays.swapped
    rw [hd]
    refine .bind (displays_onScreen (Swapchain.swapped_rebuild ho hk hs₀)) fun _ ↦ ?_
    exact displays_look fun _ _ ↦ .ite (fun _ ↦ .pure fun _ h ↦ h) fun _ ↦ swapped_takeImage

theorem exchanges_screenTarget {action : PassAction} : Exchanges o s₀ k (screenTarget action) := by
  refine .bind (swapped_before displays_changeFrame) fun _ ↦ ?_
  refine .bind (exchanges_screenImage ho hk hs₀) fun image ↦ ?_
  refine displays_look fun _ _ ↦ ?_
  cases image with
  | none => exact .pure fun _ h ↦ h
  | some index => exact .orTrap_bind fun _ _ ↦ .pure fun _ h ↦ h

theorem exchanges_beginPass {pass : Option PassId} {action : PassAction} :
    Exchanges o s₀ k (beginPass pass action) := by
  refine displays_look fun d _ ↦ .ite (fun _ ↦ displays_refuse_bind) fun _ ↦ ?_
  cases pass with
  | none =>
    refine .bind swapped_ensureFrame fun _ ↦ ?_
    exact .bind (exchanges_screenTarget ho hk hs₀) fun ⟨_, target⟩ ↦ swapped_enterPass target
  | some id =>
    refine .bind (swapped_before .ofChecked) fun ⟨_, target⟩ ↦ ?_
    refine .bind swapped_ensureFrame fun _ ↦ ?_
    exact (swapped_enterPass (some target)).pre fun _ ↦ Displays.swapped

theorem exchanges_commitFrame : Exchanges o s₀ k commitFrame := by
  refine displays_look fun _ _ ↦ .ite (fun _ ↦ displays_refuse_bind) fun _ ↦ ?_
  refine .bind swapped_ensureFrame fun _ ↦ ?_
  refine displays_look fun _ _ ↦ ?_
  refine .ite (fun _ ↦ ?_) fun _ ↦ swapped_handOver.pre fun _ ↦ Displays.swapped
  refine .bind (exchanges_beginPass ho hk hs₀) fun _ ↦ ?_
  refine .bind (displays_of_keepsScreen Swapchain.persists_swapped fun _ ↦ keepsScreen_endPass)
    fun _ ↦ ?_
  exact swapped_handOver

theorem exchanges_command (c : GraphicsDevice.Command) :
    Exchanges o s₀ k (c.perform (σ := Device × Host)) := by
  cases c with
  | beginPass => exact exchanges_beginPass ho hk hs₀
  | commitFrame => exact exchanges_commitFrame ho hk hs₀
  | _ =>
    refine (displays_of_keepsScreen Swapchain.persists_swapped fun _ ↦ ?_).pre fun _ ↦
      Displays.swapped
    exact keepsScreen_command (by simp) (by simp)

/-! ### Commands with another exchange -/

variable (hx : Swapchain.IsExchange (SwapchainInfo.IsAdmissible o) x)
include hx

theorem sameFrom_screenImageBy :
    SameFrom (Displays (s₀.Awaits k) o.size) (screenImageBy x) screenImage := by
  refine sameFrom_look fun d hd ↦ ?_
  cases d.frame with
  | none => exact .refl
  | some frame =>
    refine .ite (fun _ ↦ .refl) fun _ ↦ ?_
    refine .bind displays_changeFrame fun _ ↦ ?_
    refine .ite (fun _ ↦ ?_) fun _ ↦ .refl
    rw [hd]
    exact .followed (.pre (.within (Swapchain.sameFrom_rebuildBy ho hk hs₀ hx)) fun _ hs ↦ hs.1)

theorem sameFrom_screenTargetBy {action : PassAction} :
    SameFrom (Displays (s₀.Awaits k) o.size) (screenTargetBy x action) (screenTarget action) :=
  .bind displays_changeFrame fun _ ↦ .followed (sameFrom_screenImageBy ho hk hs₀ hx)

theorem sameFrom_beginPassBy {pass : Option PassId} {action : PassAction} :
    SameFrom (Displays (s₀.Awaits k) o.size) (beginPassBy x pass action)
      (beginPass pass action) := by
  refine sameFrom_look fun d _ ↦ .ite (fun _ ↦ .refuse_bind) fun _ ↦ ?_
  cases pass with
  | none =>
    exact .bind (displays_ensureFrame Swapchain.persists_awaits) fun _ ↦
      .followed (sameFrom_screenTargetBy ho hk hs₀ hx)
  | some id => exact .refl

theorem sameFrom_commitFrameBy :
    SameFrom (Displays (s₀.Awaits k) o.size) (commitFrameBy x) commitFrame := by
  refine sameFrom_look fun _ _ ↦ ?_
  refine .ite (fun _ ↦ .refuse_bind) fun _ ↦ ?_
  refine .bind (displays_ensureFrame Swapchain.persists_awaits) fun _ ↦ ?_
  refine sameFrom_look fun _ _ ↦ ?_
  exact .ite (fun _ ↦ .followed (sameFrom_beginPassBy ho hk hs₀ hx)) fun _ ↦ .refl

theorem sameFrom_performBy (e : Event) :
    SameFrom (Displays (s₀.Awaits k) o.size) (e.performBy x) e.perform := by
  cases e with
  | command c =>
    cases c with
    | beginPass pass action => exact sameFrom_beginPassBy ho hk hs₀ hx
    | commitFrame => exact sameFrom_commitFrameBy ho hk hs₀ hx
    | _ => exact .refl
  | resize | surround => exact .refl

end Occasion

/-! ### Setting up -/

theorem keepsSwapchains_of_beforeScreen {c : Call} (h : beforeScreen c = true) :
    c.keepsSwapchains = true :=
  Call.keepsSwapchains_of_touches (by decide) (by decide) h

theorem only_openGpu {c : Choice} : Respects (Driver.Only Call.keepsSwapchains) (openGpu c) := by
  refine .bind (.setUpMake (fun _ ↦ rfl) fun _ ↦ rfl) fun _ ↦ ?_
  refine .bind (.driving fun _ ↦ .of_continues Driver.continues_fresh) fun _ ↦ ?_
  refine .bind (.setUpMake (fun _ ↦ rfl) fun _ ↦ rfl) fun _ ↦ ?_
  refine .bind (.setUpMake (fun _ ↦ rfl) fun _ ↦ rfl) fun _ ↦ ?_
  exact .get_bind fun _ ↦ .pure

/-- Before its screen a device has no swapchain. -/
theorem only_prepare :
    Respects (Driver.Only Call.keepsSwapchains) (prepare w config builtIn) := by
  intro d
  have hbefore {α : Type} {y : Run α} (hy : Respects (Driver.Only beforeScreen) y) :
      Keeps (fun h ↦ d.Only Call.keepsSwapchains h.driver) y :=
    hy.only_mono (fun _ ↦ keepsSwapchains_of_beforeScreen) d
  have hslots {frames : Object .commandPool} {n : ℕ} :
      Respects (Driver.Only Call.keepsSwapchains) (FrameSlot.createMany frames [] n) :=
    FrameSlot.only_createMany.only_mono fun _ ↦
      Call.keepsSwapchains_of_touches (by decide) (by decide)
  have hlisten : Keeps (fun h ↦ d.Only Call.keepsSwapchains h.driver) (listen config) :=
    hbefore only_listen
  refine .get_bind fun _ ↦ ?_
  refine .ite (fun _ ↦ meets_giveUp_bind fun _ _ hh ↦ hh) fun _ ↦ ?_
  refine .ite (fun _ ↦ .fail_bind fun _ hh ↦ hh) fun _ ↦ ?_
  refine .bind (only_displayOf d) fun _ ↦ ?_
  refine .bind (only_extensionsOf d) fun _ ↦ ?_
  refine .bind (only_decideValidation d) fun _ ↦ ?_
  refine .bind (hbefore (.setUpMake (fun _ ↦ rfl) fun _ ↦ rfl)) fun connection ↦ ?_
  refine .ite_bind (Q := fun _ (h : Host) ↦ d.Only Call.keepsSwapchains h.driver)
    (.ite (fun _ ↦ .map hlisten) fun _ ↦ .pure fun _ hh ↦ hh) fun messenger ↦ ?_
  refine .bind (hbefore only_createSurface) fun surface ↦ ?_
  refine .bind (only_pickGpu d) fun choice ↦ ?_
  refine .bind (only_openGpu d) fun ⟨context, framePool⟩ ↦ ?_
  refine .bind (Q := fun _ (h : Host) ↦ d.Only Call.keepsSwapchains h.driver)
    (.update fun _ hh ↦ hh) fun _ ↦ ?_
  exact .bind (hslots d) fun _ ↦ .pure fun _ hh ↦ hh

/-- The screen is new on the occasion. If it has a swapchain, the request for it was admissible. -/
def Starts (o : Occasion) (k : Host) (q : Swapchain × Host) : Prop :=
  ∃ s₀ : Swapchain, s₀.StandsAt o ∧ s₀.Swapped (SwapchainInfo.IsAdmissible o) k q

theorem persists_starts {o : Occasion} : Swapchain.Persists (Starts o k) := by
  rintro q q' ⟨s₀, hs₀, h⟩ h'
  exact ⟨s₀, hs₀, Swapchain.persists_swapped h h'⟩

section Setup

variable {o : Occasion} (hformats : k.driver.surface.formats = o.formats)
  (hcurrent : o.current = .null) (ho : o.offer.IsConsistent) (hk : k.driver.surface = o.offer)
include hformats hcurrent ho hk

theorem starts_createScreen {ctx : Context} {surface : Object .surface} {frames : ℕ} :
    Meets (fun h ↦ k.driver.Only Call.keepsSwapchains h.driver)
      (createScreen ctx surface o.size o.vsync frames) (fun r h ↦ Starts o k (r.1, h))
      fun _ _ ↦ True := by
  have hsampler : Respects (Driver.Only Call.keepsSwapchains)
      (setUp "create sampler" "create sampler" (Driver.create .createSampler .createSampler)) :=
    .setUpMake (fun _ ↦ rfl) fun _ ↦ rfl
  refine .bind (Swapchain.swapped_create hformats hcurrent ho hk) fun screen ↦ ?_
  exact .bind (meets_undoing (persists_starts.run hsampler screen)) fun _ ↦ .pure fun _ hh ↦ hh

/-- A device that was set up has a new screen. -/
theorem starts_create (hvsync : config.vsync = o.vsync) :
    Meets (fun h ↦ k.driver.Only Call.keepsSwapchains h.driver)
      (create w o.size config builtIn) (fun d h ↦ Displays (Starts o k) o.size (d, h))
      fun _ _ ↦ True := by
  have hannounce {choice : Choice} {found : Capabilities} :
      Respects (Driver.Only Call.keepsSwapchains) (announce choice found) :=
    .bind .note fun _ ↦ .ite .note .pure
  rw [← createBy_exchange, createBy, hvsync]
  refine .bind (Meets.lax (only_prepare k.driver)) fun _ ↦ ?_
  refine .bind (Q := fun (r : Swapchain × Object .sampler) (h : Host) ↦ Starts o k (r.1, h)) ?_
    fun ⟨screen, sampler⟩ ↦ ?_
  · rw [createScreenBy_exchange]
    exact meets_undoing (starts_createScreen hformats hcurrent ho hk)
  · refine .bind (Meets.lax (persists_starts.run hannounce screen)) fun _ ↦ ?_
    exact .pure fun _ hh ↦ ⟨hh, rfl⟩

theorem sameFrom_createBy (hvsync : config.vsync = o.vsync)
    (hx : Swapchain.IsExchange (SwapchainInfo.IsAdmissible o) x) :
    SameFrom (fun h ↦ k.driver.Only Call.keepsSwapchains h.driver)
      (createBy x w o.size config builtIn) (create w o.size config builtIn) := by
  rw [← createBy_exchange, createBy, createBy, hvsync]
  refine .bind (only_prepare k.driver) fun r ↦ ?_
  rw [createScreenBy_exchange]
  exact .followed (.undoing (.followed (Swapchain.sameFrom_createBy hformats hcurrent ho hk hx)))

end Setup

/-! ### Occasions -/

/-- The swapchain of a device with the calls made so far. -/
def ledger (s : Device × Host) : Object .swapchain × List Call :=
  (s.1.screen.swapchain, s.2.driver.calls)

/-- The occasion after an event. The window or the surface may be another one then. -/
def Event.occasion (o : Occasion) : Event → Occasion
  | resize size => { o with size }
  | surround u => { o with offer := u.surface }
  | command _ => o

/-- The occasion with the swapchain that a device has. -/
def occasionOf (o : Occasion) (s : Device × Host) : Occasion :=
  { o with current := s.1.screen.swapchain }

/-- What surfaces say of themselves makes sense throughout. -/
def ConsistentThroughout (events : List Event) : Prop :=
  ∀ u, .surround u ∈ events → u.surface.IsConsistent

/-- On the occasion the event only makes admissible requests. -/
structure Event.Admits (o : Occasion) (e : Event) (s : Device × Host) : Prop where
  /-- It would be the same if other requests were treated in another way, however the event ends. -/
  requests : ∀ x, Swapchain.IsExchange (SwapchainInfo.IsAdmissible o) x →
    e.performBy x s = e.perform s
  /-- The swapchain is exchanged for those asked for, or the request is refused. -/
  swaps : ∀ t, e.perform.settle s = some t →
    Swaps (SwapchainInfo.IsAdmissible o) (ledger s) (ledger t)

/-- The device gets to the occasion, whichever swapchain it has, and its swapchains were exchanged
one for the other. -/
structure Reaches (o : Occasion) (s : Device × Host) : Prop where
  /-- The screen. -/
  screen : s.1.screen.StandsAt (occasionOf o s)
  /-- The window. -/
  size : s.1.windowSize = o.size
  /-- The surface. -/
  offer : s.2.driver.surface = o.offer
  /-- The surface makes sense. -/
  consistent : o.offer.IsConsistent
  /-- The swapchains. -/
  swaps : Swaps (fun _ ↦ True) (.null, []) (ledger s)

variable {o : Occasion} {e : Event} {events : List Event}

theorem Reaches.displays (hs : Reaches o s) :
    Displays (s.1.screen.Awaits s.2) (occasionOf o s).size s :=
  ⟨.refl _ _, hs.size⟩

/-- What a command leaves of a device that got to the occasion. -/
theorem Reaches.swapped {c : GraphicsDevice.Command} (hs : Reaches o s)
    (ht : (Event.command c).perform.settle s = some t) :
    Displays (s.1.screen.Swapped (SwapchainInfo.IsAdmissible (occasionOf o s)) s.2) o.size t :=
  Meets.settle (exchanges_command (o := occasionOf o s) hs.consistent hs.offer hs.screen c)
    hs.displays ht

theorem Reaches.admits (hs : Reaches o s) (e : Event) : e.Admits (occasionOf o s) s where
  requests x hx :=
    sameFrom_performBy (o := occasionOf o s) hs.consistent hs.offer hs.screen hx e s hs.displays
  swaps t ht := by
    cases e with
    | command c => exact (hs.swapped ht).1.swaps
    | resize size =>
      obtain rfl := Option.some.inj ht
      exact .refl
    | surround u =>
      obtain rfl := Option.some.inj ht
      exact .refl

/-- One event gets the device to the next occasion. -/
theorem Reaches.perform (hs : Reaches o s) (he : ConsistentThroughout [e])
    (ht : e.perform.settle s = some t) : Reaches (e.occasion o) t := by
  have hswaps : Swaps (fun _ ↦ True) (.null, []) (ledger t) :=
    hs.swaps.trans (((hs.admits e).swaps t ht).mono fun _ _ ↦ trivial)
  cases e with
  | command c =>
    obtain ⟨⟨hformat, hvsync, hsurface, -⟩, hsize⟩ := hs.swapped ht
    exact ⟨⟨hformat ▸ hs.screen.format, hvsync.trans hs.screen.vsync, rfl⟩, hsize,
      hsurface.trans hs.offer, hs.consistent, hswaps⟩
  | resize size =>
    obtain rfl := Option.some.inj ht
    exact ⟨⟨hs.screen.format, hs.screen.vsync, rfl⟩, rfl, hs.offer, hs.consistent, hswaps⟩
  | surround u =>
    obtain rfl := Option.some.inj ht
    exact ⟨⟨hs.screen.format, hs.screen.vsync, rfl⟩, hs.size, rfl,
      he u (List.mem_singleton_self _), hswaps⟩

/-- A run gets the device to the occasion after its events. -/
theorem Reaches.run (hs : Reaches o s) (he : ConsistentThroughout events)
    (ht : run events s = some t) : Reaches (events.foldl Event.occasion o) t := by
  induction events generalizing o s with
  | nil => exact Option.some.inj ht ▸ hs
  | cons e events ih =>
    obtain ⟨u, hu, ht⟩ := Option.bind_eq_some_iff.1 ht
    refine ih (hs.perform (fun v hv ↦ he v ?_) hu) (fun v hv ↦ he v (List.mem_cons_of_mem e hv)) ht
    exact List.mem_cons.2 (.inl (List.mem_singleton.1 hv))

/-- **Every swapchain that is asked for is admissible.** A device is set up on a fresh host, and any
events happen to it; what surfaces say of themselves makes sense throughout. Then every request for
a swapchain is admissible on its occasion: those of the set-up, whatever comes of that, and those of
each event, also if they fail. Each swapchain that is made takes the place of the one there is, one
that is refused leaves it there, and a swapchain was destroyed just if another one was made in its
place. -/
theorem run_admissible {h : Host} {size : Extent} (hh : h.IsFresh)
    (hc : h.driver.surface.IsConsistent) :
    let o : Occasion := ⟨h.driver.surface.formats, config.vsync, h.driver.surface, size, .null⟩
    (∀ x, Swapchain.IsExchange (SwapchainInfo.IsAdmissible o) x →
        createBy x w size config builtIn h = create w size config builtIn h) ∧
      ∀ s, create w size config builtIn h = .ok s.1 s.2 →
        Swaps (SwapchainInfo.IsAdmissible o) (.null, []) (ledger s) ∧
        ∀ events t, ConsistentThroughout events → run events s = some t →
          (∀ e : Event, e.Admits (occasionOf (events.foldl Event.occasion o) t) t) ∧
          ∀ old, old ≠ .null → (.destroy old.any ∈ t.2.driver.calls ↔
            ∃ new info, .createSwapchain new info ∈ t.2.driver.calls ∧ info.old = old) := by
  intro o
  refine ⟨fun x hx ↦ sameFrom_createBy (o := o) rfl rfl hc rfl rfl hx h (.refl _),
    fun s hs ↦ ?_⟩
  obtain ⟨⟨s₀, hs₀, hswapped⟩, hsize⟩ : Displays (Starts o h) o.size s :=
    (starts_create (o := o) rfl rfl hc rfl rfl).ok (.refl _) hs
  have hswaps : Swaps (SwapchainInfo.IsAdmissible o) (.null, []) (ledger s) := by
    have hswaps := hswapped.swaps
    rwa [hs₀.current, hh.calls] at hswaps
  have hreaches : Reaches o s := {
    screen := ⟨hswapped.format ▸ hs₀.format, hswapped.vsync.trans hs₀.vsync, rfl⟩
    size := hsize
    offer := hswapped.surface
    consistent := hc
    swaps := hswaps.mono fun _ _ ↦ trivial }
  refine ⟨hswaps, fun events t he ht ↦ ?_⟩
  have hrun := hreaches.run he ht
  exact ⟨hrun.admits, fun old hold ↦ hrun.swaps.destroy_mem_iff hold⟩

/-- The window changes its size, and the next frame exchanges the swapchain of the set-up. -/
theorem run_admissible_after_resize :
    ∃ s t : Device × Host,
      create plainWindow ⟨640, 480⟩ {} false (plainHost plainSurface []) = .ok s.1 s.2 ∧
      run [.resize ⟨800, 600⟩, .command .commitFrame] s = some t ∧
      (∃ new info, .createSwapchain new info ∈ t.2.driver.calls ∧
        info.old = s.1.screen.swapchain) ∧
      .destroy s.1.screen.swapchain.any ∈ t.2.driver.calls ∧
      (Event.command .commitFrame).Admits
        ⟨[⟨44, 0⟩], true, plainSurface, ⟨800, 600⟩, t.1.screen.swapchain⟩ t := by
  obtain ⟨s, hcreate, hcheck⟩ := exists_created plainSurface []
    (fun s ↦ !s.1.screen.swapchain.isNull &&
      (run [.resize ⟨800, 600⟩, .command .commitFrame] s).any fun t ↦
        t.2.driver.calls.contains (.destroy s.1.screen.swapchain.any)) (by decide +kernel)
  simp only [Bool.and_eq_true, Bool.not_eq_true'] at hcheck
  obtain ⟨t, ht, hdestroy⟩ := (Option.any_eq_true _ _).1 hcheck.2
  have hdestroy := List.contains_iff_mem.1 hdestroy
  have hnull : s.1.screen.swapchain ≠ .null := by
    intro hnull
    rw [hnull] at hcheck
    cases hcheck.1
  have hconsistent : ConsistentThroughout [.resize ⟨800, 600⟩, .command .commitFrame] := by
    intro u hu
    simp at hu
  obtain ⟨-, hset⟩ := @run_admissible plainWindow {} false (plainHost plainSurface []) ⟨640, 480⟩
    ⟨rfl, rfl⟩ (by decide)
  obtain ⟨hadmits, hended⟩ := (hset s hcreate).2 _ t hconsistent ht
  exact ⟨s, t, hcreate, ht, (hended _ hnull).1 hdestroy, hdestroy, hadmits _⟩

end RenderTargets.Vulkan.Device
