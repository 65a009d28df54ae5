import RenderTargets.Proofs.Vulkan.ScreenState
import RenderTargets.Proofs.Vulkan.Renewal
/-!
# What is done for a frame

Triples of what a frame needs of its slot and of the screen: the slot is waited for and later handed
over, the screen is built anew if it has to be, asked for an image, and shows it. They say exactly
which calls that takes if the driver is **obliging**, and nothing if it is not.
-/

namespace RenderTargets.Vulkan

open StepWith Run

variable {α : Type} {ctx : Context} {offer : SurfaceOffer} {l : List Call} {name : CallName}
  {action : String} {k : Host}

/-- The host made these calls, and its surface offers this. -/
structure Host.IsAt (offer : SurfaceOffer) (l : List Call) (h : Host) : Prop where
  /-- The calls. -/
  calls : h.driver.calls = l
  /-- The offer. -/
  surface : h.driver.surface = offer

/-- With one of the calls since these the driver was not obliging. -/
structure Host.IsLetDown (base : List Call) (h : Host) : Prop where
  /-- The calls go on. -/
  suffix : base <:+ h.driver.calls
  /-- The driver was not obliging. -/
  not_obliging : ¬Obliging h.driver.calls

theorem Host.IsLetDown.since (h : k.IsLetDown l) {base : List Call} (hl : base <:+ l) :
    k.IsLetDown base :=
  ⟨hl.trans h.suffix, h.not_obliging⟩

/-! ### Slots -/

theorem meets_performAt {c : Call} {base : List Call} (hname : name ≠ .acquire) (hl : base <:+ l) :
    Meets (Host.IsAt offer l) (work action (Driver.perform name c))
      (fun _ ↦ Host.IsAt offer (c :: l)) fun _ ↦ Host.IsLetDown base := by
  refine meets_work (fun h _ d hh hd ↦ ?_) (fun h code d hh hd ↦ ?_)
    fun _ _ hh ↦ ⟨hh.suffix, hh.not_obliging⟩
  · rw [Driver.perform_ok hd]
    exact ⟨congrArg (c :: ·) hh.calls, hh.surface⟩
  · rw [Driver.perform_error hd]
    exact ⟨(hh.calls ▸ hl).trans (List.suffix_cons _ _), not_obliging_of_failed hname⟩

namespace FrameSlot

variable {f : FrameSlot}

theorem meets_beginAt :
    Meets (Host.IsAt offer l) f.begin
      (fun _ ↦ Host.IsAt offer ([.beginCommandBuffer f.commands, .resetCommandBuffer f.commands,
        .resetDescriptorPool f.pool] ++ .waitForFence f.fence :: l))
      fun _ ↦ Host.IsLetDown l := by
  refine .bind (meets_performAt nofun (List.suffix_refl _)) fun _ ↦ ?_
  refine .bind (meets_performAt nofun ⟨[_], rfl⟩) fun _ ↦ ?_
  exact .bind (meets_performAt nofun ⟨[_, _], rfl⟩) fun _ ↦ meets_performAt nofun ⟨[_, _, _], rfl⟩

theorem meets_submitAt {sync : Option (Object .semaphore × Object .semaphore)} :
    Meets (Host.IsAt offer l) (f.submit ctx sync)
      (fun _ ↦ Host.IsAt offer (.submit ctx.queue (f.submission sync) f.fence ::
        ([.resetFence f.fence, .endCommandBuffer f.commands] ++ l)))
      fun _ ↦ Host.IsLetDown l := by
  refine .bind (meets_performAt nofun (List.suffix_refl _)) fun _ ↦ ?_
  exact .bind (meets_performAt nofun ⟨[_], rfl⟩) fun _ ↦ meets_performAt nofun ⟨[_, _], rfl⟩

end FrameSlot

/-! ### Building the screen anew -/

theorem Driver.calls_createSwapchain {info : SwapchainInfo} {d d' : Driver}
    {o : Object .swapchain} (h : createSwapchain info d = (.ok o, d')) :
    d'.calls = .createSwapchain o info :: d.calls := by
  rw [createSwapchain] at h
  split at h
  · next o' d'' hd =>
    have hcalls : d''.calls = .createSwapchain o' info :: d.calls := by rw [(create_ok hd).2]; rfl
    cases h
    exact continues_freshMany.calls.trans hcalls
  · next hno => exact (hno _ _ h).elim

namespace Swapchain

variable {s t : Swapchain} {anew : Prop}

/-- What of the screen matters to its images. -/
def core (s : Swapchain) : List (Object .semaphore) × Bool × Object .swapchain :=
  (s.imageAvailable, s.needsRebuild, s.swapchain)

/-- The screen `s` is being built anew on the host `k`, and maybe the swapchain was made already. -/
structure IsBeingBuilt (s : Swapchain) (k : Host) (anew : Prop) (p : Swapchain × Host) : Prop where
  /-- The semaphores of the slots are the same. -/
  available : p.1.imageAvailable = s.imageAvailable
  /-- So is the mark. -/
  marked : p.1.needsRebuild = s.needsRebuild
  /-- The calls are those for the screen. -/
  only : k.driver.Only Call.ofScreen p.2.driver
  /-- The swapchain was made. -/
  made : anew → ∃ info l, p.2.driver.calls = l ++ k.driver.calls ∧
    .createSwapchain p.1.swapchain info ∈ l

/-- More is built. -/
theorem IsBeingBuilt.more {p q : Swapchain × Host} (h : s.IsBeingBuilt k anew p)
    (hcore : q.1.core = p.1.core) (ho : p.2.driver.Only Call.ofScreen q.2.driver) :
    s.IsBeingBuilt k anew q := by
  obtain ⟨ha, hm, hs⟩ : q.1.imageAvailable = p.1.imageAvailable ∧
      q.1.needsRebuild = p.1.needsRebuild ∧ q.1.swapchain = p.1.swapchain := by
    simpa [core] using hcore
  refine ⟨ha.trans h.available, hm.trans h.marked, h.only.trans ho, fun hanew ↦ ?_⟩
  obtain ⟨info, l, hl, hmem⟩ := h.made hanew
  obtain ⟨l', hl', -⟩ := ho.calls
  exact ⟨info, l' ++ l, by rw [hl', hl, List.append_assoc],
    List.mem_append_right l' (hs ▸ hmem)⟩

theorem IsBeingBuilt.journal {h : Host} (hh : s.IsBeingBuilt k anew (t, h)) (j : Log.Journal) :
    s.IsBeingBuilt k anew (t, { h with journal := j }) :=
  ⟨hh.available, hh.marked, hh.only, hh.made⟩

theorem built_run {x : Run α} (hx : Run.Respects (Driver.Only Call.ofScreen) x) (t : Swapchain) :
    Keeps (fun h ↦ s.IsBeingBuilt k anew (t, h)) x := fun h hh ↦
  (hx h.driver h (.refl _)).mono (fun _ _ ho ↦ hh.more rfl ho) fun _ _ ho ↦ hh.more rfl ho

/-- What makes and ends parts of the screen builds it. -/
theorem built_keeps {x : RunOn Swapchain α} (hx : RunOn.Respects (Driver.Only Call.ofScreen) x)
    (hcore : RunOn.Leaves core x) : Keeps (s.IsBeingBuilt k anew) x := fun p hp ↦
  (((hx p.2.driver).and (hcore p.1.core)) p ⟨.refl _, rfl⟩).mono
    (fun _ _ ht ↦ hp.more ht.2 ht.1) fun _ _ ht ↦ hp.more ht.2 ht.1

theorem built_lift {x : Run α} (hx : Run.Respects (Driver.Only Call.ofScreen) x) :
    Keeps (s.IsBeingBuilt k anew) (liftM x : RunOn Swapchain α) := built_keeps (.lift hx) .lift

theorem built_part_bind {g : Swapchain → RunOn Swapchain α} {Q : α → Swapchain × Host → Prop}
    {E : EngineError → Swapchain × Host → Prop}
    (h : ∀ t, Meets (s.IsBeingBuilt k anew) (g t) Q E) :
    Meets (s.IsBeingBuilt k anew) (RunOn.part >>= g) Q E :=
  fun p hp ↦ h p.1 p hp

theorem leaves_addViews (images : List (Object .screenImage)) :
    RunOn.Leaves core (addViews images) := by
  induction images with
  | nil => exact .pure
  | cons image rest ih =>
    exact .part_bind fun _ ↦ .bind .lift fun _ ↦ .bind (.change fun _ ↦ rfl) fun _ ↦ ih

theorem leaves_addFramebuffers (depth : Image) (views : List (Object .view)) :
    RunOn.Leaves core (addFramebuffers depth views) := by
  induction views with
  | nil => exact .pure
  | cons view rest ih =>
    exact .part_bind fun _ ↦ .bind .lift fun _ ↦ .bind (.change fun _ ↦ rfl) fun _ ↦ ih

theorem leaves_addDepth : RunOn.Leaves core (addDepth ctx) := by
  refine .part_bind fun _ ↦ ?_
  refine .bind .lift fun depth ↦ ?_
  refine .bind (.undoing depth.silent_drop (leaves_addFramebuffers depth _)) fun _ ↦ ?_
  exact .change fun _ ↦ rfl

theorem leaves_addRenderFinished (n : ℕ) : RunOn.Leaves core (addRenderFinished n) := by
  induction n with
  | zero => exact .pure
  | succ n ih => exact .bind .lift fun _ ↦ .bind (.change fun _ ↦ rfl) fun _ ↦ ih

/-- Whatever is built, the semaphores of the slots stay. -/
theorem leaves_build {size : Extent} : RunOn.Leaves imageAvailable (build ctx size) := by
  have hcore {α : Type} {x : RunOn Swapchain α} (hx : RunOn.Leaves core x) :
      RunOn.Leaves imageAvailable x := hx.comp Prod.fst
  refine .get_bind fun _ ↦ ?_
  refine .bind .lift fun _ ↦ ?_
  refine .bind .lift fun _ ↦ ?_
  refine .bind .orTrap fun _ ↦ ?_
  refine .ite ?_ ?_
  · exact .bind .note fun _ ↦ .change fun _ ↦ rfl
  · have hreplace {c : SurfaceCapabilities} {modes : List Code} {extent : Extent} :
        RunOn.Leaves imageAvailable (replace c modes extent) := by
      refine .part_bind fun _ ↦ ?_
      refine .bind .orTrap fun _ ↦ ?_
      refine .bind .lift fun _ ↦ .bind .lift fun _ ↦ ?_
      refine .bind (.change fun _ ↦ rfl) fun _ ↦ ?_
      exact .bind .lift fun _ ↦ .change fun _ ↦ rfl
    refine .bind hreplace fun _ ↦ ?_
    refine .part_bind fun _ ↦ ?_
    refine .bind (hcore (leaves_addViews _)) fun _ ↦ ?_
    refine .bind (hcore leaves_addDepth) fun _ ↦ ?_
    exact .part_bind fun _ ↦ hcore (leaves_addRenderFinished _)

theorem meets_length_addImageAvailable (n : ℕ) {m : ℕ} :
    Meets (fun p : Swapchain × Host ↦ p.1.imageAvailable.length = m) (addImageAvailable n)
      (fun _ p ↦ p.1.imageAvailable.length = m + n) fun _ _ ↦ True := by
  induction n generalizing m with
  | zero => exact .pure fun _ h ↦ h
  | succ n ih =>
    have hmake : RunOn.Leaves (fun s : Swapchain ↦ s.imageAvailable.length)
        (liftM (setUp "create image-available semaphore" "create semaphore"
          (Driver.create .createSemaphore .createSemaphore)) : RunOn Swapchain _) := .lift
    refine .bind (hmake m).lax fun o ↦ ?_
    refine .bind (Q := fun _ p ↦ p.1.imageAvailable.length = m + 1) (Meets.update fun p hp ↦ ?_)
      fun _ ↦ ih.post fun _ _ h ↦ h.trans (Nat.succ_add_eq_add_succ m n)
    exact List.length_append.trans (congrArg (· + 1) hp)

/-- A new screen has a semaphore for each frame ahead of the GPU. -/
theorem answers_length_create {surface : Object .surface} {size : Extent} {vsync : Bool}
    {frames : ℕ} : Answers (create ctx surface size vsync frames)
      fun s ↦ s.imageAvailable.length = frames := by
  refine .skip fun _ ↦ .skip fun _ ↦ .skip fun _ ↦ .of_meets (RunOn.meets_construct ?_)
  refine .bind ((meets_length_addImageAvailable frames).pre fun p hp ↦ ?_) fun _ ↦
    Meets.lax ((leaves_build.comp List.length) (0 + frames)) |>.post fun _ _ h ↦ ?_
  · rw [hp.1]
    rfl
  · exact h.trans (zero_add frames)

/-- From here on the swapchain is a new one. -/
theorem built_createSwapchain {info : SwapchainInfo} {logged action : String} :
    Meets (fun h ↦ s.IsBeingBuilt k False (t, h))
      (setUp logged action (Driver.createSwapchain info))
      (fun o h ↦ ∀ u : Swapchain, u.core = (t.imageAvailable, t.needsRebuild, o) →
        s.IsBeingBuilt k True (u, h))
      fun _ h ↦ s.IsBeingBuilt k False (t, h) := by
  have honly (d : Driver) : d.Only Call.ofScreen (Driver.createSwapchain info d).2 :=
    .createSwapchain (fun _ ↦ rfl) fun _ ↦ rfl
  refine meets_setUp (fun h o d hh hd u hu ↦ ?_) (fun h code d hh hd ↦ ?_)
    fun _ j hh ↦ hh.journal j
  · obtain ⟨l, hl, -⟩ := hh.only.calls
    have hcall : d.calls = (.createSwapchain o info :: l) ++ k.driver.calls := by
      rw [Driver.calls_createSwapchain hd, hl, List.cons_append]
    have hmore := honly h.driver
    rw [hd] at hmore
    have hstart : s.IsBeingBuilt k False (t, { h with driver := d }) :=
      ⟨hh.available, hh.marked, hh.only.trans hmore, False.elim⟩
    have hu' : u.core = { t with swapchain := o }.core := hu
    refine ⟨?_, ?_, hstart.only, fun _ ↦ ⟨info, _, hcall, ?_⟩⟩
    · exact (congrArg Prod.fst hu).trans hstart.available
    · exact (congrArg (·.2.1) hu).trans hstart.marked
    · rw [show u.swapchain = o from congrArg (·.2.2) hu]
      exact List.mem_cons_self
  · have hmore := honly h.driver
    rw [hd] at hmore
    exact ⟨hh.available, hh.marked, hh.only.trans hmore, False.elim⟩

theorem IsBeingBuilt.forget {p : Swapchain × Host} (h : s.IsBeingBuilt k anew p) :
    s.IsBeingBuilt k False p :=
  ⟨h.available, h.marked, h.only, False.elim⟩

/-- What goes wrong with a new swapchain goes wrong with the screen. -/
theorem built_anew {x : RunOn Swapchain α} (hx : Keeps (s.IsBeingBuilt k True) x) :
    Meets (s.IsBeingBuilt k True) x (fun _ ↦ s.IsBeingBuilt k True)
      fun _ ↦ s.IsBeingBuilt k False :=
  Meets.mono hx (fun _ h ↦ h) (fun _ _ h ↦ h) fun _ _ ↦ IsBeingBuilt.forget

theorem built_replace {c : SurfaceCapabilities} {modes : List Code} {extent : Extent} :
    Meets (s.IsBeingBuilt k False) (replace c modes extent) (fun _ ↦ s.IsBeingBuilt k True)
      fun _ ↦ s.IsBeingBuilt k False := by
  refine RunOn.meets_at fun t ↦ ?_
  refine RunOn.meets_part_bind ?_
  refine .orTrap_bind fun info _ ↦ ?_
  refine RunOn.meets_lift_bind built_createSwapchain (fun _ _ hh ↦ hh) fun o ↦ ?_
  have hdestroy : Meets (fun h ↦ s.IsBeingBuilt k True ({ t with swapchain := o, extent }, h))
      (Run.destroy t.swapchain)
      (fun _ h ↦ s.IsBeingBuilt k True ({ t with swapchain := o, extent }, h)) fun _ _ ↦ False :=
    Silent.destroy.meets (built_run (.destroy rfl) _)
  refine RunOn.meets_lift_bind (hdestroy.pre fun _ hh ↦ hh _ rfl) (fun _ _ hno ↦ hno.elim)
    fun _ ↦ ?_
  refine RunOn.meets_change_bind ?_
  refine Meets.pre (P := s.IsBeingBuilt k True) (.bind (built_anew (built_lift (.setUp fun _ ↦
    .of_continues Driver.continues_enumerate))) fun _ ↦
      built_anew (built_keeps .change (.change fun _ ↦ rfl))) ?_
  rintro ⟨_, h⟩ ⟨rfl, hh⟩
  exact hh

/-- With pixels there is a new swapchain. -/
theorem built_build {size : Extent} (hp : k.driver.surface.HasPixels size) :
    Meets (s.IsBeingBuilt k False) (build ctx size) (fun _ ↦ s.IsBeingBuilt k True)
      fun _ ↦ s.IsBeingBuilt k False := by
  refine RunOn.meets_at fun t ↦ RunOn.meets_get_bind fun h hh ↦ ?_
  have hask : Meets (fun h' ↦ s.IsBeingBuilt k False (t, h'))
      (setUp "get surface capabilities" "get surface capabilities"
        (Driver.query .surfaceCapabilities h.driver.surface.capabilities))
      (fun c h' ↦ c = k.driver.surface.capabilities ∧ s.IsBeingBuilt k False (t, h'))
      fun _ h' ↦ s.IsBeingBuilt k False (t, h') := by
    have hquery (h' : Host) (hh : s.IsBeingBuilt k False (t, h')) : s.IsBeingBuilt k False
        (t, { h' with driver := (Driver.query .surfaceCapabilities
          h.driver.surface.capabilities h'.driver).2 }) :=
      ⟨hh.available, hh.marked, hh.only.trans (.of_continues Driver.continues_query), False.elim⟩
    refine meets_setUp (fun h' c d hh' hd ↦ ?_) (fun h' code d hh' hd ↦ ?_)
      fun _ j hh' ↦ hh'.journal j
    · have hd' := hquery h' hh'
      rw [hd] at hd'
      exact ⟨(Driver.query_ok hd).trans (congrArg _ hh.only.surface), hd'⟩
    · have hd' := hquery h' hh'
      rwa [hd] at hd'
  -- What the surface is said to be capable of is what it was at first, so the extent has pixels.
  refine RunOn.meets_lift_bind hask (fun _ _ hh ↦ hh) fun c ↦ ?_
  refine Meets.pre (P := fun q ↦ c = k.driver.surface.capabilities ∧ s.IsBeingBuilt k False q)
    (.assume fun hc ↦ ?_) (by rintro ⟨_, _⟩ ⟨rfl, hh⟩; exact hh)
  subst hc
  refine .bind (built_lift (.driving fun _ ↦ .of_continues Driver.continues_enumerate))
    fun modes ↦ ?_
  refine .orTrap_bind fun extent hx ↦ ?_
  refine .ite (fun hzero ↦ ?_) fun _ ↦ ?_
  · exact (hzero.elim (hp extent hx).1 (hp extent hx).2).elim
  · refine .bind built_replace fun _ ↦ ?_
    refine built_part_bind fun _ ↦ ?_
    refine .bind (built_anew (built_keeps (only_addViews _) (leaves_addViews _))) fun _ ↦ ?_
    refine .bind (built_anew (built_keeps only_addDepth leaves_addDepth)) fun _ ↦ ?_
    refine built_part_bind fun _ ↦ ?_
    exact built_anew (built_keeps (only_addRenderFinished _) (leaves_addRenderFinished _))

/-- Giving the images up leaves the rest of the screen as it is. -/
theorem answers_core_releaseImages (t : Swapchain) :
    Answers t.releaseImages fun u ↦ u.core = t.core :=
  .skip fun _ ↦ .skip fun _ ↦ .skip fun _ ↦ .pure rfl

/-- With pixels a screen that was built anew has a new swapchain and no mark. If that fails, it
keeps its mark. -/
theorem built_rebuild {size : Extent} (hp : k.driver.surface.HasPixels size) :
    Meets (s.IsBeingBuilt k False) (rebuild ctx size)
      (fun _ p ↦ s.IsBeingBuilt k True ({ p.1 with needsRebuild := s.needsRebuild }, p.2) ∧
        p.1.needsRebuild = false)
      fun _ ↦ s.IsBeingBuilt k False := by
  refine .bind (built_lift (.perform (fun _ ↦ rfl) rfl)) fun _ ↦ ?_
  refine RunOn.meets_at fun t ↦ ?_
  refine RunOn.meets_part_bind ?_
  have hrelease : Meets (fun h ↦ s.IsBeingBuilt k False (t, h)) t.releaseImages
      (fun u h ↦ u.core = t.core ∧ s.IsBeingBuilt k False (t, h))
      fun _ h ↦ s.IsBeingBuilt k False (t, h) :=
    (answers_core_releaseImages t).meets (built_run t.only_releaseImages t)
  refine RunOn.meets_lift_bind hrelease (fun _ _ hh ↦ hh) fun u ↦ ?_
  refine .bind (Meets.update (Q := fun _ ↦ s.IsBeingBuilt k False) ?_) fun _ ↦
    .bind (built_build hp) fun _ ↦ ?_
  · rintro ⟨_, h⟩ ⟨rfl, hu, hh⟩
    exact hh.more hu (.refl _)
  · refine .bind (Meets.update (Q := fun _ p ↦
      s.IsBeingBuilt k True ({ p.1 with needsRebuild := s.needsRebuild }, p.2) ∧
        p.1.needsRebuild = false) fun q hq ↦ ⟨?_, rfl⟩) fun _ ↦ ?_
    · exact ⟨hq.available, rfl, hq.only, hq.made⟩
    · exact RunOn.meets_at fun t ↦ RunOn.meets_part_bind <| .note fun q j hq ↦ by
        obtain ⟨rfl, hbuilt, hmark⟩ := hq
        exact ⟨hbuilt.journal j, hmark⟩

/-! ### Asking for an image and showing it -/

/-- Asks for an image, after something was done with the images of swapchains. -/
def acquireFrom (arrange : List ImageRing → List ImageRing) (frame : ℕ) :
    RunOn Swapchain (Option ℕ) := do
  Run.changeDriver fun d ↦ { d with rings := arrange d.rings }
  acquire frame

/-- If nothing was done with them, this is asking for an image. -/
theorem acquireFrom_id : acquireFrom id = acquire := rfl

/-- The call that was made, by its answer. -/
def acquireCall (o : Object .swapchain) (signal : Object .semaphore) :
    Except ResultCode (ℕ × ResultCode) → Call
  | .ok (i, code) => .acquire o signal i code
  | .error code => .failed .acquire (.acquire o signal 0 code) code

theorem calls_acquire (o : Object .swapchain) (signal : Object .semaphore) (d : Driver) :
    (Driver.acquire o signal d).2.calls =
      acquireCall o signal (Driver.acquire o signal d).1 :: d.calls := by
  rw [Driver.acquire]
  rcases htally : d.tally .acquire with ⟨scripted, d₁⟩
  have hcalls : d₁.calls = d.calls := (congrArg (·.2.calls) htally).symm
  simp only
  generalize scripted.getD _ = code
  rw [← hcalls]
  split <;> rfl

/-- What the screen is after a call for one of its images answered with a code. -/
def after (s : Swapchain) (code : ResultCode) : Swapchain :=
  if code = .suboptimal ∨ code = .outOfDate then s.mark else s

/-- What asking the screen for an image comes to: the image, the screen and the calls. -/
inductive Asks (s : Swapchain) (frame : ℕ) (l : List Call) :
    Option ℕ → Swapchain → List Call → Prop
  /-- The swapchain no longer fits. -/
  | missed {signal} (available : s.imageAvailable? frame = some signal) :
      Asks s frame l none s.mark
        (.failed .acquire (.acquire s.swapchain signal 0 .outOfDate) .outOfDate :: l)
  /-- An image is there. -/
  | taken {signal i code} (available : s.imageAvailable? frame = some signal)
      (there : code = .success ∨ code = .suboptimal) :
      Asks s frame l (some i) (s.after code) (.acquire s.swapchain signal i code :: l)

theorem meets_acquireAt {arrange : List ImageRing → List ImageRing} {frame : ℕ} :
    Meets (RunOn.At s (Host.IsAt offer l)) (acquireFrom arrange frame)
      (fun image p ↦ s.Asks frame l image p.1 p.2.driver.calls)
      fun _ p ↦ p.2.IsLetDown l := by
  have harrange : Meets (Host.IsAt offer l)
      (Run.changeDriver fun d ↦ { d with rings := arrange d.rings }) (fun _ ↦ Host.IsAt offer l)
      fun _ _ ↦ False := meets_changeDriver fun _ hh ↦ ⟨hh.calls, hh.surface⟩
  refine RunOn.meets_lift_bind harrange (fun _ _ hno ↦ hno.elim) fun _ ↦ ?_
  refine RunOn.meets_part_bind (.orTrap_bind fun signal hs ↦ ?_)
  have hcall : Meets (Host.IsAt offer l) (driving (Driver.acquire s.swapchain signal))
      (fun r h ↦ h.driver.calls = acquireCall s.swapchain signal r :: l) fun _ _ ↦ False :=
    meets_driving fun h hh ↦ hh.calls ▸ calls_acquire _ _ _
  refine RunOn.meets_lift_bind hcall (fun _ _ hno ↦ hno.elim) fun r ↦ ?_
  have hrefuse {c : Call} {t : Swapchain} {cause : BackendCause}
      {Q : Option ℕ → Swapchain × Host → Prop} (hc : ¬c.Obliges) :
      Meets (RunOn.At t fun h ↦ h.driver.calls = c :: l)
        (Log.refuse source cause : RunOn Swapchain (Option ℕ)) Q fun _ p ↦ p.2.IsLetDown l := by
    refine .refuse fun p _ hp ↦ ?_
    have hcalls : p.2.driver.calls = c :: l := hp.2
    exact ⟨hcalls ▸ List.suffix_cons c l, fun ho ↦ hc (ho c (hcalls ▸ List.mem_cons_self))⟩
  -- A driver may also refuse with the code of an image, or hand out one with that of a refusal.
  -- Neither is obliging.
  rcases r with code | ⟨i, code⟩
  · refine .ite (fun hcode ↦ ?_) fun hcode ↦ ?_
    · subst hcode
      refine RunOn.meets_change_bind (.pure ?_)
      rintro ⟨_, h⟩ ⟨rfl, hcalls⟩
      exact (show h.driver.calls = _ from hcalls) ▸ .missed hs
    · exact hrefuse (c := acquireCall s.swapchain signal (.error code)) fun h ↦ hcode h.2
  · have hanswer {t : Swapchain} (ht : code = .success ∨ code = .suboptimal → t = s.after code) :
        Meets (RunOn.At t fun h ↦ h.driver.calls = .acquire s.swapchain signal i code :: l)
          (if code = .success ∨ code = .suboptimal then pure (some i)
            else Log.refuse source (.driver "acquire next swapchain image" code))
          (fun image p ↦ s.Asks frame l image p.1 p.2.driver.calls)
          fun _ p ↦ p.2.IsLetDown l := by
      refine .ite (fun hcode ↦ .pure ?_) fun hcode ↦
        hrefuse (c := .acquire s.swapchain signal i code) hcode
      rintro ⟨_, h⟩ ⟨rfl, hcalls⟩
      obtain rfl := ht hcode
      exact (show h.driver.calls = _ from hcalls) ▸ .taken hs hcode
    refine .ite (fun hcode ↦ ?_) fun hcode ↦ ?_
    · exact RunOn.meets_change_bind (hanswer fun _ ↦ by rw [after, if_pos (.inl hcode)])
    · refine hanswer fun hsuccess ↦ ?_
      obtain rfl := hsuccess.resolve_right hcode
      rfl

/-- An image is shown. -/
theorem meets_presentAt {index : ℕ} {rendered : Object .semaphore}
    (hr : s.renderFinished[index]? = some rendered) :
    Meets (RunOn.At s (Host.IsAt offer l)) (present ctx index)
      (fun _ p ↦ ∃ code, p.1 = s.after code ∧
        p.2.driver.calls = .present ctx.queue rendered s.swapchain index code :: l)
      fun _ p ↦ p.2.IsLetDown l := by
  refine RunOn.meets_part_bind (.orTrap_bind fun _ hr' ↦ ?_)
  obtain rfl := Option.some.inj (hr.symm.trans hr')
  have hcall : Meets (Host.IsAt offer l)
      (driving (Driver.present ctx.queue rendered s.swapchain index))
      (fun code h ↦ h.driver.calls = .present ctx.queue rendered s.swapchain index code :: l)
      fun _ _ ↦ False :=
    meets_driving fun h hh ↦ congrArg (_ :: ·) hh.calls
  refine RunOn.meets_lift_bind hcall (fun _ _ hno ↦ hno.elim) fun code ↦ ?_
  refine .ite (fun hcode ↦ ?_) fun hcode ↦ .ite (fun hfail ↦ ?_) fun _ ↦ ?_
  · exact RunOn.meets_change.post fun _ p hp ↦ ⟨code, by rw [hp.1, after, if_pos hcode], hp.2⟩
  · refine .refuse fun p _ hp ↦ ?_
    have hcalls : p.2.driver.calls =
        .present ctx.queue rendered s.swapchain index code :: l := hp.2
    refine ⟨hcalls ▸ List.suffix_cons _ l, fun ho ↦ ?_⟩
    rcases ho _ (hcalls ▸ List.mem_cons_self) with h | h
    · exact hfail h
    · exact hcode h
  · exact .pure fun p hp ↦ ⟨code, by rw [hp.1, after, if_neg hcode], hp.2⟩

end Swapchain

end RenderTargets.Vulkan
