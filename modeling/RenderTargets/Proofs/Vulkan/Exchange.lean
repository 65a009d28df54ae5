import RenderTargets.Proofs.Step.Triple
import RenderTargets.Proofs.Vulkan.Choices
import RenderTargets.Proofs.Vulkan.Swaps
/-!
# One swapchain after the other

When a screen is built, it asks for a swapchain in exchange for the one it has, and the request is
admissible. This is shown in two ways.

* A trace shows the swapchains that were asked for, whether they were made or not, as swaps
  (`Swapchain.Swapped`).
* A triple says nothing of a step that traps, which may have asked for a swapchain before. Therefore
  a screen is also taken with another way of exchanging swapchains (`Swapchain.rebuildBy`). It makes
  no difference as long as admissible requests are treated as before, so no other requests are made,
  however the step ends (`Swapchain.sameFrom_rebuildBy`).

Both rest on what is known of a screen that was not given another swapchain yet
(`Swapchain.Awaits`).
-/

namespace RenderTargets.Vulkan

open StepWith Run Relation

namespace Swapchain

variable {α : Type} {ctx : Context} {s t : Swapchain} {k : Host} {size : Extent}
  {c : SurfaceCapabilities} {modes : List Code} {extent : Extent}

/-! ### Exchange -/

/-- A swapchain is asked for. If it is made, the one it replaces is destroyed. -/
def exchange (info : SwapchainInfo) : Run (Object .swapchain) := do
  let o ← Run.setUp "create swapchain" "create swapchain" (Driver.createSwapchain info)
  Run.destroy info.old
  return o

/-- For requests with `p` it is the exchange as it is. -/
def IsExchange (p : SwapchainInfo → Prop) (x : SwapchainInfo → Run (Object .swapchain)) : Prop :=
  ∀ info, p info → x info = exchange info

/-- What `replace` does, with another exchange. -/
def replaceBy (x : SwapchainInfo → Run (Object .swapchain)) (c : SurfaceCapabilities)
    (modes : List Code) (extent : Extent) : RunOn Swapchain Unit := do
  let s ← RunOn.part
  let info ← StepWith.orTrap (s.infoOf c modes extent)
  let swapchain ← x info
  RunOn.change ({ · with swapchain, extent })
  let images ← Run.setUp "get swapchain images" "get swapchain images"
    (Driver.swapchainImages swapchain)
  RunOn.change ({ · with images })

/-- Finds out what the surface can do and how images can be shown, and takes a size. -/
def survey (size : Extent) : RunOn Swapchain (SurfaceCapabilities × List Code × Extent) := do
  let offer := (← get).2.driver.surface
  let c ← Run.setUp "get surface capabilities" "get surface capabilities"
    (Driver.query .surfaceCapabilities offer.capabilities)
  let modes ← Run.driving (Driver.enumerate .presentModes offer.modes)
  let extent ← StepWith.orTrap (chooseExtent? c size.width size.height)
  return (c, modes.toOption.getD [], extent)

/-- Makes what belongs to the images of a new swapchain. -/
def addParts (ctx : Context) : RunOn Swapchain Unit := do
  addViews (← RunOn.part).images
  addDepth ctx
  let s ← RunOn.part
  addRenderFinished (s.images.length - s.renderFinished.length)

/-- What `build` does, with another exchange. -/
def buildBy (x : SwapchainInfo → Run (Object .swapchain)) (ctx : Context) (size : Extent) :
    RunOn Swapchain Unit := do
  let (c, modes, extent) ← survey size
  if extent.width = 0 ∨ extent.height = 0 then
    Log.note .warn source "Surface has a zero extent, postponing swapchain creation"
    RunOn.change mark
  else
    replaceBy x c modes extent
    addParts ctx

/-- Gives up what belongs to the images once the GPU is done with it. -/
def clear (ctx : Context) : RunOn Swapchain Unit := do
  Run.work "wait idle before swapchain recreate"
    (Driver.perform .waitDevice (.waitDevice ctx.device))
  let s ← releaseImages (← RunOn.part)
  RunOn.change fun _ ↦ s

/-- What `rebuild` does, with another exchange. -/
def rebuildBy (x : SwapchainInfo → Run (Object .swapchain)) (ctx : Context) (size : Extent) :
    RunOn Swapchain Unit := do
  clear ctx
  buildBy x ctx size
  RunOn.change ({ · with needsRebuild := false })
  let extent := (← RunOn.part).extent
  Log.note .debug source
    s!"Swapchain recreated at {extent.width.toNat}x{extent.height.toNat}"

/-- What `create` does, with another exchange. -/
def createBy (x : SwapchainInfo → Run (Object .swapchain)) (ctx : Context)
    (surface : Object .surface) (size : Extent) (vsync : Bool) (frames : ℕ) : Run Swapchain := do
  let (surfaceFormat, colorFormat) ← pickFormat
  let renderPass ← createRenderPass (passLayout ctx surfaceFormat.format)
  Run.share
  RunOn.construct { surface, renderPass, surfaceFormat, colorFormat, extent := size, vsync }
    (do
      addImageAvailable frames
      buildBy x ctx size)
    (drop ctx)

/-- A step on the host may be taken apart. -/
theorem lift_bind {α β : Type} {x : Run α} {f : α → Run β} :
    (liftM (x >>= f) : RunOn Swapchain β) = (liftM x >>= fun a ↦ liftM (f a)) := by
  funext ⟨s, h⟩
  show within .snd (x >>= f) (s, h) = (within .snd x >>= fun a ↦ within .snd (f a)) (s, h)
  simp only [within, bind, EStateM.bind, Lens.snd]
  rcases x h with ⟨a, k⟩ | ⟨e, k⟩ <;> rfl

theorem old_infoOf {info : SwapchainInfo} (h : s.infoOf c modes extent = some info) :
    info.old = s.swapchain := by
  obtain ⟨count, -, h⟩ := Option.bind_eq_some_iff.1 h
  obtain rfl := Option.some.inj h
  rfl

theorem replaceBy_exchange : replaceBy exchange c modes extent = replace c modes extent := by
  funext ⟨s, h⟩
  refine SameFrom.orTrap_bind (P := (· = (s, h))) (fun info hinfo ↦ ?_) (s, h) rfl
  rw [← old_infoOf hinfo]
  simp only [exchange, lift_bind, bind_assoc]
  exact .refl

theorem buildBy_exchange : buildBy exchange ctx size = build ctx size := by
  simp only [buildBy, survey, build, replaceBy_exchange, addParts, bind_assoc, pure_bind]

theorem rebuildBy_exchange : rebuildBy exchange ctx size = rebuild ctx size := by
  simp only [rebuildBy, clear, buildBy_exchange, bind_assoc]
  rfl

theorem createBy_exchange {surface : Object .surface} {vsync : Bool} {frames : ℕ} :
    createBy exchange ctx surface size vsync frames = create ctx surface size vsync frames := by
  simp only [createBy, buildBy_exchange]
  rfl

/-! ### Between exchanges -/

/-- What stays while the parts of a screen are made. -/
def stem (s : Swapchain) : SurfaceFormat × Bool × Object .swapchain :=
  (s.surfaceFormat, s.vsync, s.swapchain)

theorem of_stem_eq (h : t.stem = s.stem) :
    t.surfaceFormat = s.surfaceFormat ∧ t.vsync = s.vsync ∧ t.swapchain = s.swapchain := by
  simpa [stem] using h

theorem StandsAt.of_stem {o : Occasion} (hs : s.StandsAt o) (h : t.stem = s.stem) :
    t.StandsAt o := by
  obtain ⟨hformat, hvsync, hswapchain⟩ := of_stem_eq h
  exact ⟨hformat ▸ hs.format, hvsync.trans hs.vsync, hswapchain.trans hs.current⟩

/-- The screen was `s` on the host `k`, and no swapchain was made or destroyed since. -/
structure Awaits (s : Swapchain) (k : Host) (q : Swapchain × Host) : Prop where
  /-- The screen has the same swapchain. -/
  stem : q.1.stem = s.stem
  /-- Other calls may have been made. -/
  only : k.driver.Only Call.keepsSwapchains q.2.driver

/-- What was the screen `s` on the host `k` shows the same images in the same way. Its swapchain was
exchanged for those asked for with `p`, if at all. -/
structure Swapped (p : SwapchainInfo → Prop) (s : Swapchain) (k : Host) (q : Swapchain × Host) :
    Prop where
  /-- The format. -/
  format : q.1.surfaceFormat = s.surfaceFormat
  /-- Whether images are shown in step with the screen. -/
  vsync : q.1.vsync = s.vsync
  /-- The surface. -/
  surface : q.2.driver.surface = k.driver.surface
  /-- The swapchain. -/
  swaps : Swaps p (s.swapchain, k.driver.calls) (q.1.swapchain, q.2.driver.calls)

/-- What holds of a screen still holds when it awaits an exchange. -/
def Persists (I : Swapchain × Host → Prop) : Prop := ∀ {q q'}, I q → q.1.Awaits q.2 q' → I q'

variable {p : SwapchainInfo → Prop} {q q' : Swapchain × Host} {I : Swapchain × Host → Prop}

theorem Awaits.refl (s : Swapchain) (k : Host) : s.Awaits k (s, k) := ⟨rfl, .refl _⟩

theorem persists_awaits : Persists (s.Awaits k) := fun h h' ↦
  ⟨h'.stem.trans h.stem, h.only.trans h'.only⟩

theorem persists_swapped : Persists (s.Swapped p k) := fun h h' ↦ by
  obtain ⟨hformat, hvsync, hswapchain⟩ := of_stem_eq h'.stem
  exact ⟨hformat.trans h.format, hvsync.trans h.vsync, h'.only.surface.trans h.surface,
    hswapchain ▸ h.swaps.trans (Swaps.of_only h'.only)⟩

theorem Awaits.swapped (h : s.Awaits k q) : s.Swapped p k q :=
  persists_swapped (q := (s, k)) ⟨rfl, rfl, rfl, .refl⟩ h

/-- What can be rendered into is no swapchain. -/
theorem respects_targets {x : Run α} (hx : Respects (Driver.Only Call.ofTargets) x) :
    Respects (Driver.Only Call.keepsSwapchains) x :=
  hx.only_mono fun _ ↦ Call.keepsSwapchains_of_touches (by decide) (by decide)

namespace Persists

variable (hI : Persists I)
include hI

theorem run {x : Run α} (hx : Respects (Driver.Only Call.keepsSwapchains) x) (t : Swapchain) :
    Keeps (fun h ↦ I (t, h)) x := fun h hh ↦
  (hx h.driver h (.refl _)).mono (fun _ _ ho ↦ hI hh ⟨rfl, ho⟩) fun _ _ ho ↦ hI hh ⟨rfl, ho⟩

theorem lift {x : Run α} (hx : Respects (Driver.Only Call.keepsSwapchains) x) :
    Keeps I (liftM x : RunOn Swapchain α) :=
  Meets.snd fun t ↦ hI.run hx t

theorem change {g : Swapchain → Swapchain} (hg : ∀ t, (g t).stem = t.stem) :
    Keeps I (RunOn.change g) :=
  Meets.update fun q hq ↦ hI hq ⟨hg q.1, .refl _⟩

/-- The journal may be another one. -/
theorem journal (h : I q) (j : Log.Journal) : I (Log.HasJournal.journal.set j q) :=
  hI h ⟨rfl, .refl _⟩

omit hI in
theorem part_bind {g : Swapchain → RunOn Swapchain α} (h : ∀ t, Keeps I (g t)) :
    Keeps I (RunOn.part >>= g) :=
  fun q hq ↦ h q.1 q hq

theorem addViews (images : List (Object .screenImage)) : Keeps I (addViews images) := by
  induction images with
  | nil => exact .pure fun _ h ↦ h
  | cons image rest ih =>
    refine part_bind fun _ ↦ ?_
    refine .bind (hI.lift (.setUpMake (fun _ ↦ rfl) fun _ ↦ rfl)) fun _ ↦ ?_
    exact .bind (hI.change fun _ ↦ rfl) fun _ ↦ ih

theorem addFramebuffers (depth : Image) (views : List (Object .view)) :
    Keeps I (addFramebuffers depth views) := by
  induction views with
  | nil => exact .pure fun _ h ↦ h
  | cons view rest ih =>
    refine part_bind fun _ ↦ ?_
    refine .bind (hI.lift (respects_targets only_createFramebuffer)) fun _ ↦ ?_
    exact .bind (hI.change fun _ ↦ rfl) fun _ ↦ ih

theorem addDepth : Keeps I (addDepth ctx) := by
  refine part_bind fun _ ↦ ?_
  refine .bind (hI.lift (respects_targets Image.only_create)) fun depth ↦ ?_
  refine .bind (RunOn.meets_undoing depth.silent_drop (hI.addFramebuffers depth _) fun _ t ↦
    (hI.run (respects_targets depth.only_drop) t).lax) fun _ ↦ ?_
  exact hI.change fun _ ↦ rfl

theorem addRenderFinished (n : ℕ) : Keeps I (addRenderFinished n) := by
  induction n with
  | zero => exact .pure fun _ h ↦ h
  | succ n ih =>
    refine .bind (hI.lift (.setUpMake (fun _ ↦ rfl) fun _ ↦ rfl)) fun _ ↦ ?_
    exact .bind (hI.change fun _ ↦ rfl) fun _ ↦ ih

theorem addImageAvailable (n : ℕ) : Keeps I (addImageAvailable n) := by
  induction n with
  | zero => exact .pure fun _ h ↦ h
  | succ n ih =>
    refine .bind (hI.lift (.setUpMake (fun _ ↦ rfl) fun _ ↦ rfl)) fun _ ↦ ?_
    exact .bind (hI.change fun _ ↦ rfl) fun _ ↦ ih

theorem addParts : Keeps I (addParts ctx) := by
  refine part_bind fun _ ↦ ?_
  refine .bind (hI.addViews _) fun _ ↦ ?_
  exact .bind hI.addDepth fun _ ↦ part_bind fun _ ↦ hI.addRenderFinished _

/-- Without its images the screen still has its swapchain. -/
theorem clear : Keeps I (clear ctx) := by
  refine .bind (hI.lift (.perform (fun _ ↦ rfl) rfl)) fun _ ↦ ?_
  refine RunOn.meets_at fun t ↦ ?_
  refine RunOn.meets_part_bind ?_
  have hstem : Answers t.releaseImages fun u ↦ u.stem = t.stem :=
    .skip fun _ ↦ .skip fun _ ↦ .skip fun _ ↦ .pure rfl
  have hkeeps : Respects (Driver.Only Call.keepsSwapchains) t.releaseImages := by
    refine .bind (.each (fun _ ↦ .destroy rfl) _) fun _ ↦ ?_
    refine .bind (.each (fun _ ↦ .destroy rfl) _) fun _ ↦ ?_
    exact .bind (respects_targets (Image.only_dropOption _)) fun _ ↦ .pure
  refine RunOn.meets_lift_bind (hstem.meets (hI.run hkeeps t)) (fun _ _ hh ↦ hh) fun u ↦
    Meets.update ?_
  rintro ⟨_, h⟩ ⟨rfl, hu, hh⟩
  exact hI hh ⟨hu, .refl _⟩

theorem acquire {frame : ℕ} : Keeps I (acquire frame) := by
  have hmark : Keeps I (RunOn.change mark) := hI.change fun _ ↦ rfl
  refine part_bind fun _ ↦ ?_
  refine .orTrap_bind fun _ _ ↦ ?_
  refine .bind (hI.lift (.driving fun _ ↦ Driver.only_acquire)) fun r ↦ ?_
  rcases r with code | ⟨index, code⟩
  · refine .ite (fun _ ↦ .bind hmark fun _ ↦ .pure fun _ h ↦ h) fun _ ↦ ?_
    exact .refuse fun _ j h ↦ hI.journal h j
  · have hanswer : Keeps I (if code = .success ∨ code = .suboptimal then pure (some index)
        else Log.refuse source (.driver "acquire next swapchain image" code) :
        RunOn Swapchain (Option ℕ)) :=
      .ite (fun _ ↦ .pure fun _ h ↦ h) fun _ ↦ .refuse fun _ j h ↦ hI.journal h j
    exact .ite (fun _ ↦ .bind hmark fun _ ↦ hanswer) fun _ ↦ hanswer

theorem present {index : ℕ} : Keeps I (present ctx index) := by
  refine part_bind fun _ ↦ ?_
  refine .orTrap_bind fun _ _ ↦ ?_
  refine .bind (hI.lift (.driving fun _ ↦ Driver.only_present)) fun _ ↦ ?_
  refine .ite (fun _ ↦ hI.change fun _ ↦ rfl) fun _ ↦ ?_
  exact .ite (fun _ ↦ .refuse fun _ j h ↦ hI.journal h j) fun _ ↦ .pure fun _ h ↦ h

end Persists

/-! ### The exchange -/

/-- What was found out about a surface, for a window of some size. In which ways images can be
shown may stay unknown. -/
structure Surveyed (offer : SurfaceOffer) (size : Extent)
    (r : SurfaceCapabilities × List Code × Extent) : Prop where
  /-- What it can do. -/
  capabilities : r.1 = offer.capabilities
  /-- The ways of showing images. -/
  modes : r.2.1 = offer.modes ∨ r.2.1 = []
  /-- The size to take. -/
  extent : chooseExtent? r.1 size.width size.height = some r.2.2

theorem meets_survey :
    Meets (s.Awaits k) (survey size)
      (fun r q ↦ Surveyed k.driver.surface size r ∧ s.Awaits k q) fun _ ↦ s.Awaits k := by
  refine RunOn.meets_at fun t ↦ RunOn.meets_get_bind fun h hh ↦ ?_
  have hoffer : h.driver.surface = k.driver.surface := hh.only.surface
  have hc : Answers (setUp "get surface capabilities" "get surface capabilities"
      (Driver.query .surfaceCapabilities h.driver.surface.capabilities))
      (· = k.driver.surface.capabilities) :=
    answers_setUp fun _ _ _ hd ↦ hoffer ▸ Driver.query_ok hd
  refine RunOn.meets_lift_bind (hc.meets (persists_awaits.run .ask t)) (fun _ _ hh ↦ hh) fun c ↦ ?_
  have hmodes : Meets (fun h' ↦ c = k.driver.surface.capabilities ∧ s.Awaits k (t, h'))
      (driving (Driver.enumerate .presentModes h.driver.surface.modes))
      (fun r h' ↦ (c = k.driver.surface.capabilities ∧
        (r.toOption.getD [] = k.driver.surface.modes ∨ r.toOption.getD [] = [])) ∧
          s.Awaits k (t, h')) fun _ _ ↦ False := by
    refine meets_driving fun h' hh ↦ ⟨⟨hh.1, ?_⟩, hh.2.stem, hh.2.only.trans (.of_continues
      Driver.continues_enumerate)⟩
    rcases hd : Driver.enumerate .presentModes h.driver.surface.modes h'.driver with
      ⟨code | modes, d⟩
    · exact .inr rfl
    · exact .inl (hoffer ▸ Driver.enumerate_ok hd)
  refine RunOn.meets_lift_bind hmodes (fun _ _ hno ↦ hno.elim) fun modes ↦ ?_
  refine Meets.orTrap_bind fun extent hx ↦ .pure ?_
  rintro ⟨_, h'⟩ ⟨rfl, ⟨hc, hmodes⟩, hh'⟩
  exact ⟨⟨hc, hmodes, hx⟩, hh'⟩

/-- If the new swapchain is made, the old one is gone, and if not, it stays. -/
theorem meets_exchange {info : SwapchainInfo} (hp : p info) :
    Meets (fun h ↦ k.driver.Only Call.keepsSwapchains h.driver) (exchange info)
      (fun o h ↦ h.driver.surface = k.driver.surface ∧
        Swaps p (info.old, k.driver.calls) (o, h.driver.calls))
      fun _ h ↦ h.driver.surface = k.driver.surface ∧
        Swaps p (info.old, k.driver.calls) (info.old, h.driver.calls) := by
  have hmake : Meets (fun h ↦ k.driver.Only Call.keepsSwapchains h.driver)
      (Run.setUp "create swapchain" "create swapchain" (Driver.createSwapchain info))
      (fun o h ↦ h.driver.surface = k.driver.surface ∧ ∃ l,
        h.driver.calls = .createSwapchain o info :: l ∧
          Swaps p (info.old, k.driver.calls) (info.old, l))
      fun _ h ↦ h.driver.surface = k.driver.surface ∧
        Swaps p (info.old, k.driver.calls) (info.old, h.driver.calls) := by
    refine meets_setUp (fun h o d hh hd ↦ ?_) (fun h code d hh hd ↦ ?_) fun _ _ hh ↦ hh
    · have honly : h.driver.Only (fun _ ↦ true) (Driver.createSwapchain info h.driver).2 :=
        .createSwapchain (fun _ ↦ rfl) fun _ ↦ rfl
      rw [hd] at honly
      exact ⟨honly.surface.trans hh.surface, h.driver.calls, Driver.calls_createSwapchain hd,
        .of_only hh⟩
    · obtain ⟨hcalls, hsurface⟩ := Driver.createSwapchain_error hd
      exact ⟨hsurface.trans hh.surface, hcalls ▸ (Swaps.of_only hh).tail (.refused hp rfl)⟩
  refine .bind hmake fun o ↦ ?_
  refine .bind (Q := fun _ h ↦ h.driver.surface = k.driver.surface ∧
    Swaps p (info.old, k.driver.calls) (o, h.driver.calls)) ?_ fun _ ↦ .pure fun _ hh ↦ hh
  refine meets_changeDriver fun h hh ↦ ?_
  obtain ⟨hsurface, l, hl, hswaps⟩ := hh
  have hsame : (Driver.destroy info.old.any h.driver).surface = h.driver.surface :=
    (Driver.Only.destroy (p := fun _ ↦ true) rfl).surface
  refine ⟨hsame.trans hsurface, hswaps.tail ?_⟩
  -- The null swapchain is not destroyed.
  show Swap p (info.old, l) (o, (Driver.destroy info.old.any h.driver).calls)
  rw [Driver.destroy]
  split
  · next hnull =>
    have hold : info.old = .null := congrArg Object.mk hnull
    rw [hl, hold]
    exact .first hp hold
  · next hthere =>
    show Swap p _ (o, .destroy info.old.any :: (h.driver.forget info.old.any).calls)
    rw [Driver.continues_forget.calls, hl]
    refine .next (fun hold ↦ hthere ?_) hp rfl
    rw [hold]
    rfl

/-- The swapchain is exchanged for the one asked for. -/
theorem swapped_replace
    (hp : ∀ t : Swapchain, ∀ info, t.stem = s.stem → t.infoOf c modes extent = some info → p info) :
    Meets (s.Awaits k) (replace c modes extent) (fun _ ↦ s.Swapped p k) fun _ ↦ s.Swapped p k := by
  rw [← replaceBy_exchange]
  refine RunOn.meets_at fun t ↦ ?_
  refine RunOn.meets_part_bind ?_
  refine .orTrap_bind fun info hinfo ↦ ?_
  rintro ⟨t, h⟩ ⟨rfl, hh⟩
  obtain ⟨hformat, hvsync, hswapchain⟩ := of_stem_eq hh.stem
  have hold : info.old = s.swapchain := (old_infoOf hinfo).trans hswapchain
  refine RunOn.meets_lift_bind (meets_exchange (hp t info hh.stem hinfo))
    ?_ (fun o ↦ ?_) (t, h) ⟨rfl, hh.only⟩
  -- A screen whose request was refused still has its swapchain.
  · rintro _ h ⟨hsurface, hswaps⟩
    rw [hold] at hswaps
    exact ⟨hformat, hvsync, hsurface, hswapchain ▸ hswaps⟩
  have hchange : Meets (RunOn.At t fun h ↦ h.driver.surface = k.driver.surface ∧
      Swaps p (info.old, k.driver.calls) (o, h.driver.calls))
      (RunOn.change ({ · with swapchain := o, extent })) (fun _ ↦ s.Swapped p k)
      fun _ ↦ s.Swapped p k := by
    refine Meets.update ?_
    rintro ⟨_, h⟩ ⟨rfl, hsurface, hswaps⟩
    rw [hold] at hswaps
    exact ⟨hformat, hvsync, hsurface, hswaps⟩
  refine .bind hchange fun _ ↦ ?_
  refine .bind (persists_swapped.lift (.setUp fun _ ↦ .of_continues Driver.continues_enumerate))
    fun _ ↦ ?_
  exact persists_swapped.change fun _ ↦ rfl

section Occasion

variable {o : Occasion} {x : SwapchainInfo → Run (Object .swapchain)}

/-- From the screen as it stands, another exchange makes no difference if it is the same for
admissible requests. -/
theorem sameFrom_replaceBy (hx : IsExchange p x)
    (hp : ∀ t : Swapchain, ∀ info, t.stem = s.stem → t.infoOf c modes extent = some info → p info) :
    SameFrom (s.Awaits k) (replaceBy x c modes extent) (replace c modes extent) := by
  rw [← replaceBy_exchange]
  rintro ⟨t, h⟩ hh
  refine SameFrom.orTrap_bind (P := fun _ ↦ True) (fun info hinfo ↦ ?_) (t, h) trivial
  rw [hx info (hp t info hh.stem hinfo)]
  exact .refl

variable (ho : o.offer.IsConsistent) (hk : k.driver.surface = o.offer) (hs : s.StandsAt o)
include ho hk hs

theorem isAdmissible_of_surveyed {r : SurfaceCapabilities × List Code × Extent}
    (hr : Surveyed k.driver.surface o.size r) (hpixels : ¬(r.2.2.width = 0 ∨ r.2.2.height = 0))
    (t : Swapchain) (info : SwapchainInfo) (ht : t.stem = s.stem)
    (h : t.infoOf r.1 r.2.1 r.2.2 = some info) : info.IsAdmissible o := by
  obtain ⟨hc, hmodes, hextent⟩ := hr
  rw [hk] at hc hmodes
  rw [hc] at hextent h
  exact (hs.of_stem ht).isAdmissible ho hmodes hextent hpixels h

theorem swapped_build :
    Meets (s.Awaits k) (build ctx o.size) (fun _ ↦ s.Swapped (SwapchainInfo.IsAdmissible o) k)
      fun _ ↦ s.Swapped (SwapchainInfo.IsAdmissible o) k := by
  rw [← buildBy_exchange]
  refine .bind (meets_survey.mono (fun _ h ↦ h) (fun _ _ h ↦ h) fun _ _ ↦ Awaits.swapped)
    fun ⟨c, modes, extent⟩ ↦ .assume fun hr ↦ ?_
  refine .ite (fun _ ↦ ?_) fun hpixels ↦ ?_
  · exact .bind (Meets.note (Q := fun _ ↦ s.Swapped _ k) fun _ j h ↦
      persists_swapped.journal h.swapped j) fun _ ↦ persists_swapped.change fun _ ↦ rfl
  · rw [replaceBy_exchange]
    exact .bind (swapped_replace (isAdmissible_of_surveyed ho hk hs hr hpixels))
      fun _ ↦ persists_swapped.addParts

theorem sameFrom_buildBy (hx : IsExchange (SwapchainInfo.IsAdmissible o) x) :
    SameFrom (s.Awaits k) (buildBy x ctx o.size) (build ctx o.size) := by
  rw [← buildBy_exchange]
  refine .bind meets_survey fun ⟨c, modes, extent⟩ ↦ .assume fun hr ↦ ?_
  refine .ite (fun _ ↦ .refl) fun hpixels ↦ ?_
  rw [replaceBy_exchange]
  exact (sameFrom_replaceBy hx (isAdmissible_of_surveyed ho hk hs hr hpixels)).followed

theorem swapped_rebuild :
    Meets (s.Awaits k) (rebuild ctx o.size) (fun _ ↦ s.Swapped (SwapchainInfo.IsAdmissible o) k)
      fun _ ↦ s.Swapped (SwapchainInfo.IsAdmissible o) k := by
  rw [← rebuildBy_exchange, rebuildBy, buildBy_exchange]
  have hclear : Meets (s.Awaits k) (clear ctx) (fun _ ↦ s.Awaits k)
      fun _ ↦ s.Swapped (SwapchainInfo.IsAdmissible o) k :=
    (persists_awaits.clear).mono (fun _ h ↦ h) (fun _ _ h ↦ h) fun _ _ ↦ Awaits.swapped
  refine .bind hclear fun _ ↦ ?_
  refine .bind (swapped_build ho hk hs) fun _ ↦ ?_
  refine .bind (persists_swapped.change fun _ ↦ rfl) fun _ ↦ ?_
  exact Persists.part_bind fun _ ↦ .note fun _ j h ↦ persists_swapped.journal h j

theorem sameFrom_rebuildBy (hx : IsExchange (SwapchainInfo.IsAdmissible o) x) :
    SameFrom (s.Awaits k) (rebuildBy x ctx o.size) (rebuild ctx o.size) := by
  rw [← rebuildBy_exchange, rebuildBy, rebuildBy, buildBy_exchange]
  exact .bind persists_awaits.clear fun _ ↦ (sameFrom_buildBy ho hk hs hx).followed

end Occasion

/-! ### The first one -/

/-- The format of a new screen is the first of the best. -/
theorem meets_pickFormat :
    Meets (fun h ↦ k.driver.Only Call.keepsSwapchains h.driver) pickFormat
      (fun f h ↦ f.1.IsFirstBest k.driver.surface.formats ∧
        k.driver.Only Call.keepsSwapchains h.driver)
      fun _ h ↦ k.driver.Only Call.keepsSwapchains h.driver := by
  refine .get_bind_eq fun h hh ↦ ?_
  have hoffer : h.driver.surface = k.driver.surface := hh.surface
  have hformats : Answers (setUp "query surface formats" "get surface formats"
      (Driver.enumerate .surfaceFormats h.driver.surface.formats))
      (· = k.driver.surface.formats) :=
    answers_setUp fun _ _ _ hd ↦ hoffer ▸ Driver.enumerate_ok hd
  refine .bind (hformats.meets ((Respects.askAll k.driver).pre fun _ heq ↦ heq ▸ hh)) fun formats ↦
    .assume fun hf ↦ ?_
  subst hf
  dsimp only
  split
  · next f hf =>
    obtain ⟨chosen, hchosen, hf⟩ := Option.bind_eq_some_iff.1 hf
    obtain ⟨color, -, hf⟩ := Option.bind_eq_some_iff.1 hf
    cases hf
    exact .pure fun _ hh ↦ ⟨isFirstBest_of_chosen hchosen, hh⟩
  · exact meets_giveUp fun _ _ hh ↦ hh

/-- A part that is built up in the same way is given up in the same way. -/
theorem sameFrom_construct {b b' : RunOn Swapchain Unit} {drop : Swapchain → Run Unit}
    {P : Host → Prop} (h : SameFrom (RunOn.At s P) b b') :
    SameFrom P (RunOn.construct s b drop) (RunOn.construct s b' drop) := by
  intro k hk
  have hsame : b (s, k) = b' (s, k) := h (s, k) ⟨rfl, hk⟩
  simp only [RunOn.construct, hsame]

section Create

variable {o : Occasion} {x : SwapchainInfo → Run (Object .swapchain)} {surface : Object .surface}
  {frames : ℕ} (hformats : k.driver.surface.formats = o.formats) (hcurrent : o.current = .null)
include hformats hcurrent

/-- The new screen awaits its first swapchain. -/
theorem standsAt_start {f : SurfaceFormat} (surface : Object .surface) (color : Format)
    (pass : Object .renderPass) (hf : f.IsFirstBest k.driver.surface.formats) :
    StandsAt o { surface, renderPass := pass, surfaceFormat := f, colorFormat := color
                 extent := o.size, vsync := o.vsync } :=
  ⟨hformats ▸ hf, rfl, hcurrent.symm⟩

variable (ho : o.offer.IsConsistent) (hk : k.driver.surface = o.offer)
include ho hk

/-- If a new screen has a swapchain, the request for it was admissible. -/
theorem swapped_create :
    Meets (fun h ↦ k.driver.Only Call.keepsSwapchains h.driver)
      (create ctx surface o.size o.vsync frames)
      (fun s h ↦ ∃ s₀ : Swapchain, s₀.StandsAt o ∧
        s₀.Swapped (SwapchainInfo.IsAdmissible o) k (s, h))
      fun _ _ ↦ True := by
  refine .bind (meets_pickFormat.lax) fun ⟨f, color⟩ ↦ .assume fun hf ↦ ?_
  refine .bind (respects_targets only_createRenderPass k.driver).lax fun pass ↦ ?_
  refine .bind (Meets.lax (Run.Respects.share k.driver)) fun _ ↦ RunOn.meets_construct ?_
  have hs := standsAt_start hformats hcurrent surface color pass hf
  refine .bind (Meets.pre (Meets.lax (persists_awaits.addImageAvailable frames)) ?_) fun _ ↦
    (swapped_build ho hk hs).mono (fun _ h ↦ h) (fun _ _ h ↦ ⟨_, hs, h⟩) fun _ _ _ ↦ trivial
  rintro ⟨_, h⟩ ⟨rfl, hh⟩
  exact ⟨rfl, hh⟩

theorem sameFrom_createBy (hx : IsExchange (SwapchainInfo.IsAdmissible o) x) :
    SameFrom (fun h ↦ k.driver.Only Call.keepsSwapchains h.driver)
      (createBy x ctx surface o.size o.vsync frames)
      (create ctx surface o.size o.vsync frames) := by
  rw [← createBy_exchange]
  refine .bind meets_pickFormat fun ⟨f, color⟩ ↦ .assume fun hf ↦ ?_
  refine .bind (respects_targets only_createRenderPass k.driver) fun pass ↦ ?_
  refine .bind (Run.Respects.share k.driver) fun _ ↦ sameFrom_construct ?_
  have hs := standsAt_start hformats hcurrent surface color pass hf
  rw [buildBy_exchange]
  refine SameFrom.pre (P := Awaits _ k) (.bind (persists_awaits.addImageAvailable frames) fun _ ↦
    sameFrom_buildBy ho hk hs hx) ?_
  rintro ⟨_, h⟩ ⟨rfl, hh⟩
  exact ⟨rfl, hh⟩

end Create

end Swapchain

end RenderTargets.Vulkan
