import RenderTargets.Proofs.Device.Command
import RenderTargets.Proofs.Vulkan.Device.Commands
import RenderTargets.Proofs.Vulkan.Device.Setup
import RenderTargets.Proofs.Vulkan.Device.Teardown
/-!
# Runs of a Vulkan device

A run is a device that is set up on a fresh host and then any list of events: commands, changes of
the size of the window, and changes of what is around the device, which are what the surface offers
and which calls of the driver fail. Commands may fail; only a trap ends a run early.

After every run the device is sound, so that

* giving it up ends everything that was made, in a fair order (`run_drop`),
* every wait was for a fence that is awaitable unless it is lost (`run_waits`), and
* the screen is ready unless it is marked, provided that the surface had pixels whenever it was
  needed (`run_screen`).
-/

namespace RenderTargets.Vulkan

open StepWith Run

/-! ### Events -/

/-- What is around a device and may change between its steps. -/
structure Surroundings where
  /-- The surface. -/
  surface : SurfaceOffer
  /-- How many images a swapchain gets, if not as many as asked for. -/
  imageCount : Option Nat
  /-- Size in the answer of a query for memory that fails. -/
  failingSize : Option Nat
  /-- Which calls fail. -/
  script : List Failure

/-- The driver in other surroundings. -/
def Driver.surround (d : Driver) (s : Surroundings) : Driver :=
  { d with
    surface := s.surface
    imageCount := s.imageCount
    failingSize := s.failingSize
    script := s.script }

namespace Device

/-- What happens to a device. -/
inductive Event where
  /-- A command. -/
  | command (c : GraphicsDevice.Command)
  /-- The window changed its size. -/
  | resize (size : Extent)
  /-- The surroundings changed. -/
  | surround (s : Surroundings)

namespace Event

/-- The step of an event. -/
def perform : Event → DeviceStep Unit
  | command c => c.perform
  | resize size => RunOn.change (·.resize size)
  | surround s => modify fun p ↦ (p.1, { p.2 with driver := p.2.driver.surround s })

/-- The screen may be built anew. -/
def NeedsScreen : Event → Prop
  | command (.beginPass none _) | command .commitFrame => True
  | _ => False

end Event

/-- The state after some events, unless one of them traps. -/
def run (events : List Event) : Device × Host → Option (Device × Host) :=
  settleAll (events.map Event.perform)

/-- The surface has pixels for the window whenever the screen may be built anew. -/
def PixelsThroughout : List Event → Device × Host → Prop
  | [], _ => True
  | e :: rest, s =>
    (e.NeedsScreen → s.2.driver.surface.HasPixels s.1.windowSize) ∧
      ∀ t, e.perform.settle s = some t → PixelsThroughout rest t

/-- The device was just set up on a fresh host. -/
def IsNew (s : Device × Host) : Prop :=
  ∃ w size config builtIn h, h.IsFresh ∧ create w size config builtIn h = .ok s.1 s.2

/-! ### Soundness -/

variable {always now : Prop} {d : Device} {h : Host} {s t : Device × Host} {events : List Event}

/-- What is known of the surface may be anything that is true of it. -/
theorem Sound.know (hs : Sound always False s)
    (hnow : now → s.2.driver.surface.HasPixels s.1.windowSize) :
    Sound always now s := by
  have hb : Fenced _ s.1.fences s.2.driver.calls s.2.driver.surface := Books.backdrop hs.2
  exact ⟨hs.1, Books.reframe hs.2 rfl ⟨hb.waits, hb.fences, hnow⟩⟩

theorem Sound.forget (hs : Sound always now s) : Sound always False s := by
  have hb : Fenced _ s.1.fences s.2.driver.calls s.2.driver.surface := Books.backdrop hs.2
  exact ⟨hs.1, Books.reframe hs.2 rfl ⟨hb.waits, hb.fences, False.elim⟩⟩

/-- A screen that is ready unless it is marked is what it has to be in any case. -/
theorem Sound.of_true (hs : Sound True now s) : Sound always now s := by
  have hsettled : s.1.screen.IsSettled True → s.1.screen.IsSettled always :=
    fun h ↦ h.imp_right fun h ↦ (h.2 trivial).elim
  exact ⟨⟨fun hm ↦ hsettled (hs.1.screen hm), hs.1.asked, fun f hf hi ↦
    hsettled (hs.1.image f hf hi)⟩,
    hs.2⟩

/-- Commands keep a device sound; those that need the screen do if the surface is as it always
was. -/
theorem keeps_command {c : GraphicsDevice.Command}
    (hnow : always → (Event.command c).NeedsScreen → now) :
    Keeps (Sound always now) (c.perform (σ := Device × Host)) := by
  cases c with
  | createTexture => exact Meets.map keeps_createTexture
  | createMesh => exact Meets.map keeps_createMesh
  | createShader => exact Meets.map keeps_createShader
  | createPipeline => exact Meets.map keeps_createPipeline
  | createPass => exact Meets.map keeps_createPass
  | destroy => exact keeps_destroy
  | beginPass pass =>
    refine keeps_beginPass fun h hpass ↦ hnow h ?_
    subst hpass
    trivial
  | applyViewport => exact keeps_applyViewport
  | applyDrawState => exact keeps_applyDrawState
  | applyUniforms => exact keeps_applyUniforms
  | draw => exact keeps_draw
  | fillRects => exact keeps_fillRects
  | endPass => exact keeps_endPass
  | commitFrame => exact keeps_commitFrame fun h ↦ hnow h trivial
  | requestQuit => exact keeps_requestQuit

/-- One event keeps a device sound. -/
theorem sound_perform {e : Event} (hs : Sound always False s)
    (hnow : always → e.NeedsScreen → s.2.driver.surface.HasPixels s.1.windowSize)
    (ht : e.perform.settle s = some t) : Sound always False t := by
  cases e with
  | command c =>
    exact (Meets.settle (keeps_command hnow) (hs.know id) ht).forget
  | resize size =>
    obtain rfl := Option.some.inj ht
    exact sound_resize hs
  | surround u =>
    obtain rfl := Option.some.inj ht
    have hb : Fenced _ s.1.fences s.2.driver.calls s.2.driver.surface := Books.backdrop hs.2
    have hh := hs.2
    exact ⟨hs.1, hh.fair, hh.nodup, hh.mem_iff, hh.numbered, hh.owners_eq, hb.waits, hb.fences,
      False.elim⟩

theorem sound_run (hs : Sound always False s) (hp : always → PixelsThroughout events s)
    (ht : run events s = some t) : Sound always False t := by
  induction events generalizing s with
  | nil => exact Option.some.inj ht ▸ hs
  | cons e events ih =>
    obtain ⟨u, hu, ht⟩ := Option.bind_eq_some_iff.1 ht
    exact ih (sound_perform hs (fun h ↦ (hp h).1) hu) (fun h ↦ (hp h).2 u hu) ht

/-! ### The end -/

/-- What holds of a host after a device on it was given up. -/
structure Released (d : Device) (before after : Host) : Prop where
  /-- Everything that was made ended once by itself, or else with its home: command buffers with
  the pool of the frames, and sets with theirs. -/
  once : ∀ c ∈ after.driver.calls, ∀ x, c.made? = some x →
    (after.driver.calls.filterMap Call.ended?).count x.object = 1 ∧
        ¬WentWithHome after.driver.calls x ∨
      (after.driver.calls.filterMap Call.ended?).count x.object = 0 ∧
        WentWithHome after.driver.calls x ∧
        (x.home = some d.framePool.any ∨ x.object.kind = .descriptorSet)
  /-- Nothing is passed to a call after it ended. -/
  unused : ∀ later c past x, after.driver.calls = later ++ c :: past → Alive past x → c.Ends x →
    ∀ c' ∈ later, x.object ∉ c'.uses
  /-- Nothing ends before what has to be gone before it. -/
  order : ∀ later c past o x, after.driver.calls = later ++ c :: past → c.ended? = some o →
    Alive past x → ¬x.Needs d.framePool.any o
  /-- Device and connection end last. -/
  last : ∃ past, after.driver.calls =
    .destroy d.connection.any :: .destroy d.context.device.any :: past
  /-- Only the device itself held on to the context. -/
  owners : after.owners = 1
  /-- Nothing was written. -/
  journal : after.journal = before.journal

/-- Without an estate nothing is alive. -/
theorem not_alive_of_held {b : Backdrop} (hh : Held b .share h) (x : Holding) :
    ¬Alive h.driver.calls x := by
  have hset : ∀ x, Alive h.driver.calls x → x.object.kind = .descriptorSet := fun x hx ↦
    Decidable.byContradiction fun hk ↦ Estate.mem_share.1 ((Books.mem_iff hh x).2 ⟨hx, hk⟩)
  -- A set would have a pool that is alive.
  intro hx
  obtain ⟨c, -, hc⟩ := hx.exists_made
  obtain ⟨pool, hhome, hpool⟩ := Call.pool_of_set hc (hset x hx)
  obtain ⟨y, hy, rfl⟩ := (Books.fair hh).home_alive hx hhome
  cases hpool.symm.trans (hset y hy)

theorem released_of_held {b : Backdrop} {before : Host} (hh : Held b .share h)
    (hb : b.frames = d.framePool.any)
    (hlast : ∃ past, h.driver.calls =
      .destroy d.connection.any :: .destroy d.context.device.any :: past)
    (hj : h.journal = before.journal) : Released d before h where
  once c hc x hx := by
    rcases (Books.fair hh).life ⟨c, hc, hx⟩ with
      ⟨halive, -, -⟩ | ⟨-, hgone, hone⟩ | ⟨-, hgone, hzero⟩
    · exact (not_alive_of_held hh x halive).elim
    · exact .inl ⟨hone, hgone⟩
    · refine .inr ⟨hzero, hgone, ?_⟩
      obtain ⟨pool, hhome⟩ := hgone.exists_home
      rcases Call.home_of_made? hx hhome with ⟨-, hk⟩ | ⟨hk, -⟩
      · rw [hhome, (Books.fair hh).home_of_went hgone hhome hk, hb]
        exact .inl rfl
      · exact .inr hk
  unused later c past x ht hx he _ hd := by
    have hfair : Fair b.frames (later ++ c :: past) := ht ▸ Books.fair hh
    exact hfair.not_mem_uses hx he hd
  order later c past o x ht he hx := by
    have hfair : Fair b.frames (later ++ c :: past) := ht ▸ Books.fair hh
    exact hb ▸ hfair.of_append.2.ended o x he hx
  last := hlast
  owners := Books.owners_eq hh
  journal := hj

/-! ### The screen -/

/-- The screen of a device can be used unless it is marked. -/
structure Consistent (d : Device) : Prop where
  /-- It is ready unless it is marked. -/
  ready : d.screen.needsRebuild = false → d.screen.IsReady
  /-- Whenever it is not marked or the frame has an image of it, images can be rendered into and
  shown. -/
  index : (d.screen.needsRebuild = false ∨ ∃ f, d.frame = some f ∧ f.image.isSome) →
    ∀ i < d.screen.images.length,
      (∃ framebuffer, d.screen.framebuffers[i]? = some framebuffer) ∧
        ∃ semaphore, d.screen.renderFinished[i]? = some semaphore

theorem ready_of_settled {s : Swapchain} (h : s.IsSettled True) : s.IsReady :=
  h.resolve_right fun h ↦ h.2 trivial

theorem Sound.consistent (hs : Sound True now s) : Consistent s.1 where
  ready h := ready_of_settled (hs.1.screen h)
  index h i hi := by
    have hr : s.1.screen.IsReady := by
      rcases h with h | ⟨f, hf, hi⟩
      · exact ready_of_settled (hs.1.screen h)
      · exact ready_of_settled (hs.1.image f hf hi)
    exact hr.of_lt hi

/-- Building the screen anew clears its mark, and makes it ready just if the surface has pixels. -/
theorem rebuild_eq_ok (hs : Sound always False s)
    (hr : onScreen (Swapchain.rebuild s.1.context s.1.windowSize) s = .ok () t) :
    t.1.screen.needsRebuild = false ∧
      (t.1.screen.IsReady ↔ s.2.driver.surface.HasPixels s.1.windowSize) := by
  let b : Backdrop := fenced (· = s.2.driver.surface) s.1.framePool s.1.fences
  have hb : Fenced _ s.1.fences s.2.driver.calls s.2.driver.surface := Books.backdrop hs.2
  have hheld : Held b s.1.estate s.2 := Books.reframe hs.2 rfl ⟨hb.waits, hb.fences, rfl⟩
  have hrebuild : Meets (RunOn.At s.1 (Held b s.1.estate))
      (onScreen (Swapchain.rebuild s.1.context s.1.windowSize))
      (fun _ t ↦ Swapchain.Rebuilt b s.1.windowSize t.1.screen) fun _ _ ↦ True :=
    meets_onScreen (Swapchain.meets_rebuild s.1.covers_device) (fun _ _ _ ht ↦ ht.1)
      fun _ _ _ _ ↦ trivial
  obtain ⟨hclear, calls, offer, extent, hoffer, hx, ht⟩ := hrebuild.ok ⟨rfl, hheld⟩ hr
  have hoffer : Fenced (· = s.2.driver.surface) s.1.fences calls offer := hoffer
  obtain rfl : offer = s.2.driver.surface := hoffer.offer
  refine ⟨hclear, ?_⟩
  split at ht
  · next hz =>
    refine iff_of_false ht.not_isReady fun hp ↦ ?_
    exact hz.elim (hp extent hx).1 (hp extent hx).2
  · next hz =>
    refine iff_of_true ht fun extent' hx' ↦ ?_
    obtain rfl := Option.some.inj (hx.symm.trans hx')
    exact not_or.1 hz

/-- What `screenImage` does, with another way of asking for an image. -/
def screenImageWith (acquire : ℕ → RunOn Swapchain (Option ℕ)) : DeviceStep (Option ℕ) := do
  let d ← RunOn.part
  match d.frame with
  | none => Log.refuse source .noFrame
  | some frame =>
    if frame.asked then return frame.image
    changeFrame ({ · with asked := true })
    if d.screen.needsRebuild then
      onScreen (Swapchain.rebuild d.context d.windowSize)
      if (← RunOn.part).screen.needsRebuild then return none
    let image ← onScreen (acquire d.slotIndex)
    changeFrame ({ · with image })
    return image

/-- It does not matter what asking for an image would do with a screen that is not ready. -/
theorem screenImageWith_eq {acquire : ℕ → RunOn Swapchain (Option ℕ)} (hs : Sound True True s)
    (h : ∀ n p, p.1.IsReady → acquire n p = Swapchain.acquire n p) :
    screenImageWith acquire s = screenImage s := by
  obtain ⟨d, k⟩ := s
  obtain ⟨hd, hk⟩ := hs
  have hacquire : ∀ {d : Device} {k : Host} {n : ℕ} {f : Option ℕ → DeviceStep (Option ℕ)},
      d.screen.IsReady →
      (onScreen (acquire n) >>= f) (d, k) = (onScreen (Swapchain.acquire n) >>= f) (d, k) := by
    intro d k n f hr
    have hpart : acquire n (d.screen, k) = Swapchain.acquire n (d.screen, k) := h n _ hr
    simp only [bind, EStateM.bind, onScreen, within, screenLens, Lens.beside, hpart]
  show (match d.frame with | none => _ | some frame => _ : DeviceStep (Option ℕ)) (d, k) =
    (match d.frame with | none => _ | some frame => _ : DeviceStep (Option ℕ)) (d, k)
  cases d.frame with
  | none => rfl
  | some frame =>
    simp only
    split
    · rfl
    let d' : Device := { d with frame := d.frame.map ({ · with asked := true }) }
    split
    · have hbuilt : Meets (RunOn.At d' (d'.Owns True))
          (onScreen (Swapchain.rebuild d.context d.windowSize))
          (fun _ s ↦ s.1.screen.IsReady) fun _ _ ↦ True :=
        meets_onScreen (Swapchain.meets_rebuild d'.covers_device)
          (fun _ _ _ ht ↦ ready_of_settled (settled_of_rebuilt (d := d') id ht.1))
          fun _ _ _ _ ↦ trivial
      refine hbuilt.bind_congr ?_ (s := (d', k)) ⟨rfl, hk⟩
      rintro _ ⟨d, k⟩ hr
      show (if d.screen.needsRebuild = true then _ else _ : DeviceStep (Option ℕ)) (d, k) =
        (if d.screen.needsRebuild = true then _ else _ : DeviceStep (Option ℕ)) (d, k)
      split
      · rfl
      · exact hacquire hr
    · next hm =>
      exact hacquire (d := d') (ready_of_settled (hd.screen (Bool.eq_false_iff.2 hm)))

/-! ### A small host -/

/-- A window. -/
def plainWindow : Window := { display := .ok .xlib, window := .ok .xlib }

/-- A surface with pixels. -/
def plainSurface : SurfaceOffer :=
  { formats := [⟨44, 0⟩]
    modes := [2]
    capabilities := ⟨2, 8, ⟨640, 480⟩, ⟨1, 1⟩, ⟨4096, 4096⟩, 1⟩ }

/-- The surface of a window that is minimised. -/
def minimisedSurface : SurfaceOffer :=
  { plainSurface with capabilities := { plainSurface.capabilities with currentExtent := ⟨0, 0⟩ } }

/-- A host with one GPU. -/
def plainHost (surface : SurfaceOffer) (script : List Failure) : Host :=
  { driver :=
      { gpus := [⟨2, "GPU", ⟨8, 15, 15⟩, true, true, [⟨7, some true⟩]⟩]
        surface, script } }

/-- A small texture. -/
def plainTexture : TextureDesc := ⟨"color", 4, 4, .rgba8Unorm, .renderTarget, 1, none⟩

/-- A device on such a host that answers as `check` wants. -/
theorem exists_created (surface : SurfaceOffer) (script : List Failure)
    (check : Device × Host → Bool)
    (h : (match create plainWindow ⟨640, 480⟩ {} false (plainHost surface script) with
      | .ok d h => check (d, h)
      | .error _ _ => false) = true) :
    ∃ s : Device × Host,
      create plainWindow ⟨640, 480⟩ {} false (plainHost surface script) = .ok s.1 s.2 ∧
        check s = true := by
  split at h
  · next d k hcreate => exact ⟨(d, k), hcreate, h⟩
  · cases h

theorem exists_new (surface : SurfaceOffer) (script : List Failure) (check : Device × Host → Bool)
    (h : (match create plainWindow ⟨640, 480⟩ {} false (plainHost surface script) with
      | .ok d h => check (d, h)
      | .error _ _ => false) = true) : ∃ s, IsNew s ∧ check s = true := by
  obtain ⟨s, hcreate, hcheck⟩ := exists_created surface script check h
  exact ⟨s, ⟨_, _, _, _, _, ⟨rfl, rfl⟩, hcreate⟩, hcheck⟩

/-! ### Wherever a device gets -/

/-- A device is sound wherever it gets. -/
theorem IsNew.sound (hs : IsNew s) (hp : always → PixelsThroughout events s)
    (ht : run events s = some t) : Sound always False t := by
  obtain ⟨w, size, config, builtIn, h, hfresh, hcreate⟩ := hs
  exact sound_run (Meets.ok meets_create ⟨hfresh, False.elim⟩ hcreate).of_true hp ht

/-- **Giving a device up ends everything.** Wherever a device got, giving it up completes, and
everything that was ever made ended once. -/
theorem run_drop (hs : IsNew s) (ht : run events s = some t) :
    ∃ h, t.1.drop t.2 = .ok () h ∧ Released t.1 t.2 h := by
  have hsound : Sound False False t := hs.sound False.elim ht
  obtain ⟨⟨⟩, h, hdrop, hj, hh, hlast⟩ := t.1.completes_drop rfl t.2 hsound.2
  exact ⟨h, hdrop, released_of_held hh rfl hlast hj⟩

/-- The memory of the second texture could not be bound. The device drew a frame and was given
up. -/
theorem run_drop_after_failed_bind :
    ∃ s t h, IsNew s ∧
      run [.command (.createTexture plainTexture), .command (.createTexture plainTexture),
        .command .commitFrame] s = some t ∧
      .failed .bindImageMemory (.bindImageMemory ⟨3⟩) ⟨-1⟩ ∈ t.2.driver.calls ∧
      t.1.drop t.2 = .ok () h ∧ Released t.1 t.2 h := by
  obtain ⟨s, hs, hcheck⟩ := exists_new plainSurface [⟨.bindImageMemory, 3, ⟨-1⟩⟩]
    (fun s ↦ (run [.command (.createTexture plainTexture),
      .command (.createTexture plainTexture), .command .commitFrame] s).any
        fun t ↦ t.2.driver.calls.contains
          (.failed .bindImageMemory (.bindImageMemory ⟨3⟩) ⟨-1⟩)) (by decide +kernel)
  obtain ⟨t, ht, hfailed⟩ := (Option.any_eq_true _ _).1 hcheck
  obtain ⟨h, hdrop, hreleased⟩ := run_drop hs ht
  exact ⟨s, t, h, hs, ht, List.contains_iff_mem.1 hfailed, hdrop, hreleased⟩

/-- **Waits are exact.** Every fence that was waited for was awaitable unless it was lost, and so is
the fence of every slot wherever a device gets; none is lost unless a submission with it failed. -/
theorem run_waits (hs : IsNew s) (ht : run events s = some t) :
    (∀ later past f, t.2.driver.calls = later ++ .waitForFence f :: past →
      (Awaitable past f ↔ ¬Lost past f) ∧
        (Lost past f →
          ∃ queue work code, .failed .submit (.submit queue work f) code ∈ past)) ∧
      ∀ slot ∈ t.1.slots,
        (Awaitable t.2.driver.calls slot.fence ↔ ¬Lost t.2.driver.calls slot.fence) := by
  have hsound : Sound False False t := hs.sound False.elim ht
  have hb : Fenced _ t.1.fences t.2.driver.calls t.2.driver.surface := Books.backdrop hsound.2
  refine ⟨fun later past f hcalls ↦ ⟨?_, Lost.exists_failed⟩, fun slot hslot ↦ ⟨?_, fun hl ↦ ?_⟩⟩
  · exact WaitsFit.of_append (hcalls ▸ hb.waits)
  · exact fun ha hl ↦ hl.not_awaitable ha
  · exact (hb.fences _ (mem_fences hslot)).resolve_right hl

/-- After a submission that failed, the next frame waits for a fence that nobody will signal. -/
theorem run_waits_lost :
    ∃ s t later past f, IsNew s ∧
      run [.command .commitFrame, .command .commitFrame] s = some t ∧
      t.2.driver.calls = later ++ .waitForFence f :: past ∧ Lost past f ∧ ¬Awaitable past f := by
  let lost : Call := .submit ⟨1⟩ ⟨[(⟨1⟩, 1024)], ⟨1⟩, [⟨3⟩]⟩ ⟨1⟩
  let wait : List Call := [.waitForFence ⟨1⟩, .failed .submit lost ⟨-4⟩, .resetFence ⟨1⟩]
  obtain ⟨s, hs, hcheck⟩ := exists_new plainSurface [⟨.submit, 1, ⟨-4⟩⟩]
    (fun s ↦ (run [.command .commitFrame, .command .commitFrame] s).any fun t ↦
      decide (wait <:+: t.2.driver.calls)) (by decide +kernel)
  obtain ⟨t, ht, hwait⟩ := (Option.any_eq_true _ _).1 hcheck
  obtain ⟨later, past, hcalls⟩ := of_decide_eq_true hwait
  have hlost : Lost (.failed .submit lost ⟨-4⟩ :: .resetFence ⟨1⟩ :: past) ⟨1⟩ :=
    .inl ⟨⟨_, _, _, rfl⟩, rfl⟩
  refine ⟨s, t, later, _, ⟨1⟩, hs, ht, ?_, hlost, hlost.not_awaitable⟩
  rw [← hcalls, List.append_assoc]
  rfl

/-- In the same run each wait is exact. -/
theorem run_waits_after_failed_submit :
    ∃ s t, IsNew s ∧ run [.command .commitFrame, .command .commitFrame] s = some t ∧
      .failed .submit (.submit ⟨1⟩ ⟨[(⟨1⟩, 1024)], ⟨1⟩, [⟨3⟩]⟩ ⟨1⟩) ⟨-4⟩ ∈ t.2.driver.calls ∧
      ∀ later past f, t.2.driver.calls = later ++ .waitForFence f :: past →
        (Awaitable past f ↔ ¬Lost past f) := by
  obtain ⟨s, hs, hcheck⟩ := exists_new plainSurface [⟨.submit, 1, ⟨-4⟩⟩]
    (fun s ↦ (run [.command .commitFrame, .command .commitFrame] s).any
      fun t ↦ t.2.driver.calls.contains
        (.failed .submit (.submit ⟨1⟩ ⟨[(⟨1⟩, 1024)], ⟨1⟩, [⟨3⟩]⟩ ⟨1⟩) ⟨-4⟩)) (by decide +kernel)
  obtain ⟨t, ht, hfailed⟩ := (Option.any_eq_true _ _).1 hcheck
  exact ⟨s, t, hs, ht, List.contains_iff_mem.1 hfailed,
    fun later past f hcalls ↦ ((run_waits hs ht).1 later past f hcalls).1⟩

/-- **A screen without a mark is ready**, provided that the surface had pixels whenever the screen
may have been built anew; then images are only asked for when it is ready. Without that it may be
bare as well, and it is so after it was built anew just if the surface had no pixels. -/
theorem run_screen (hs : IsNew s) (ht : run events s = some t) :
    (t.1.screen.needsRebuild = false → t.1.screen.IsReady ∨ t.1.screen.IsBare) ∧
      (∀ u, onScreen (Swapchain.rebuild t.1.context t.1.windowSize) t = .ok () u →
        u.1.screen.needsRebuild = false ∧
          (u.1.screen.IsReady ↔ t.2.driver.surface.HasPixels t.1.windowSize)) ∧
      (PixelsThroughout events s →
        Consistent t.1 ∧
          (t.2.driver.surface.HasPixels t.1.windowSize → ∀ acquire,
            (∀ n p, p.1.IsReady → acquire n p = Swapchain.acquire n p) →
              screenImageWith acquire t = screenImage t)) := by
  have hsound : Sound False False t := hs.sound False.elim ht
  refine ⟨fun hm ↦ (hsound.1.screen hm).imp_right And.left, fun u ↦ rebuild_eq_ok hsound, fun hp ↦
    ?_⟩
  have hsound : Sound True False t := hs.sound (fun _ ↦ hp) ht
  exact ⟨hsound.consistent, fun hnow _ ↦ screenImageWith_eq (hsound.know fun _ ↦ hnow)⟩

theorem hasPixels_plainSurface (size : Extent) : plainSurface.HasPixels size := by
  intro extent hx
  have hsize : chooseExtent? plainSurface.capabilities size.width size.height =
      some ⟨640, 480⟩ := by
    rw [chooseExtent?, if_pos (by decide)]
    rfl
  cases hsize.symm.trans hx
  decide

/-- The surface has pixels, and the screen without a mark is ready after a frame. -/
theorem run_screen_after_frame :
    ∃ s t, IsNew s ∧ run [.command .commitFrame] s = some t ∧ t.1.screen.needsRebuild = false ∧
      t.1.screen.IsReady := by
  obtain ⟨s, hs, hcheck⟩ := exists_new plainSurface []
    (fun s ↦ decide (s.2.driver.surface = plainSurface) &&
      (run [.command .commitFrame] s).any fun t ↦ !t.1.screen.needsRebuild) (by decide +kernel)
  simp only [Bool.and_eq_true, decide_eq_true_eq] at hcheck
  obtain ⟨t, ht, hmark⟩ := (Option.any_eq_true _ _).1 hcheck.2
  have hmark : t.1.screen.needsRebuild = false := by simpa using hmark
  have hpixels : PixelsThroughout [.command .commitFrame] s :=
    ⟨fun _ ↦ hcheck.1 ▸ hasPixels_plainSurface _, fun _ _ ↦ trivial⟩
  exact ⟨s, t, hs, ht, hmark, ((run_screen hs ht).2.2 hpixels).1.ready hmark⟩

/-- A device of a minimised window asks the null swapchain for an image and is left without a mark.
If the window is minimised later, it asks a swapchain whose framebuffers are gone, and traps. -/
theorem run_screen_minimised :
    (∃ s t, IsNew s ∧ run [.command (.beginPass none {})] s = some t ∧
      t.1.screen.needsRebuild = false ∧ t.1.screen.swapchain.isNull = true) ∧
    ∃ s, IsNew s ∧ run [.surround ⟨minimisedSurface, none, none, []⟩, .resize ⟨0, 0⟩,
      .command (.beginPass none {})] s = none := by
  refine ⟨?_, ?_⟩
  · obtain ⟨s, hs, hcheck⟩ := exists_new minimisedSurface [⟨.acquire, 1, ⟨-4⟩⟩]
      (fun s ↦ (run [.command (.beginPass none {})] s).any
        fun t ↦ !t.1.screen.needsRebuild && t.1.screen.swapchain.isNull) (by decide +kernel)
    obtain ⟨t, ht, hscreen⟩ := (Option.any_eq_true _ _).1 hcheck
    simp only [Bool.and_eq_true, Bool.not_eq_true'] at hscreen
    exact ⟨s, t, hs, ht, hscreen⟩
  · obtain ⟨s, hs, hcheck⟩ := exists_new plainSurface []
      (fun s ↦ (run [.surround ⟨minimisedSurface, none, none, []⟩, .resize ⟨0, 0⟩,
        .command (.beginPass none {})] s).isNone) (by decide +kernel)
    exact ⟨s, hs, Option.isNone_iff_eq_none.1 hcheck⟩

end Device

end RenderTargets.Vulkan
