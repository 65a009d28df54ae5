import RenderTargets.Proofs.Vulkan.Device.Estate
import RenderTargets.Proofs.Vulkan.Phases
import RenderTargets.Vulkan.Device.Setup
/-!
# Setting a device up

A device that was set up on a fresh host is sound. The steps before there is a GPU make connection,
messenger and surface; what they leave to the driver when a later one fails is not looked at, since
there is no device then.

## The pool of the frames

What is known of a trace names the pool of the frames, which is made last of what is not given up
again. Before it is there, the host is held for **every** pool.

## Frame slots of a new device

A device is set up outside frames, so that all its slots rest. This does not rest on numbers, as
the slots are made on the way: the pool of uploads is another than that of the frames, and an object
is made only once, so no upload has the buffer of a slot (`not_mem_uploads`).

What is held twice by nobody tells slots apart (`apart_of_sound`).
-/

namespace RenderTargets.Vulkan

open StepWith Run

variable {b : Backdrop} {e r : Estate}

/-- No call was made on the driver, and there is no context. -/
structure Host.IsFresh (h : Host) : Prop where
  /-- The trace is empty. -/
  calls : h.driver.calls = []
  /-- Nobody holds on to a context. -/
  owners : h.owners = 0

theorem Held.of_isFresh {h : Host} (hh : h.IsFresh) (hb : b.Holds [] h.driver.surface) :
    Held b 0 h where
  fair := by
    rw [hh.calls]
    trivial
  nodup := Multiset.nodup_zero
  mem_iff x := by
    rw [hh.calls]
    exact iff_of_false (Multiset.notMem_zero x) fun h ↦ h.1
  numbered o ho := by
    rw [hh.calls] at ho
    obtain ⟨c, hc, -⟩ := ho
    cases hc
  owners_eq := hh.owners
  backdrop := hh.calls ▸ hb

namespace Device

/-! ### Before there is a GPU -/

theorem keeps_displayOf {w : Window} : Keeps (Held b e) (displayOf w) := by
  rw [displayOf]
  split
  · exact .pure fun _ hh ↦ hh
  · exact meets_giveUp fun _ _ hh ↦ hh

theorem keeps_extensionsOf {display : WindowSystem} : Keeps (Held b e) (extensionsOf display) := by
  rw [extensionsOf]
  split
  · exact .pure fun _ hh ↦ hh
  · exact meets_giveUp fun _ _ hh ↦ hh

theorem keeps_decideValidation {config : Config} {builtIn : Bool} :
    Keeps (Held b e) (decideValidation config builtIn) := by
  refine .ite (fun _ ↦ .pure fun _ hh ↦ hh) fun _ ↦ .get_bind fun h ↦ ?_
  refine .bind (Q := fun _ ↦ Held b e)
    (meets_driving fun _ hh ↦ hh.congr Driver.continues_enumerate) fun found ↦ ?_
  exact .ite (fun _ ↦ .pure fun _ hh ↦ hh) fun _ ↦ .bind meets_note fun _ ↦ .pure fun _ hh ↦ hh

theorem meets_connect {config : Config} {extensions : List String} {validate : Bool} :
    Meets (Held b r) (connect config extensions validate) (fun o ↦ Held b (o.sole + r))
      fun _ ↦ Held b r :=
  meets_setUpMake (.of_nil (fun _ ↦ rfl) (fun _ ↦ trivial) fun _ ↦ rfl) (by decide)

theorem meets_createMessenger {severity : Flags} {logged action : String} :
    Meets (Held b r) (setUp logged action (Driver.createMessenger severity))
      (fun o ↦ Held b (o.sole + r)) fun _ ↦ Held b r := by
  have hc : Makes .messenger (.createMessenger · severity) none r :=
    .of_nil (fun _ ↦ rfl) (fun _ ↦ trivial) fun _ ↦ rfl
  refine meets_setUp (fun h o d hh hd ↦ ?_) (fun h code d hh hd ↦ ?_) fun _ _ hh ↦ hh
  · rw [Driver.createMessenger] at hd
    split at hd
    · next o' d' he =>
      have hmade : Held b (o'.sole + r) { h with driver := d' } := hh.create hc (by decide) he
      cases hd
      exact hmade.congr ⟨rfl, rfl, fun _ ↦ Nat.le_refl _⟩
    · next hno => exact (hno _ _ hd).elim
  · rw [Driver.createMessenger] at hd
    split at hd
    · cases hd
    · exact hh.of_create_error hd

theorem meets_listen {config : Config} :
    Meets (Held b r) (listen config) (fun o ↦ Held b (o.sole + r)) fun _ ↦ Held b r :=
  .bind (Q := fun _ ↦ Held b r) (.update fun _ hh ↦ hh) fun _ ↦ meets_createMessenger

theorem meets_createSurface {w : Window} {display : WindowSystem} :
    Meets (Held b r) (createSurface w display) (fun o ↦ Held b (o.sole + r)) fun _ ↦ Held b r := by
  rw [createSurface]
  split
  · exact meets_giveUp fun _ _ hh ↦ hh
  · split
    · exact meets_giveUp fun _ _ hh ↦ hh
    · exact meets_setUpMake (.of_nil (fun _ ↦ rfl) (fun _ ↦ trivial) fun _ ↦ rfl) (by decide)

theorem keeps_pickGpu : Keeps (Held b e) pickGpu := by
  refine .get_bind fun h ↦ ?_
  refine .bind (keeps_setUp fun _ hh ↦ hh.congr Driver.continues_enumerate) fun found ↦ ?_
  split
  · exact .pure fun _ hh ↦ hh
  · exact meets_giveUp fun _ _ hh ↦ hh

/-! ### With a GPU -/

theorem meets_openGpu {c : Choice} :
    Meets (Held b r) (openGpu c)
      (fun p ↦ Held b (p.2.sole + (p.1.uploadPool.sole + (p.1.device.sole + r))))
      fun _ _ ↦ True := by
  have hpool : ∀ {r flags}, Makes .commandPool (.createCommandPool · c.family flags)
      none r :=
    .of_nil (fun _ ↦ rfl) (fun _ ↦ trivial) fun _ ↦ rfl
  refine .bind (Meets.lax
    (meets_setUpMake (.of_nil (fun _ ↦ rfl) (fun _ ↦ trivial) fun _ ↦ rfl) (by decide)))
    fun device ↦ ?_
  refine .bind (Q := fun _ ↦ Held b (device.sole + r))
    (meets_driving fun _ hh ↦ hh.congr Driver.continues_fresh) fun queue ↦ ?_
  refine .bind (Meets.lax (meets_setUpMake hpool (by decide))) fun uploadPool ↦ ?_
  refine .bind (Meets.lax (meets_setUpMake hpool (by decide))) fun framePool ↦ ?_
  exact .get_bind fun _ ↦ .pure fun _ hh ↦ hh

theorem meets_createScreen {ctx : Context} {surface : Object .surface} {size : Extent}
    {vsync : Bool} {frames : ℕ} :
    Meets (Held b (surface.sole + r)) (createScreen ctx surface size vsync frames)
      (fun p h ↦ (p.1.needsRebuild = false → p.1.IsReady) ∧
        Held b (p.2.sole + (p.1.estate + r)) h)
      fun _ _ ↦ True := by
  refine .bind Swapchain.meets_create fun screen ↦ .assume fun hscreen ↦ ?_
  have hsampler : Makes .sampler (.createSampler ·) none (screen.estate + r) :=
    .of_nil (fun _ ↦ rfl) (fun _ ↦ trivial) fun _ ↦ rfl
  exact .bind (Run.meets_undoing (meets_setUpMake hsampler (by decide))) fun sampler ↦
    .pure fun _ hh ↦ ⟨hscreen, hh⟩

theorem keeps_announce {c : Choice} {found : Capabilities} : Keeps (Held b e) (announce c found) :=
  .bind meets_note fun _ ↦ .ite (fun _ ↦ meets_note) fun _ ↦ .pure fun _ hh ↦ hh

/-- The device is the first that holds on to its context. -/
theorem meets_firstShare {E : EngineError → Host → Prop} (hr : r.2 = 0) :
    Meets (Held b r) (modify fun h ↦ { h with owners := 1 }) (fun _ ↦ Held b (.share + r)) E := by
  refine .update fun h hh ↦ ?_
  have howners : h.owners + 1 = 1 := by rw [Books.owners_eq hh, hr]
  exact howners ▸ hh.share

/-! ### The whole -/

/-- The host is held, whichever pool that of the frames will be. -/
def Begun (offered : SurfaceOffer → Prop) (e : Estate) (h : Host) : Prop :=
  ∀ frames, Held (fenced offered frames []) e h

/-- A step that does not know the pool of the frames. -/
theorem meets_begun {α : Type} {offered : SurfaceOffer → Prop} {x : Run α} {g : α → Estate}
    {E : Backdrop → EngineError → Host → Prop}
    (h : ∀ b, Meets (Held b e) x (fun a ↦ Held b (g a)) (E b)) :
    Meets (Begun offered e) x (fun a ↦ Begun offered (g a)) fun _ _ ↦ True :=
  (Meets.forall fun _ ↦ h _).lax

theorem stock_empty {κ α : Type} {tag : κ} (g : α → Estate) :
    stock g ({} : Slot.Map tag α) = 0 :=
  rfl

/-- A device that was set up is sound, and its screen is ready unless it is marked. -/
theorem meets_create {w : Window} {size : Extent} {config : Config} {builtIn : Bool} {now : Prop} :
    Meets (fun h ↦ h.IsFresh ∧ (now → h.driver.surface.HasPixels size))
      (create w size config builtIn) (fun d h ↦ Sound True now (d, h)) fun _ _ ↦ True := by
  let offered (o : SurfaceOffer) : Prop := now → o.HasPixels size
  refine Meets.pre (P := Begun offered 0) ?_ fun h hh frames ↦
    Held.of_isFresh hh.1 ⟨trivial, List.forall_mem_nil _, hh.2⟩
  refine .get_bind fun _ ↦ ?_
  refine .ite (fun _ ↦ meets_giveUp_bind fun _ _ _ ↦ trivial) fun _ ↦ ?_
  refine .ite (fun _ ↦ .fail_bind fun _ _ ↦ trivial) fun _ ↦ ?_
  refine .bind (meets_begun fun _ ↦ keeps_displayOf) fun display ↦ ?_
  refine .bind (meets_begun fun _ ↦ keeps_extensionsOf) fun extensions ↦ ?_
  refine .bind (meets_begun fun _ ↦ keeps_decideValidation) fun validate ↦ ?_
  refine .bind (meets_begun fun _ ↦ meets_connect) fun connection ↦ ?_
  refine .ite_bind (Q := fun messenger ↦
    Begun offered (Swapchain.soles messenger.toList + (connection.sole + 0))) ?_ fun messenger ↦ ?_
  · refine .ite (fun _ ↦ .map ?_) fun _ ↦ .pure fun _ hh frames ↦
      (hh frames).of_eq (zero_add _).symm
    refine (meets_begun fun _ ↦ meets_listen).post fun o _ hh frames ↦ (hh frames).of_eq ?_
    exact congrArg (· + _) (add_zero o.sole).symm
  refine .bind (meets_begun fun _ ↦ meets_createSurface) fun surface ↦ ?_
  refine .bind (meets_begun fun _ ↦ keeps_pickGpu) fun choice ↦ ?_
  refine .bind (meets_begun fun _ ↦ meets_openGpu) fun ⟨context, framePool⟩ ↦ ?_
  -- From here on the pool of the frames is known.
  refine Meets.pre (P := Held (fenced offered framePool []) (framePool.sole +
    (context.uploadPool.sole + (context.device.sole + (surface.sole +
      (Swapchain.soles messenger.toList + (connection.sole + 0))))))) ?_ fun _ hh ↦ hh framePool
  refine .bind (meets_firstShare ?_) fun _ ↦ ?_
  · show 0 + (0 + (0 + (0 + ((Swapchain.soles messenger.toList).2 + 0)))) = 0
    rw [Swapchain.snd_soles]
  let others : Estate := .share + (framePool.sole + (context.uploadPool.sole +
    (context.device.sole + (Swapchain.soles messenger.toList + (connection.sole + 0)))))
  refine Meets.pre (P := Held (fenced offered framePool []) (surface.sole + others)) ?_
    fun _ hh ↦ hh.of_eq (by simp only [others]; abel)
  refine .bind (FrameSlot.meets_createAll (by simp [others])) fun slots ↦ ?_
  rw [add_left_comm]
  refine .bind (Run.meets_undoing meets_createScreen) fun ⟨screen, sampler⟩ ↦
    .assume fun hready ↦ ?_
  refine .bind keeps_announce.lax fun _ ↦ .pure fun h hh ↦ ?_
  refine ⟨.of_no_frame rfl fun hm ↦ .inl (hready hm), hh.of_eq ?_⟩
  simp only [others, estate, otherEstate, resourceEstate, slotEstate, fixedEstate, stock_empty]
  abel

end Device

end RenderTargets.Vulkan

/-! ### Frame slots -/

namespace RenderTargets.Vulkan

open StepWith Run

/-- Of estates that are held together, no two have the same object. -/
theorem Estate.nodup_of_sum {α : Type} {l : List α} {g : α → Estate} {x : α → Holding}
    (hx : ∀ a, x a ∈ (g a).1) (h : (l.map g).sum.1.Nodup) : (l.map x).Nodup := by
  induction l with
  | nil => exact List.nodup_nil
  | cons a l ih =>
    obtain ⟨-, hl, hdisjoint⟩ := Multiset.nodup_add.1 h
    refine List.nodup_cons.2 ⟨fun hmem ↦ ?_, ih hl⟩
    obtain ⟨b, hb, he⟩ := List.mem_map.1 hmem
    exact Multiset.disjoint_left.1 hdisjoint (hx a) (he ▸ mem_sum hb (hx b))

namespace Device

variable {always now : Prop} {d : Device} {k : Host} {uploads : Object .commandPool}

/-! ### What the books say of slots -/

theorem Sound.nodup_slots (hs : Sound always now (d, k)) :
    d.slotEstate.1.Nodup ∧ d.fixedEstate.1.Nodup := by
  obtain ⟨-, hother, -⟩ := Multiset.nodup_add.1 (Books.nodup hs.2)
  obtain ⟨-, hother, -⟩ := Multiset.nodup_add.1 hother
  obtain ⟨hslots, hfixed, -⟩ := Multiset.nodup_add.1 hother
  exact ⟨hslots, hfixed⟩

theorem apart_of_sound (hs : Sound always now (d, k)) : Apart d.slots where
  commands := by
    have hbuffers := Estate.nodup_of_sum (x := FrameSlot.buffer d.framePool)
      (fun f ↦ by simp [FrameSlot.estate]) hs.nodup_slots.1
    have hmap : d.slots.map (FrameSlot.buffer d.framePool) =
        (d.slots.map (·.commands)).map fun b ↦ ⟨b.any, some d.framePool.any⟩ := by
      simp [FrameSlot.buffer]
    exact .of_map _ (hmap ▸ hbuffers)
  fences := by
    have hfences := Estate.nodup_of_sum (x := fun f : FrameSlot ↦ ⟨f.fence.any, none⟩)
      (fun f ↦ by simp [FrameSlot.estate, FrameSlot.ownEstate]) hs.nodup_slots.1
    have hmap : d.slots.map (fun f : FrameSlot ↦ (⟨f.fence.any, none⟩ : Holding)) =
        (d.slots.map (·.fence)).map fun o ↦ ⟨o.any, none⟩ := by
      simp
    exact .of_map _ (hmap ▸ hfences)

theorem framePool_ne (hs : Sound always now (d, k)) : d.framePool ≠ d.context.uploadPool := by
  obtain ⟨-, hpools, -⟩ := Multiset.nodup_add.1 hs.nodup_slots.2
  obtain ⟨-, -, hdisjoint⟩ := Multiset.nodup_add.1 hpools
  intro he
  refine Multiset.disjoint_left.1 hdisjoint (Object.mem_sole.2 rfl) ?_
  exact he ▸ Estate.mem_add.2 (.inl (Object.mem_sole.2 rfl))

theorem alive_buffer (hs : Sound always now (d, k)) {f : FrameSlot} (hf : f ∈ d.slots) :
    Alive k.driver.calls (f.buffer d.framePool) := by
  have hslot : f.buffer d.framePool ∈ d.slotEstate.1 :=
    Estate.mem_sum hf (by simp [FrameSlot.estate])
  exact hs.2.alive (Estate.mem_add.2
    (.inr (Estate.mem_add.2 (.inr (Estate.mem_add.2 (.inl hslot))))))

/-- The buffer of a slot was not made for an upload. -/
theorem not_mem_uploads (hs : Sound always now (d, k)) {f : FrameSlot} (hf : f ∈ d.slots) :
    .allocateCommandBuffer f.commands d.context.uploadPool ∉ k.driver.calls := by
  intro hc
  obtain ⟨c, hmem, hm⟩ := (alive_buffer hs hf).exists_made
  have hsame : f.buffer d.framePool = ⟨f.commands.any, some d.context.uploadPool.any⟩ :=
    (Books.fair hs.2).made_unique hmem hc hm rfl rfl
  have hpool := congrArg (Option.map AnyObject.number) (congrArg Holding.home hsame)
  exact framePool_ne hs (congrArg Object.mk (Option.some.inj hpool))

/-! ### Setting up -/

theorem outsideFrames_displayOf {w : Window} : IsOutsideFrames uploads (displayOf w) := by
  rw [displayOf]
  split
  · exact .pure
  · exact .giveUp

theorem outsideFrames_extensionsOf {display : WindowSystem} :
    IsOutsideFrames uploads (extensionsOf display) := by
  rw [extensionsOf]
  split
  · exact .pure
  · exact .giveUp

theorem outsideFrames_decideValidation {config : Config} {builtIn : Bool} :
    IsOutsideFrames uploads (decideValidation config builtIn) := by
  refine .ite .pure ?_
  refine .get_bind fun _ ↦ ?_
  refine .bind (.driving fun _ ↦ Driver.adds_enumerate) fun _ ↦ ?_
  exact .ite .pure (.bind .note fun _ ↦ .pure)

theorem outsideFrames_connect {config : Config} {extensions : List String} {validate : Bool} :
    IsOutsideFrames uploads (connect config extensions validate) :=
  .setUp fun _ ↦ Driver.adds_create rfl fun _ ↦ trivial

theorem outsideFrames_listen {config : Config} : IsOutsideFrames uploads (listen config) :=
  .bind (.update fun _ ↦ rfl) fun _ ↦ .setUp fun _ ↦ Driver.adds_createMessenger

theorem outsideFrames_createSurface {w : Window} {display : WindowSystem} :
    IsOutsideFrames uploads (createSurface w display) := by
  rw [createSurface]
  split
  · exact .giveUp
  · split
    · exact .giveUp
    · exact .setUp fun _ ↦ Driver.adds_create rfl fun _ ↦ trivial

theorem outsideFrames_pickGpu : IsOutsideFrames uploads pickGpu := by
  refine .get_bind fun _ ↦ .bind (.setUp fun _ ↦ Driver.adds_enumerate) fun _ ↦ ?_
  split
  · exact .pure
  · exact .giveUp

theorem outsideFrames_openGpu {c : Choice} : IsOutsideFrames uploads (openGpu c) := by
  refine .bind (.setUp fun _ ↦ Driver.adds_create rfl fun _ ↦ trivial) fun _ ↦ ?_
  refine .bind (.driving fun _ ↦ Driver.adds_fresh) fun _ ↦ ?_
  refine .bind (.setUp fun _ ↦ Driver.adds_create rfl fun _ ↦ trivial) fun _ ↦ ?_
  refine .bind (.setUp fun _ ↦ Driver.adds_create rfl fun _ ↦ trivial) fun _ ↦ ?_
  exact .get_bind fun _ ↦ .pure

theorem outsideFrames_createScreen {ctx : Context} {surface : Object .surface} {size : Extent}
    {vsync : Bool} {frames : ℕ} :
    IsOutsideFrames uploads (createScreen ctx surface size vsync frames) := by
  refine .bind Swapchain.outsideFrames_create fun screen ↦ ?_
  refine .bind (.undoing (screen.silent_drop ctx)
    (.setUp fun _ ↦ Driver.adds_create rfl fun _ ↦ trivial) screen.outsideFrames_drop) fun _ ↦ ?_
  exact .pure

theorem outsideFrames_announce {c : Choice} {found : Capabilities} :
    IsOutsideFrames uploads (announce c found) :=
  .bind .note fun _ ↦ .ite .note .pure

/-- A device is set up without a frame and outside frames, provided that those have a pool of their
own. -/
theorem meets_create_since {w : Window} {size : Extent} {config : Config} {builtIn : Bool}
    {d₀ : Driver} :
    Meets (Since uploads d₀) (create w size config builtIn)
      (fun d h ↦ (d.frame = none ∧ d.active = none) ∧ (d.framePool ≠ uploads → Since uploads d₀ h))
      fun _ _ ↦ True := by
  refine .get_bind fun _ ↦ ?_
  refine .ite (fun _ ↦ meets_giveUp_bind fun _ _ _ ↦ trivial) fun _ ↦ ?_
  refine .ite (fun _ ↦ .fail_bind fun _ _ ↦ trivial) fun _ ↦ ?_
  refine .bind (outsideFrames_displayOf d₀).lax fun display ↦ ?_
  refine .bind (outsideFrames_extensionsOf d₀).lax fun extensions ↦ ?_
  refine .bind (outsideFrames_decideValidation d₀).lax fun validate ↦ ?_
  refine .bind (outsideFrames_connect d₀).lax fun connection ↦ ?_
  refine .ite_bind (Q := fun _ ↦ Since uploads d₀) ?_ fun messenger ↦ ?_
  · exact .ite (fun _ ↦ .map (outsideFrames_listen d₀).lax) fun _ ↦ .pure fun _ hh ↦ hh
  refine .bind (outsideFrames_createSurface d₀).lax fun surface ↦ ?_
  refine .bind (outsideFrames_pickGpu d₀).lax fun choice ↦ ?_
  refine .bind (outsideFrames_openGpu d₀).lax fun ⟨context, framePool⟩ ↦ ?_
  by_cases hpool : framePool = uploads
  · -- Such a device is not looked at.
    refine .bind .any fun _ ↦ ?_
    refine .bind .any fun _ ↦ ?_
    refine .bind .any fun _ ↦ ?_
    exact .bind .any fun _ ↦ .pure fun _ _ ↦ ⟨⟨rfl, rfl⟩, fun hne ↦ (hne hpool).elim⟩
  · refine .bind (Q := fun _ ↦ Since uploads d₀) (.update fun _ hh ↦ hh) fun _ ↦ ?_
    refine .bind (FrameSlot.outsideFrames_createMany hpool d₀).lax fun slots ↦ ?_
    refine .bind (IsOutsideFrames.undoing (.each fun f _ ↦ f.silent_drop) outsideFrames_createScreen
      (.each FrameSlot.outsideFrames_drop _) d₀).lax fun ⟨screen, sampler⟩ ↦ ?_
    exact .bind (outsideFrames_announce d₀).lax fun _ ↦ .pure fun _ hh ↦ ⟨⟨rfl, rfl⟩, fun _ ↦ hh⟩

/-- The slots of a new device rest, and nothing was drawn. -/
theorem stands_of_create {w : Window} {size : Extent} {config : Config} {builtIn : Bool}
    {h : Host} (hfresh : h.IsFresh) (hc : create w size config builtIn h = .ok d k) :
    (d.frame = none ∧ d.active = none) ∧ Apart d.slots ∧
      ∀ f, Stands d.context.uploadPool d.slots [] f .rest k := by
  have hs : Sound True False (d, k) := Meets.ok meets_create ⟨hfresh, False.elim⟩ hc
  obtain ⟨hidle, hsince⟩ := Meets.ok meets_create_since (.refl h.driver) hc
  obtain ⟨l, hcalls, hl⟩ := (hsince (framePool_ne hs)).calls
  rw [hfresh.calls, List.append_nil] at hcalls
  refine ⟨hidle, apart_of_sound hs, fun f ↦ ⟨fun g hg ↦ ?_, fun g hg ↦ ?_, fun b c hr ↦ ?_, l, ?_,
    fun b c hr ↦ ?_⟩⟩
  · exact Books.numbered hs.2 _ (alive_buffer hs hg).named
  · have hrest : Progress.after d.context.uploadPool g (l ++ []) = some ⟨false, .rest⟩ :=
      hl.after (hcalls ▸ not_mem_uploads hs hg) rfl
    rw [ite_self, hcalls, ← hrest, List.append_nil]
  · exact .inr (hl.of_record (hcalls ▸ hr)).2
  · rw [hcalls, List.append_nil]
  · exact (hl.of_record hr).2.not_isDraw

end Device

end RenderTargets.Vulkan
