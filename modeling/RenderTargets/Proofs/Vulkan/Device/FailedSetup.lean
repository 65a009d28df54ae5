import RenderTargets.Proofs.Vulkan.Kinds
import RenderTargets.Proofs.Vulkan.Runs
/-!
# What a set-up that fails leaves behind

A device that cannot be set up is an error, and by then some objects were made. Of frame slots and
the screen each part is given up like a whole one (`FrameSlot.meets_createMany_left`,
`Swapchain.meets_create_left`), so that all they had is gone. What is passed around as a bare handle
is not: the connection, the messenger, the GPU in use, the command pools with the command buffers of
the slots, and the surface up to the time when there is a screen to own it.

`Abandoned` says this of a trace. The set-up falls into a part before the screen and the screen
itself, told apart in the trace by the pass into the screen, which is the first one made.
-/

namespace RenderTargets.Vulkan

open StepWith Run

variable {b : Backdrop} {e r s : Estate} {kinds kinds' : List ObjectKind} {h : Host}

/-! ### Held with objects of some kinds -/

/-- Every object of the estate is of one of the kinds. -/
def Estate.OfKinds (kinds : List ObjectKind) (e : Estate) : Prop :=
  ∀ x ∈ e.1, x.object.kind ∈ kinds

namespace Estate.OfKinds

theorem zero : OfKinds kinds 0 := fun _ hx ↦ (Estate.mem_zero.1 hx).elim

theorem add (he : OfKinds kinds e) (hr : OfKinds kinds r) : OfKinds kinds (e + r) :=
  fun x hx ↦ (Estate.mem_add.1 hx).elim (he x) (hr x)

theorem one {y : Holding} (hy : y.object.kind ∈ kinds) : OfKinds kinds (.one y) :=
  fun _ hx ↦ Estate.mem_one.1 hx ▸ hy

theorem sole {kind : ObjectKind} {o : Object kind} (hk : kind ∈ kinds) : OfKinds kinds o.sole :=
  one hk

theorem sum {α : Type} {g : α → Estate} {l : List α} (hg : ∀ a, OfKinds kinds (g a)) :
    OfKinds kinds (l.map g).sum := by
  induction l with
  | nil => exact zero
  | cons a l ih => exact add (hg a) ih

theorem mono (he : OfKinds kinds e) (hk : kinds ⊆ kinds') : OfKinds kinds' e :=
  fun x hx ↦ hk (he x hx)

theorem share : OfKinds kinds .share := fun _ hx ↦ (Estate.mem_share.1 hx).elim

theorem soles {kind : ObjectKind} {l : List (Object kind)} (hk : kind ∈ kinds) :
    OfKinds kinds (Swapchain.soles l) :=
  fun _ hx ↦ (Swapchain.mem_soles hx).2 ▸ hk

end Estate.OfKinds

/-- The host is held for an estate beside objects of some kinds. -/
def HeldWith (kinds : List ObjectKind) (r : Estate) (h : Host) : Prop :=
  ∃ b e, Held b (e + r) h ∧ e.OfKinds kinds

theorem Held.heldWith (hh : Held b r h) : HeldWith kinds r h :=
  ⟨b, 0, hh.of_eq (zero_add r).symm, .zero⟩

namespace HeldWith

/-- An estate of the kinds is no longer told apart. -/
theorem absorb (hh : HeldWith kinds (r + s) h) (hr : r.OfKinds kinds) : HeldWith kinds s h := by
  obtain ⟨b, e, hh, he⟩ := hh
  exact ⟨b, e + r, hh.of_eq (add_assoc _ _ _).symm, he.add hr⟩

theorem absorb_all (hh : HeldWith kinds r h) (hr : r.OfKinds kinds) : HeldWith kinds 0 h :=
  absorb (r := r) (s := 0) ((add_zero r).symm ▸ hh) hr

theorem widen (hh : HeldWith kinds r h) (hk : kinds ⊆ kinds') : HeldWith kinds' r h := by
  obtain ⟨b, e, hh, he⟩ := hh
  exact ⟨b, e, hh, fun x hx ↦ hk (he x hx)⟩

end HeldWith

/-- What gives an estate up does so beside other objects as well. -/
theorem Run.meets_heldWith {α : Type} {x : Run α} {E : EngineError → Host → Prop}
    (hx : ∀ b e, Meets (Held b (r + (e + s))) x (fun _ ↦ Held b (e + s)) E) :
    Meets (HeldWith kinds (r + s)) x (fun _ ↦ HeldWith kinds s) E := by
  rintro h ⟨b, e, hh, he⟩
  exact (hx b e h (hh.of_eq (add_left_comm e r s))).mono (fun _ _ hh ↦ ⟨b, e, hh, he⟩)
    fun _ _ hE ↦ hE

/-! ### Building that fails -/

/-- What is built up, and given up silently after an error. -/
theorem Run.Silent.construct {τ : Type} {t : τ} {P : Host → Prop} {build : RunOn τ Unit}
    {drop : τ → Run Unit} {Q : τ → Host → Prop} {F : EngineError → τ × Host → Prop}
    {E : EngineError → Host → Prop} (hs : ∀ t, Silent (drop t))
    (hb : Meets (RunOn.At t P) build (fun _ s ↦ Q s.1 s.2) F)
    (hd : ∀ e t, Meets (fun h ↦ F e (t, h)) (drop t) (fun _ ↦ E e) E) :
    Meets P (RunOn.construct t build drop) Q E := by
  intro h hh
  have hbuild := hb (t, h) ⟨rfl, hh⟩
  rw [RunOn.construct]
  rcases hbs : build (t, h) with ⟨a, u, v⟩ | ⟨f, u, v⟩ <;> rw [hbs] at hbuild
  · exact hbuild
  · obtain ⟨a, w, hw, -⟩ := hs u v
    simp only [hw]
    cases f with
    | error f => exact (hd f u).ok hbuild hw
    | trap => trivial

/-! ### Frame slots -/

namespace FrameSlot

variable {offered : SurfaceOffer → Prop} {frames : Object .commandPool}
  {fences : List (Object .fence)} {slots : List FrameSlot}

/-- What there is of a slot while it is built, beside its command buffer. -/
def builtEstate (f : FrameSlot) : Estate := f.pool.estate + (f.fence.estate + .share)

theorem meets_dropBuilt {E : EngineError → Host → Prop} (f : FrameSlot) :
    Meets (Held b (f.builtEstate + r)) f.drop (fun _ ↦ Held b r) E := by
  simp only [builtEstate, add_assoc]
  refine .bind (meets_destroyEstate trivial) fun _ ↦ ?_
  exact .bind (meets_destroyEstate trivial) fun _ ↦ meets_unshare

theorem ofKinds_estate (f : FrameSlot) : (f.estate frames).OfKinds (.commandBuffer :: slotKinds) :=
  .add (.add (.add (.sole (by decide)) (.sole (by decide))) .share) (.one List.mem_cons_self)

/-- Of a slot that cannot be made at most the command buffer is left. -/
theorem meets_create_left (hp : ⟨frames.any, none⟩ ∈ r.1) :
    Meets (Held (fenced offered frames fences) r) (create frames)
      (fun f ↦ Held (fenced offered frames (fences ++ [f.fence])) (f.estate frames + r))
      fun _ ↦ HeldWith [.commandBuffer] r := by
  have hcover : r.Covers frames.any := Estate.covers_of_mem hp
  have hm : Makes .commandBuffer (.allocateCommandBuffer · frames) (some frames.any) r := by
    refine ⟨fun _ ↦ rfl, fun _ ↦ trivial, fun _ ↦ by simpa [Call.uses] using hcover, ?_⟩
    rintro _ ⟨⟩
    exact ⟨_, hp, rfl⟩
  refine .bind ((meets_setUpMake hm (by decide)).mono (fun _ hh ↦ hh) (fun _ _ hh ↦ hh) fun _ _ hh ↦
    hh.heldWith) fun commands ↦ ?_
  refine .bind meets_share fun _ ↦ ?_
  let buffer : Estate := .one ⟨commands.any, some frames.any⟩
  refine Silent.construct (F := fun _ s ↦ ∃ b, Held b (s.1.builtEstate + (buffer + r)) s.2)
    silent_drop ?_ fun _ f ↦ ?_
  · refine RunOn.meets_lift_bind meets_createFence (fun _ _ hh ↦ ⟨_, hh.of_eq ?_⟩) fun fence ↦ ?_
    · simp only [builtEstate, buffer, Object.estate_null, zero_add]
    refine RunOn.meets_change_bind ?_
    have hpool : Makes .descriptorPool (.createDescriptorPool · setLimit imageLimit) none
        (fence.sole + (.share + (buffer + r))) :=
      .of_nil (fun _ ↦ rfl) (fun _ ↦ trivial) fun _ ↦ rfl
    refine RunOn.meets_lift_bind (meets_setUpMake hpool (by decide))
      (fun _ _ hh ↦ ⟨_, hh.of_sole.of_eq ?_⟩) fun pool ↦ RunOn.meets_change.post ?_
    · simp only [builtEstate, buffer, Object.estate_null, zero_add, add_assoc]
    · rintro _ ⟨f, h⟩ ⟨rfl, hh⟩
      refine hh.of_eq ?_
      simp only [estate, ownEstate, FrameSlot.buffer, Object.sole]
      abel
  · -- What was built of the slot goes, and the buffer stays with its pool.
    rintro h ⟨b, hh⟩
    exact (f.meets_dropBuilt h hh).mono
      (fun _ _ hh ↦ ⟨b, buffer, hh, .one (List.mem_singleton_self _)⟩) fun _ _ hE ↦ hE

/-- Slots that are given up leave their command buffers. -/
theorem meets_dropAll_left (frames : Object .commandPool) (slots : List FrameSlot)
    {E : EngineError → Host → Prop} :
    Meets (HeldWith [.commandBuffer] ((slots.map (FrameSlot.estate frames)).sum + r))
      (Run.each drop slots) (fun _ ↦ HeldWith [.commandBuffer] r) E := by
  let buffers : Estate := (slots.map fun f ↦ .one (f.buffer frames)).sum
  have hsplit : (slots.map (FrameSlot.estate frames)).sum =
      (slots.map ownEstate).sum + buffers := List.sum_map_add
  have hbuffers : buffers.OfKinds [.commandBuffer] := .sum fun _ ↦ .one (List.mem_singleton_self _)
  rw [hsplit, add_assoc]
  refine (Run.meets_heldWith fun b e ↦ ?_).post fun _ _ hh ↦ hh.absorb hbuffers
  exact meets_each (fun f _ ↦ f.meets_drop) slots

theorem meets_createMany_left (offered : SurfaceOffer → Prop) (slots : List FrameSlot) {n : ℕ}
    (hp : ⟨frames.any, none⟩ ∈ r.1) :
    Meets (Held (fenced offered frames (slots.map (·.fence)))
        ((slots.map (FrameSlot.estate frames)).sum + r))
      (createMany frames slots n)
      (fun l ↦ Held (fenced offered frames (l.map (·.fence)))
        ((l.map (FrameSlot.estate frames)).sum + r))
      fun _ ↦ HeldWith [.commandBuffer] r := by
  induction n generalizing slots with
  | zero => exact .pure fun _ hh ↦ hh
  | succ n ih =>
    refine .bind (Silent.undoing (.each fun f _ ↦ f.silent_drop)
      (meets_create_left (Estate.mem_add.2 (.inr hp))) fun _ ↦ meets_dropAll_left _ _) fun f ↦ ?_
    refine (ih _).pre fun h hh ↦ ?_
    rw [List.map_append, List.map_append, List.sum_append, List.map_singleton, List.map_singleton,
      List.sum_singleton]
    exact hh.of_eq (by abel)

end FrameSlot

/-! ### The screen -/

/-- The shape of a pass was made. -/
def PassMade (calls : List Call) : Prop := ∃ pass info, .createRenderPass pass info ∈ calls

theorem PassMade.of_only {p : Call → Bool} {d d' : Driver} (hp : PassMade d.calls)
    (h : d.Only p d') : PassMade d'.calls := by
  obtain ⟨pass, info, hmem⟩ := hp
  obtain ⟨l, hl, -⟩ := h.calls
  exact ⟨pass, info, hl ▸ List.mem_append_right l hmem⟩

/-- A pass that was made stays made. -/
theorem Run.Respects.keeps_passMade {α : Type} {x : Run α} {p : Call → Bool}
    (hx : Respects (Driver.Only p) x) : Keeps (fun h ↦ PassMade h.driver.calls) x :=
  fun h hh ↦ (hx h.driver h (.refl _)).mono (fun _ _ ho ↦ hh.of_only ho) fun _ _ ho ↦ hh.of_only ho

namespace Swapchain

variable {ctx : Context}

/-- A screen of which only a part could be made is given up like a whole one. -/
theorem meets_construct_left {s : Swapchain} {size : Extent} {frames : ℕ} (hs : s.IsBare)
    (hd : r.Covers ctx.device.any) (hr : ∀ x ∈ r.1, x.object.kind ≠ .swapchain) :
    Meets (Held b (s.estate + r))
      (RunOn.construct s
        (do
          addImageAvailable frames
          build ctx size)
        (drop ctx))
      (fun s ↦ Held b (s.estate + r)) fun _ ↦ Held b r := by
  refine Silent.construct (F := fun _ q ↦ Held b (q.1.estate + r) q.2) (fun s ↦ s.silent_drop ctx)
    ?_ fun _ s ↦ s.meets_drop hd hr
  refine .bind ((meets_addImageAvailable frames).mono (fun _ hp ↦ hp) (fun _ _ hp ↦ hp)
    fun _ _ hp ↦ hp.2) fun _ ↦ ?_
  rintro ⟨t, h⟩ ⟨more, rfl, hh⟩
  let add (s : Swapchain) : Swapchain := { s with imageAvailable := s.imageAvailable ++ more }
  have hbare : (add s).IsBare := congrArg add hs
  exact ((meets_build hbare).mono (fun _ hp ↦ hp) (fun _ _ hp ↦ hp.2) fun _ _ hp ↦ hp.2) _
    ⟨rfl, hh⟩

/-- The surface is given up with the screen, which is there from when its pass is. -/
theorem meets_create_left {surface : Object .surface} {size : Extent} {vsync : Bool} {frames : ℕ}
    (hd : r.Covers ctx.device.any) (hr : ∀ x ∈ r.1, x.object.kind ≠ .swapchain) {p : Call → Bool}
    (hp : ∀ wanted code, p (.failed .createRenderPass wanted code) = true) :
    Meets (fun h ↦ Held b (surface.sole + r) h ∧ ∀ c ∈ h.driver.calls, p c = true)
      (create ctx surface size vsync frames)
      (fun s h ↦ Held b (s.estate + r) h ∧ PassMade h.driver.calls)
      fun _ h ↦ Held b (surface.sole + r) h ∧ (∀ c ∈ h.driver.calls, p c = true) ∨
        Held b r h ∧ PassMade h.driver.calls := by
  let early (h : Host) : Prop := Held b (surface.sole + r) h ∧ ∀ c ∈ h.driver.calls, p c = true
  have hpick : Keeps early pickFormat := Meets.and keeps_pickFormat only_pickFormat.keeps_all
  refine .bind (hpick.mono (fun _ hh ↦ hh) (fun _ _ hh ↦ hh) fun _ _ hh ↦ .inl hh) fun format ↦ ?_
  have hpass : Meets early (createRenderPass (passLayout ctx format.1.format))
      (fun o h ↦ Held b (o.sole + (surface.sole + r)) h ∧ PassMade h.driver.calls)
      fun _ ↦ early := by
    have hc : Makes .renderPass
        (.createRenderPass · (passLayout ctx format.1.format).attachmentSet) none
        (surface.sole + r) := .of_nil (fun _ ↦ rfl) (fun _ ↦ trivial) fun _ ↦ rfl
    refine meets_work (fun h o d hh hd ↦ ⟨hh.1.create hc (by decide) hd, ?_⟩)
      (fun h code d hh hd ↦ ⟨hh.1.of_create_error hd, ?_⟩) fun _ _ hh ↦ hh
    · rw [(Driver.create_ok hd).2]
      exact ⟨o, _, List.mem_cons_self⟩
    · rw [Driver.create_error hd]
      exact List.forall_mem_cons.2 ⟨hp _ code, hh.2⟩
  refine .bind (hpass.mono (fun _ hh ↦ hh) (fun _ _ hh ↦ hh) fun _ _ hh ↦ .inl hh) fun pass ↦ ?_
  -- From here on the screen owns the surface.
  let s₀ : Swapchain :=
    { surface, renderPass := pass, surfaceFormat := format.1, colorFormat := format.2
      extent := size, vsync }
  have hshare : Meets (Held b (pass.sole + (surface.sole + r))) share
      (fun _ ↦ Held b (s₀.estate + r)) fun _ ↦ Held b r := by
    refine meets_share.post fun _ h hh ↦ hh.of_eq ?_
    simp only [estate, imageEstate, baseEstate, soles, s₀, Image.estateOption, Option.elim_none,
      List.map_nil, List.sum_nil, zero_add, Object.estate_null]
    abel
  have hkeep : Respects (Driver.Only Call.ofScreen) (share >>= fun _ ↦ RunOn.construct s₀
      (do
        addImageAvailable frames
        build ctx size)
      (drop ctx)) := .bind .share fun _ ↦ only_construct
  exact (Meets.and (.bind hshare fun _ ↦ meets_construct_left rfl hd hr) hkeep.keeps_passMade).mono
    (fun _ hh ↦ hh) (fun _ _ hh ↦ hh) fun _ _ hh ↦ .inr hh

end Swapchain

namespace Device

/-! ### The whole -/

/-- The kinds of object that a set-up that fails leaves behind whenever it does. -/
def leftKinds : List ObjectKind := [.connection, .messenger, .device, .commandPool, .commandBuffer]

/-- The calls before there is a screen. -/
def beforeScreen : Call → Bool := Call.touches (.surface :: slotKinds ++ leftKinds) slotKinds

/-- All calls of a set-up. -/
def ofSetup : Call → Bool :=
  Call.touches (.sampler :: slotKinds ++ leftKinds ++ screenKinds) (slotKinds ++ screenKinds)

/-- What is true of the host of a set-up that failed: either there was no screen yet, and the
surface is left besides, or there was one. -/
def LeftBehind (h : Host) : Prop :=
  HeldWith (.surface :: leftKinds) 0 h ∧ (∀ c ∈ h.driver.calls, beforeScreen c = true) ∨
    HeldWith leftKinds 0 h ∧ PassMade h.driver.calls ∧ ∀ c ∈ h.driver.calls, ofSetup c = true

/-- A step before the pool of the frames is known. -/
theorem meets_begun_left {α : Type} {offered : SurfaceOffer → Prop} {x : Run α} {g : α → Estate}
    (hx : ∀ b, Meets (Held b e) x (fun a ↦ Held b (g a)) fun _ ↦ Held b e)
    (ho : Respects (Driver.Only beforeScreen) x)
    (he : e.OfKinds (.surface :: leftKinds)) :
    Meets (fun h ↦ Begun offered e h ∧ ∀ c ∈ h.driver.calls, beforeScreen c = true) x
      (fun a h ↦ Begun offered (g a) h ∧ ∀ c ∈ h.driver.calls, beforeScreen c = true)
      fun _ ↦ LeftBehind :=
  (Meets.and (Meets.forall fun _ ↦ hx _) ho.keeps_all).mono (fun _ hh ↦ hh) (fun _ _ hh ↦ hh)
    fun _ _ hh ↦ .inl ⟨(hh.1 .null).heldWith.absorb_all he, hh.2⟩

section BeforeGpu

variable {p : Call → Bool}

theorem only_displayOf {w : Window} : Respects (Driver.Only p) (displayOf w) := by
  rw [displayOf]
  split
  · exact .pure
  · exact .giveUp

theorem only_extensionsOf {display : WindowSystem} :
    Respects (Driver.Only p) (extensionsOf display) := by
  rw [extensionsOf]
  split
  · exact .pure
  · exact .giveUp

theorem only_decideValidation {config : Config} {builtIn : Bool} :
    Respects (Driver.Only p) (decideValidation config builtIn) := by
  refine .ite .pure ?_
  refine .get_bind fun _ ↦ ?_
  refine .bind (.driving fun _ ↦ .of_continues Driver.continues_enumerate) fun _ ↦ ?_
  exact .ite .pure <| .bind .note fun _ ↦ .pure

theorem only_listen {config : Config} : Respects (Driver.Only beforeScreen) (listen config) :=
  .bind (.update fun _ ↦ rfl) fun _ ↦ .setUp fun _ ↦ .createMessenger (fun _ ↦ rfl) fun _ ↦ rfl

theorem only_createSurface {w : Window} {display : WindowSystem} :
    Respects (Driver.Only beforeScreen) (createSurface w display) := by
  rw [createSurface]
  split
  · exact .giveUp
  · split
    · exact .giveUp
    · exact .setUpMake (fun _ ↦ rfl) fun _ ↦ rfl

theorem only_pickGpu : Respects (Driver.Only p) pickGpu := by
  refine .get_bind fun _ ↦ .bind .askAll fun _ ↦ ?_
  split
  · exact .pure
  · exact .giveUp

end BeforeGpu

theorem meets_openGpu_left {offered : SurfaceOffer → Prop} {c : Choice}
    (hr : r.OfKinds (.surface :: leftKinds)) :
    Meets (fun h ↦ Begun offered r h ∧ ∀ c ∈ h.driver.calls, beforeScreen c = true) (openGpu c)
      (fun p h ↦ Begun offered (p.2.sole + (p.1.uploadPool.sole + (p.1.device.sole + r))) h ∧
        ∀ c ∈ h.driver.calls, beforeScreen c = true)
      fun _ ↦ LeftBehind := by
  have hpool : ∀ {r flags}, Makes .commandPool (.createCommandPool · c.family flags)
      none r :=
    .of_nil (fun _ ↦ rfl) (fun _ ↦ trivial) fun _ ↦ rfl
  refine .bind (meets_begun_left (fun _ ↦ meets_setUpMake
    (.of_nil (fun _ ↦ rfl) (fun _ ↦ trivial) fun _ ↦ rfl) (by decide))
    (.setUpMake (fun _ ↦ rfl) fun _ ↦ rfl) hr) fun device ↦ ?_
  have hdevice : (device.sole + r).OfKinds (.surface :: leftKinds) := .add (.sole (by decide)) hr
  refine .bind (meets_begun_left (g := fun _ ↦ device.sole + r) (fun _ ↦ meets_driving fun _ hh ↦
    hh.congr Driver.continues_fresh) (.driving fun _ ↦ .of_continues Driver.continues_fresh)
    hdevice) fun queue ↦ ?_
  refine .bind (meets_begun_left (fun _ ↦ meets_setUpMake hpool (by decide))
    (.setUpMake (fun _ ↦ rfl) fun _ ↦ rfl) hdevice) fun uploadPool ↦ ?_
  refine .bind (meets_begun_left (fun _ ↦ meets_setUpMake hpool (by decide))
    (.setUpMake (fun _ ↦ rfl) fun _ ↦ rfl) (.add (.sole (by decide)) hdevice)) fun framePool ↦ ?_
  exact .get_bind fun _ ↦ .pure fun _ hh ↦ hh

/-- Before there is a screen the surface is left, and after that it is given up with it. -/
theorem meets_createScreen_left {ctx : Context} {surface : Object .surface} {size : Extent}
    {vsync : Bool} {frames : ℕ} (hd : r.Covers ctx.device.any)
    (hr : ∀ x ∈ r.1, x.object.kind ≠ .swapchain) :
    Meets (fun h ↦ Held b (surface.sole + r) h ∧ ∀ c ∈ h.driver.calls, beforeScreen c = true)
      (createScreen ctx surface size vsync frames) (fun _ _ ↦ True)
      fun _ h ↦ Held b (surface.sole + r) h ∧ (∀ c ∈ h.driver.calls, beforeScreen c = true) ∨
        Held b r h ∧ PassMade h.driver.calls := by
  refine .bind (Swapchain.meets_create_left hd hr fun _ _ ↦ rfl) fun screen ↦ ?_
  refine .bind (Q := fun _ _ ↦ True) ?_ fun _ ↦ .pure fun _ hh ↦ hh
  have hsampler : Makes .sampler (.createSampler ·) none (screen.estate + r) :=
    .of_nil (fun _ ↦ rfl) (fun _ ↦ trivial) fun _ ↦ rfl
  have hmake : Respects (Driver.Only ofSetup)
      (setUp "create sampler" "create sampler" (Driver.create .createSampler .createSampler)) :=
    .setUpMake (fun _ ↦ rfl) fun _ ↦ rfl
  have hmade := Meets.and (meets_setUpMake (b := b) hsampler (by decide)) hmake.keeps_passMade
  refine ((screen.silent_drop ctx).undoing hmade
    (E := fun _ h ↦ Held b r h ∧ PassMade h.driver.calls) fun _ ↦ ?_).mono (fun _ hh ↦ hh)
    (fun _ _ _ ↦ trivial) fun _ _ hh ↦ .inr hh
  exact Meets.and (screen.meets_drop hd hr) screen.only_drop.keeps_passMade

theorem only_createScreen {ctx : Context} {surface : Object .surface} {size : Extent}
    {vsync : Bool} {frames : ℕ} :
    Respects (Driver.Only ofSetup) (createScreen ctx surface size vsync frames) := by
  have hscreen : ∀ {α} {x : Run α}, Respects (Driver.Only Call.ofScreen) x →
      Respects (Driver.Only ofSetup) x := fun hx ↦ hx.widen (by decide) (by decide)
  refine .bind (hscreen Swapchain.only_create) fun screen ↦ ?_
  refine .bind (.undoing (screen.silent_drop ctx) (.setUpMake (fun _ ↦ rfl) fun _ ↦ rfl)
    (hscreen screen.only_drop)) fun _ ↦ ?_
  exact .pure

theorem ofSetup_of_beforeScreen {c : Call} (h : beforeScreen c = true) : ofSetup c = true :=
  Call.touches_mono (by decide) (by decide) h

/-- The slots are given up after a screen that failed. -/
theorem meets_dropSlots_left {frames : Object .commandPool} {slots : List FrameSlot}
    {surface : Object .surface} (hr : r.OfKinds leftKinds) :
    Meets (fun h ↦
        (Held b (surface.sole + ((slots.map (FrameSlot.estate frames)).sum + r)) h ∧
            (∀ c ∈ h.driver.calls, beforeScreen c = true) ∨
          Held b ((slots.map (FrameSlot.estate frames)).sum + r) h ∧ PassMade h.driver.calls) ∧
          ∀ c ∈ h.driver.calls, ofSetup c = true)
      (Run.each FrameSlot.drop slots) (fun _ ↦ LeftBehind) fun _ ↦ LeftBehind := by
  have hdrop : Respects (Driver.Only Call.ofSlots) (Run.each FrameSlot.drop slots) :=
    .each FrameSlot.only_drop slots
  have hbefore : Respects (Driver.Only beforeScreen) (Run.each FrameSlot.drop slots) :=
    hdrop.widen (by decide) (by decide)
  have hsetup : Respects (Driver.Only ofSetup) (Run.each FrameSlot.drop slots) :=
    hdrop.widen (by decide) (by decide)
  have hbuffers : [ObjectKind.commandBuffer] ⊆ leftKinds := by decide
  have hearly := Meets.and (FrameSlot.meets_dropAll_left frames slots (r := surface.sole + r)
    (E := fun _ _ ↦ True)) hbefore.keeps_all
  have hlate := Meets.and (FrameSlot.meets_dropAll_left frames slots (r := r)
    (E := fun _ _ ↦ True)) (Meets.and hsetup.keeps_passMade hsetup.keeps_all)
  refine Silent.meets (E := fun _ _ ↦ True) (.each fun f _ ↦ f.silent_drop) ?_
  -- Without the pass into the screen the surface is still there, and is left behind as well.
  rintro h ⟨hh | hh, hall⟩
  · refine (hearly h ⟨(hh.1.of_eq (add_left_comm _ _ _)).heldWith, hh.2⟩).mono
      (fun _ _ hk ↦ .inl ⟨?_, hk.2⟩) fun _ _ _ ↦ trivial
    exact (hk.1.widen (List.Subset.trans hbuffers (List.subset_cons_self _ _))).absorb_all
      (.add (.sole (by decide)) (hr.mono (List.subset_cons_self _ _)))
  · refine (hlate h ⟨hh.1.heldWith, hh.2, hall⟩).mono
      (fun _ _ hk ↦ .inr ⟨?_, hk.2⟩) fun _ _ _ ↦ trivial
    exact (hk.1.widen hbuffers).absorb_all hr

/-- A set-up that fails leaves what `LeftBehind` says. -/
theorem meets_create_left {w : Window} {size : Extent} {config : Config} {builtIn : Bool} :
    Meets Host.IsFresh (create w size config builtIn) (fun _ _ ↦ True) fun _ ↦ LeftBehind := by
  let offered : SurfaceOffer → Prop := fun _ ↦ True
  let early (e : Estate) (h : Host) : Prop :=
    Begun offered e h ∧ ∀ c ∈ h.driver.calls, beforeScreen c = true
  refine Meets.pre (P := early 0) ?_ fun h hh ↦ ⟨fun frames ↦ Held.of_isFresh hh ⟨trivial,
    List.forall_mem_nil _, trivial⟩, hh.calls ▸ List.forall_mem_nil _⟩
  have hleft {h : Host} (hh : early 0 h) : LeftBehind h :=
    .inl ⟨(hh.1 .null).heldWith.absorb_all .zero, hh.2⟩
  refine .get_bind fun _ ↦ ?_
  refine .ite (fun _ ↦ meets_giveUp_bind fun _ _ hh ↦ hleft hh) fun _ ↦ ?_
  refine .ite (fun _ ↦ .fail_bind fun _ hh ↦ hleft hh) fun _ ↦ ?_
  refine .bind (meets_begun_left (fun _ ↦ keeps_displayOf) only_displayOf .zero) fun display ↦ ?_
  refine .bind (meets_begun_left (fun _ ↦ keeps_extensionsOf) only_extensionsOf .zero)
    fun extensions ↦ ?_
  refine .bind (meets_begun_left (fun _ ↦ keeps_decideValidation) only_decideValidation .zero)
    fun validate ↦ ?_
  refine .bind (meets_begun_left (fun _ ↦ meets_connect)
    (.setUpMake (fun _ ↦ rfl) fun _ ↦ rfl) .zero) fun connection ↦ ?_
  have hconnection : (connection.sole + 0).OfKinds (.surface :: leftKinds) :=
    .add (.sole (by decide)) .zero
  refine .ite_bind (Q := fun messenger ↦
    early (Swapchain.soles messenger.toList + (connection.sole + 0))) ?_ fun messenger ↦ ?_
  · refine .ite (fun _ ↦ .map ?_) fun _ ↦ .pure fun _ hh ↦
      ⟨fun frames ↦ (hh.1 frames).of_eq (zero_add _).symm, hh.2⟩
    refine (meets_begun_left (fun _ ↦ meets_listen) only_listen hconnection).post fun o _ hh ↦
      ⟨fun frames ↦ (hh.1 frames).of_eq ?_, hh.2⟩
    exact congrArg (· + _) (add_zero o.sole).symm
  have hmessenger : (Swapchain.soles messenger.toList + (connection.sole + 0)).OfKinds
      (.surface :: leftKinds) := .add (.soles (by decide)) hconnection
  refine .bind (meets_begun_left (fun _ ↦ meets_createSurface) only_createSurface hmessenger)
    fun surface ↦ ?_
  have hsurface := Estate.OfKinds.add (.sole (o := surface) (by decide)) hmessenger
  refine .bind (meets_begun_left (fun _ ↦ keeps_pickGpu) only_pickGpu hsurface) fun choice ↦ ?_
  refine .bind (meets_openGpu_left hsurface) fun ⟨context, framePool⟩ ↦ ?_
  -- From here on the pool of the frames is known.
  let below : Estate := framePool.sole + (context.uploadPool.sole + (context.device.sole +
    (Swapchain.soles messenger.toList + (connection.sole + 0))))
  have hbelow : below.OfKinds leftKinds :=
    .add (.sole (by decide)) <| .add (.sole (by decide)) <| .add (.sole (by decide)) <|
      .add (.soles (by decide)) <| .add (.sole (by decide)) .zero
  refine Meets.pre (P := fun h ↦ Held (fenced offered framePool []) (surface.sole + below) h ∧
    ∀ c ∈ h.driver.calls, beforeScreen c = true) ?_ fun _ hh ↦
      ⟨(hh.1 framePool).of_eq (by simp only [below]; abel), hh.2⟩
  let others : Estate := .share + below
  have hothers : others.OfKinds leftKinds := .add .share hbelow
  have howner : Respects (Driver.Only beforeScreen)
      (modify fun h : Host ↦ { h with owners := 1 }) := .update fun _ ↦ rfl
  have hnone : (surface.sole + below).2 = 0 := by
    show 0 + (0 + (0 + (0 + ((Swapchain.soles messenger.toList).2 + (0 + 0))))) = 0
    rw [Swapchain.snd_soles]
  refine .bind ((Meets.and (meets_firstShare (E := fun _ _ ↦ False) hnone) howner.keeps_all).mono
    (fun _ hh ↦ hh) (fun _ _ hh ↦ hh) fun _ _ hh ↦ hh.1.elim) fun _ ↦ ?_
  have hmany : Respects (Driver.Only beforeScreen)
      (FrameSlot.createMany framePool [] (max config.framesInFlight 1)) :=
    FrameSlot.only_createMany.widen (by decide) (by decide)
  have hslots := Meets.and (FrameSlot.meets_createMany_left offered [] (r := surface.sole + others)
    (by simp [others, below])) hmany.keeps_all
  refine .bind (hslots.mono (fun h hh ↦ ⟨hh.1.of_eq (by simp only [others]; abel), hh.2⟩)
    (fun _ _ hh ↦ hh) fun _ h hh ↦ .inl ⟨?_, hh.2⟩) fun slots ↦ ?_
  · exact (hh.1.widen (by decide)).absorb_all (.add (.sole (by decide))
      (hothers.mono (List.subset_cons_self _ _)))
  have hr : ∀ x ∈ ((slots.map (FrameSlot.estate framePool)).sum + others).1,
      x.object.kind ≠ .swapchain := by
    have hkinds : ((slots.map (FrameSlot.estate framePool)).sum + others).OfKinds
        (slotKinds ++ leftKinds) :=
      .add (.sum fun f ↦ f.ofKinds_estate.mono (by decide)) (hothers.mono (by decide))
    exact fun x hx ↦ ne_of_mem_of_not_mem (hkinds x hx) (by decide)
  have hsetup : Respects (Driver.Only ofSetup) (createScreen context surface size config.vsync
      (max config.framesInFlight 1)) := only_createScreen
  have hscreen := Meets.and (meets_createScreen_left
    (b := fenced offered framePool (slots.map (·.fence)))
    (r := (slots.map (FrameSlot.estate framePool)).sum + others)
    (by simp [others, below]) hr) hsetup.keeps_all
  refine .bind (Q := fun _ _ ↦ True) ?_ fun _ ↦ ?_
  · exact Silent.undoing (.each fun f _ ↦ f.silent_drop) (hscreen.mono (fun h hh ↦
      ⟨⟨hh.1.of_eq (add_left_comm _ _ _), hh.2⟩, fun c hc ↦ ofSetup_of_beforeScreen (hh.2 c hc)⟩)
      (fun _ _ _ ↦ trivial) fun _ _ hh ↦ hh) fun _ ↦ meets_dropSlots_left hothers
  · refine .bind (Q := fun _ _ ↦ True) ?_ fun _ ↦ .pure fun _ _ ↦ trivial
    refine .bind (Q := fun _ _ ↦ True) (.note fun _ _ _ ↦ trivial) fun _ ↦ ?_
    exact .ite (fun _ ↦ .note fun _ _ _ ↦ trivial) fun _ ↦ .pure fun _ _ ↦ trivial

/-! ### What the trace says -/

/-- How the objects of a trace ended when a set-up failed. -/
structure Abandoned (trace : List Call) : Prop where
  /-- Every call fits what went before it. -/
  fair : ∃ frames, Fair frames trace
  /-- Objects of some kinds are left behind. -/
  left : ∀ c ∈ trace, ∀ x, c.made? = some x → x.object.kind ∈ leftKinds →
    Alive trace x ∧ (trace.filterMap Call.ended?).count x.object = 0
  /-- The surface is left if there was no screen yet, and else ended once. -/
  surface : ∀ c ∈ trace, ∀ x, c.made? = some x → x.object.kind = .surface →
    (¬PassMade trace ∧ Alive trace x ∧ (trace.filterMap Call.ended?).count x.object = 0) ∨
      (PassMade trace ∧ ¬Alive trace x ∧ (trace.filterMap Call.ended?).count x.object = 1)
  /-- Everything else ended once. -/
  ended : ∀ c ∈ trace, ∀ x, c.made? = some x → x.object.kind ∉ leftKinds →
    x.object.kind ≠ .surface →
      ¬Alive trace x ∧ (trace.filterMap Call.ended?).count x.object = 1

/-- What went with its home had a home that a call emptied. -/
theorem exists_emptied_of_went {trace : List Call} {x : Holding} (h : WentWithHome trace x) :
    ∃ c ∈ trace, ∃ pool, x.home = some pool ∧ c.emptied? = some pool := by
  induction trace with
  | nil => exact h.elim
  | cons c past ih =>
    rcases h with h | ⟨-, -, pool, hpool, hc⟩
    · obtain ⟨d, hd, hrest⟩ := ih h
      exact ⟨d, List.mem_cons_of_mem c hd, hrest⟩
    · exact ⟨c, List.mem_cons_self, pool, hpool, hc⟩

section Setup

variable {trace : List Call} {c : Call} {x : Holding}
  (hall : ∀ c ∈ trace, ofSetup c = true)
include hall

/-- A set-up destroys no command pool, so nothing goes with its home. -/
theorem not_went_of_setup (hc : c ∈ trace) (hx : c.made? = some x) : ¬WentWithHome trace x := by
  intro hw
  obtain ⟨d, hd, pool, hhome, hempty⟩ := exists_emptied_of_went hw
  rcases Call.home_of_made? hx hhome with ⟨-, hpool⟩ | ⟨hset, -⟩
  · have hmem := Call.mem_of_ended? (hall d hd) (Call.ended?_of_emptied? hempty hpool)
    rw [hpool] at hmem
    exact absurd hmem (by decide)
  · have hmem := Call.mem_of_made? (hall c hc) hx
    rw [hset] at hmem
    exact absurd hmem (by decide)

/-- Either it is alive, or it ended once. -/
theorem alive_or_ended {frames : AnyObject} (hfair : Fair frames trace) (hc : c ∈ trace)
    (hx : c.made? = some x) :
    Alive trace x ∧ (trace.filterMap Call.ended?).count x.object = 0 ∨
      ¬Alive trace x ∧ (trace.filterMap Call.ended?).count x.object = 1 := by
  rcases hfair.life ⟨c, hc, hx⟩ with ⟨ha, -, hn⟩ | ⟨hd, -, hn⟩ | ⟨-, hw, -⟩
  · exact .inl ⟨ha, hn⟩
  · exact .inr ⟨hd, hn⟩
  · exact (not_went_of_setup hall hc hx hw).elim

end Setup

/-- Where nothing of a kind ends, no object of it does. -/
theorem count_ended_eq_zero {trace : List Call} {made ended : List ObjectKind} {o : AnyObject}
    (hall : ∀ c ∈ trace, c.touches made ended = true) (ho : o.kind ∉ ended) :
    (trace.filterMap Call.ended?).count o = 0 := by
  refine List.count_eq_zero.2 fun hmem ↦ ?_
  obtain ⟨c, hc, he⟩ := List.mem_filterMap.1 hmem
  exact ho (Call.mem_of_ended? (hall c hc) he)

/-- What is alive is of the kinds that the host is held for. -/
theorem kind_of_alive {c : Call} {x : Holding} (hh : HeldWith kinds 0 h)
    (hall : ∀ c ∈ h.driver.calls, ofSetup c = true) (hc : c ∈ h.driver.calls)
    (hx : c.made? = some x) (ha : Alive h.driver.calls x) : x.object.kind ∈ kinds := by
  obtain ⟨b, e, hheld, he⟩ := hh
  have hset : x.object.kind ≠ .descriptorSet :=
    ne_of_mem_of_not_mem (Call.mem_of_made? (hall c hc) hx) (by decide)
  have hmem := (Books.mem_iff hheld x).2 ⟨ha, hset⟩
  exact he x (by simpa using hmem)

theorem not_passMade_of_before {calls : List Call} (h : ∀ c ∈ calls, beforeScreen c = true) :
    ¬PassMade calls := by
  rintro ⟨pass, info, hmem⟩
  cases h _ hmem

/-- **What a set-up that fails leaves behind**: connection, messenger, GPU in use, command pools
with the command buffers of the slots, and the surface if the pass into the screen was not yet made.
Everything else that was made ended once. -/
theorem create_abandoned {w : Window} {size : Extent} {config : Config} {builtIn : Bool}
    {h k : Host} {e : EngineError} (hh : h.IsFresh)
    (hc : create w size config builtIn h = .error (.error e) k) : Abandoned k.driver.calls := by
  have hleft : LeftBehind k := meets_create_left.error hh hc
  have hall : ∀ c ∈ k.driver.calls, ofSetup c = true :=
    hleft.elim (fun hk c hc ↦ ofSetup_of_beforeScreen (hk.2 c hc)) fun hk ↦ hk.2.2
  have hheld : HeldWith (.surface :: leftKinds) 0 k :=
    hleft.elim And.left fun hk ↦ hk.1.widen (List.subset_cons_self _ _)
  obtain ⟨frames, hfair⟩ : ∃ frames, Fair frames k.driver.calls := by
    obtain ⟨b, e, hh, -⟩ := hheld
    exact ⟨_, Books.fair hh⟩
  refine ⟨⟨frames, hfair⟩, fun c hc x hx hk ↦ ?_, fun c hc x hx hk ↦ ?_, fun c hc x hx hk hs ↦ ?_⟩
  · refine (alive_or_ended hall hfair hc hx).resolve_right fun hone ↦ ?_
    have hdisjoint : ∀ kind ∈ leftKinds, kind ∉ slotKinds ++ screenKinds := by decide
    cases hone.2.symm.trans (count_ended_eq_zero hall (hdisjoint _ hk))
  · rcases hleft with ⟨-, hbefore⟩ | ⟨hlate, hpass, -⟩
    · refine .inl ⟨not_passMade_of_before hbefore, ?_⟩
      refine (alive_or_ended hall hfair hc hx).resolve_right fun hone ↦ ?_
      cases hone.2.symm.trans (count_ended_eq_zero hbefore (hk ▸ by decide))
    · refine .inr ⟨hpass, (alive_or_ended hall hfair hc hx).resolve_left fun ha ↦ ?_⟩
      exact absurd (hk ▸ kind_of_alive hlate hall hc hx ha.1) (by decide)
  · refine (alive_or_ended hall hfair hc hx).resolve_left fun ha ↦ ?_
    exact (List.mem_cons.1 (kind_of_alive hheld hall hc hx ha.1)).elim hs hk

/-- A set-up that fails on a host as `check` wants. -/
theorem exists_failed (h : Host) (check : Host → Bool)
    (hc : (match create plainWindow ⟨640, 480⟩ {} false h with
      | .error (.error _) k => check k
      | _ => false) = true) :
    ∃ e k, create plainWindow ⟨640, 480⟩ {} false h = .error (.error e) k ∧ check k = true := by
  split at hc
  · next e k hcreate => exact ⟨e, k, hcreate, hc⟩
  · cases hc

/-- Without a sampler there is no device, although everything else was made. -/
theorem create_abandoned_without_sampler :
    ∃ e k, create plainWindow ⟨640, 480⟩ {} false
        (plainHost plainSurface [⟨.createSampler, 1, ⟨-1⟩⟩]) = .error (.error e) k ∧
      .failed .createSampler (.createSampler .null) ⟨-1⟩ ∈ k.driver.calls ∧
      Abandoned k.driver.calls := by
  obtain ⟨e, k, hcreate, hfailed⟩ := exists_failed
    (plainHost plainSurface [⟨.createSampler, 1, ⟨-1⟩⟩])
    (fun k ↦ k.driver.calls.contains (.failed .createSampler (.createSampler .null) ⟨-1⟩))
    (by decide +kernel)
  exact ⟨e, k, hcreate, List.contains_iff_mem.1 hfailed, create_abandoned ⟨rfl, rfl⟩ hcreate⟩

/-- On a host without a GPU the connection is not given up. -/
theorem create_leaves_connection :
    ∃ e k, create plainWindow ⟨640, 480⟩ {} false { driver := { surface := plainSurface } } =
        .error (.error e) k ∧
      ∃ c ∈ k.driver.calls, ∃ x, c.made? = some x ∧ x.object.kind = .connection ∧
        (k.driver.calls.filterMap Call.ended?).count x.object ≠ 1 := by
  obtain ⟨e, k, hcreate, hleft⟩ := exists_failed { driver := { surface := plainSurface } }
    (fun k ↦ k.driver.calls.any fun c ↦ c.made?.any fun x ↦ x.object.kind = .connection ∧
      (k.driver.calls.filterMap Call.ended?).count x.object ≠ 1) (by decide +kernel)
  obtain ⟨c, hc, hx⟩ := List.any_eq_true.1 hleft
  obtain ⟨x, hx, hcount⟩ := (Option.any_eq_true _ _).1 hx
  exact ⟨e, k, hcreate, c, hc, x, hx, of_decide_eq_true hcount⟩

end Device

end RenderTargets.Vulkan
