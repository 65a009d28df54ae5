import RenderTargets.Proofs.Vulkan.Resources
import RenderTargets.Vulkan.Swapchain
/-!
# The estate of the screen

What the screen has to end, through all that happens to it: built, built anew, and given up, each
possibly only in part. After every step, also one that fails, the host is held for what the screen
then says that it has.

## Ready or bare

A screen is **ready** if it has a swapchain with a view and a framebuffer of each image, and
**bare** if it has nothing that belongs to images. Building leaves it ready, or bare if the window
has no pixels (`meets_build`); a building that fails leaves it marked.
-/

namespace RenderTargets.Vulkan.Swapchain

open StepWith Run

variable {b : Backdrop} {r : Estate} {ctx : Context} {s : Swapchain}

/-! ### Estates -/

/-- The estates of several objects. -/
def soles {kind : ObjectKind} (l : List (Object kind)) : Estate := (l.map Object.sole).sum

/-- What belongs to the images. -/
def imageEstate (s : Swapchain) : Estate :=
  soles s.framebuffers + (soles s.views + Image.estateOption s.depth)

/-- What stays when the swapchain is replaced. -/
def baseEstate (s : Swapchain) : Estate :=
  soles s.imageAvailable +
    (soles s.renderFinished + (s.renderPass.sole + (s.surface.sole + .share)))

/-- All that the screen has to end. -/
def estate (s : Swapchain) : Estate := s.imageEstate + (s.swapchain.estate + s.baseEstate)

theorem covers_soles {kind : ObjectKind} {l : List (Object kind)} {o : Object kind} (h : o ∈ l) :
    (soles l).Covers o.any :=
  .of_sum h o.covers_sole

theorem soles_append {kind : ObjectKind} (l : List (Object kind)) (o : Object kind) :
    soles (l ++ [o]) = o.sole + soles l := by
  simp only [soles, List.map_append, List.sum_append, List.map_cons, List.map_nil, List.sum_cons,
    List.sum_nil, add_zero]
  exact add_comm _ _

theorem mem_soles {kind : ObjectKind} {l : List (Object kind)} {x : Holding}
    (h : x ∈ (soles l).1) : x.home = none ∧ x.object.kind = kind := by
  induction l with
  | nil => exact (Estate.mem_zero.1 h).elim
  | cons o l ih =>
    rcases Estate.mem_add.1 h with h | h
    · obtain rfl := Object.mem_sole.1 h
      exact ⟨rfl, rfl⟩
    · exact ih h

theorem snd_soles {kind : ObjectKind} (l : List (Object kind)) : (soles l).2 = 0 := by
  induction l with
  | nil => rfl
  | cons o l ih => exact (Nat.zero_add _).trans ih

theorem covers_surface (s : Swapchain) : s.estate.Covers s.surface.any := by
  simp [estate, baseEstate]

theorem covers_renderPass (s : Swapchain) : s.estate.Covers s.renderPass.any := by
  simp [estate, baseEstate]

theorem covers_swapchain (s : Swapchain) : s.estate.Covers s.swapchain.any := by simp [estate]

theorem covers_view {v : Object .view} (h : v ∈ s.views) : s.estate.Covers v.any := by
  simp [estate, imageEstate, covers_soles h]

theorem covers_framebuffer {f : Object .framebuffer} (h : f ∈ s.framebuffers) :
    s.estate.Covers f.any := by
  simp [estate, imageEstate, covers_soles h]

theorem covers_imageAvailable {o : Object .semaphore} (h : o ∈ s.imageAvailable) :
    s.estate.Covers o.any := by
  simp [estate, baseEstate, covers_soles h]

theorem covers_renderFinished {o : Object .semaphore} (h : o ∈ s.renderFinished) :
    s.estate.Covers o.any := by
  simp [estate, baseEstate, covers_soles h]

/-! ### What a screen is like -/

/-- Each image can be rendered into and shown. -/
structure IsReady (s : Swapchain) : Prop where
  /-- There is a swapchain. -/
  swapchain : s.swapchain.isNull = false
  /-- Each image has a view. -/
  views : s.views.length = s.images.length
  /-- Each image has a framebuffer. -/
  framebuffers : s.framebuffers.length = s.images.length
  /-- Each image can be shown. -/
  renderFinished : s.images.length ≤ s.renderFinished.length
  /-- There is a depth buffer. -/
  depth : s.depth.isSome

/-- An image that there is can be rendered into and shown. -/
theorem IsReady.of_lt (h : s.IsReady) {index : ℕ} (hi : index < s.images.length) :
    (∃ framebuffer, s.framebuffers[index]? = some framebuffer) ∧
      ∃ semaphore, s.renderFinished[index]? = some semaphore :=
  ⟨⟨_, List.getElem?_eq_getElem (h.framebuffers.symm ▸ hi)⟩,
    ⟨_, List.getElem?_eq_getElem (hi.trans_le h.renderFinished)⟩⟩

/-- The screen without what belongs to the images. -/
def bare (s : Swapchain) : Swapchain :=
  { s with framebuffers := [], views := [], depth := none, images := [] }

/-- There is nothing that belongs to images. -/
def IsBare (s : Swapchain) : Prop := s.bare = s

/-- There is a depth buffer in a screen that is ready. -/
theorem IsBare.not_isReady (h : s.IsBare) : ¬s.IsReady := by
  intro hr
  have hdepth := hr.depth
  rw [← show s.bare = s from h] at hdepth
  cases hdepth

/-! ### Giving up -/

variable {E : EngineError → Host → Prop}

theorem silent_releaseImages (s : Swapchain) : Silent s.releaseImages := by
  refine .bind (.each fun _ _ ↦ .destroy) fun _ ↦ ?_
  exact .bind (.each fun _ _ ↦ .destroy) fun _ ↦ .bind (Image.silent_dropOption _) fun _ ↦ .pure

theorem silent_drop (ctx : Context) (s : Swapchain) : Silent (s.drop ctx) := by
  refine .bind .tryOut fun _ ↦ ?_
  refine .bind s.silent_releaseImages fun _ ↦ ?_
  refine .bind (.each fun _ _ ↦ .destroy) fun _ ↦ ?_
  refine .bind .destroy fun _ ↦ ?_
  exact .bind .destroy fun _ ↦ .bind .destroy fun _ ↦ .unshare

theorem meets_destroyAll {kind : ObjectKind} (l : List (Object kind)) (hk : kind.EndsAlone) :
    Meets (Held b (soles l + r)) (each destroy l) (fun _ ↦ Held b r) E :=
  meets_each (fun _ _ ↦ meets_destroy hk) l

theorem meets_releaseImages (s : Swapchain) :
    Meets (Held b (s.estate + r)) s.releaseImages
      (fun t h ↦ t = s.bare ∧ Held b (s.bare.estate + r) h) E := by
  simp only [estate, imageEstate, add_assoc]
  refine .bind (meets_destroyAll s.framebuffers trivial) fun _ ↦ ?_
  refine .bind (meets_destroyAll s.views trivial) fun _ ↦ ?_
  refine .bind (Image.meets_dropOption s.depth) fun _ ↦ .pure fun _ hh ↦ ⟨rfl, hh.of_eq ?_⟩
  simp [bare, soles, baseEstate, Image.estateOption]

/-- Beside the swapchain there may be none when the surface is given up. -/
theorem meets_drop (hd : r.Covers ctx.device.any) (hr : ∀ x ∈ r.1, x.object.kind ≠ .swapchain) :
    Meets (Held b (s.estate + r)) (s.drop ctx) (fun _ ↦ Held b r) E := by
  refine .bind (meets_tryPerform ⟨rfl, rfl, rfl⟩ trivial (by simp [Call.uses, hd])) fun _ ↦ ?_
  refine .bind s.meets_releaseImages fun t ↦ ?_
  intro h hh
  obtain ⟨rfl, hh⟩ := hh
  refine Meets.bind (Q := fun _ ↦ Held b (s.swapchain.estate + (s.renderPass.sole +
    (s.surface.sole + (.share + r))))) ?_ (fun _ ↦ ?_) h hh
  · refine (meets_destroyAll (s.imageAvailable ++ s.renderFinished) trivial).pre fun _ hh ↦
      hh.of_eq ?_
    simp only [estate, imageEstate, baseEstate, bare, soles, Image.estateOption, List.map_append,
      List.sum_append, List.map_nil, List.sum_nil, Option.elim_none]
    abel
  · refine .bind (meets_destroyEstate trivial) fun _ ↦ .bind (meets_destroy trivial) fun _ ↦ ?_
    refine .bind (Q := fun _ ↦ Held b (.share + r)) (meets_changeDriver fun _ hh ↦ ?_) fun _ ↦
      meets_unshare
    refine hh.destroy (fun x hx ↦ ?_) fun hk ↦ by cases hk
    simpa [Holding.Needs, Object.any] using hr x (by simpa using hx)

/-! ### Building -/

theorem meets_createSwapchain {info : SwapchainInfo} {logged action : String}
    (hs : r.Covers info.surface.any) (ho : r.Covers info.old.any) :
    Meets (Held b r) (setUp logged action (Driver.createSwapchain info))
      (fun o ↦ Held b (o.sole + r)) fun _ ↦ Held b r := by
  have hc : Makes .swapchain (.createSwapchain · info) none r :=
    .of_uses (fun _ ↦ rfl) (fun _ ↦ trivial) (by simp [Call.uses, hs, ho])
  refine meets_setUp (fun h o d hh hd ↦ ?_) (fun h code d hh hd ↦ ?_) fun _ _ hh ↦ hh
  · rw [Driver.createSwapchain] at hd
    split at hd
    · next o' d' he =>
      have hmade : Held b (o'.sole + r) { h with driver := d' } := hh.create hc (by decide) he
      have hmany : ∀ n, Held b (o'.sole + r)
          { h with driver := (d'.freshMany .screenImage n).2 } :=
        fun n ↦ hmade.congr Driver.continues_freshMany
      cases hd
      exact hmany _
    · next hno => exact (hno _ _ hd).elim
  · rw [Driver.createSwapchain] at hd
    split at hd
    · cases hd
    · exact hh.of_create_error hd

/-- What is left of a building that failed: the host is held for it, and the mark is as before. -/
def Left (b : Backdrop) (r : Estate) (s : Swapchain) (p : Swapchain × Host) : Prop :=
  p.1.needsRebuild = s.needsRebuild ∧ Held b (p.1.estate + r) p.2

/-- The new swapchain takes the place of the old one, and nothing else changes. -/
theorem meets_replace {c : SurfaceCapabilities} {modes : List Code} {extent : Extent} :
    Meets (RunOn.At s (Held b (s.estate + r))) (replace c modes extent)
      (fun _ p ↦ ∃ swapchain images, swapchain.isNull = false ∧
        p.1 = { s with swapchain, extent, images } ∧ Held b (p.1.estate + r) p.2)
      fun _ ↦ Left b r s := by
  refine RunOn.meets_part_bind (.orTrap_bind fun info hi ↦ ?_)
  obtain ⟨n, -, hi⟩ := Option.bind_eq_some_iff.1 hi
  cases hi
  refine RunOn.meets_lift_bind (meets_createSwapchain s.covers_surface.add_right
    s.covers_swapchain.add_right) (fun _ _ hh ↦ ⟨rfl, hh⟩) fun swapchain ↦ ?_
  -- The old swapchain is ended only now, when the new one is there.
  have hold : Meets (Held b (swapchain.sole + (s.estate + r))) (Run.destroy s.swapchain)
      (fun _ h ↦ swapchain.isNull = false ∧ Held b ({ s with swapchain, extent }.estate + r) h)
      fun _ _ ↦ False := by
    have hdestroy : Meets (Held b (s.swapchain.estate +
        (swapchain.sole + (s.imageEstate + (s.baseEstate + r))))) (Run.destroy s.swapchain)
        (fun _ ↦ Held b (swapchain.sole + (s.imageEstate + (s.baseEstate + r))))
        fun _ _ ↦ False := meets_destroyEstate trivial
    have horder : swapchain.sole + (s.estate + r) =
        s.swapchain.estate + (swapchain.sole + (s.imageEstate + (s.baseEstate + r))) := by
      simp only [estate]
      abel
    refine (hdestroy.pre fun _ hh ↦ hh.of_eq horder).post fun _ h hh ↦ ⟨?_, ?_⟩
    · have hn := hh.number_ne_zero (x := ⟨swapchain.any, none⟩) (by simp)
      exact beq_eq_false_iff_ne.2 hn
    · refine hh.of_sole.of_eq ?_
      simp only [estate, imageEstate, baseEstate]
      abel
  refine RunOn.meets_lift_bind hold (fun _ _ hno ↦ hno.elim) fun _ ↦ ?_
  refine RunOn.meets_change_bind ?_
  have hask : Keeps (Held b ({ s with swapchain, extent }.estate + r))
      (setUp "get swapchain images" "get swapchain images" (Driver.swapchainImages swapchain)) :=
    keeps_setUp fun _ hh ↦ hh.congr Driver.continues_enumerate
  have hask : Keeps (fun h ↦ swapchain.isNull = false ∧
      Held b ({ s with swapchain, extent }.estate + r) h)
      (setUp "get swapchain images" "get swapchain images" (Driver.swapchainImages swapchain)) :=
    .assume fun hn ↦ Meets.mono hask (fun _ hh ↦ hh) (fun _ _ hh ↦ ⟨hn, hh⟩) fun _ _ hh ↦ ⟨hn, hh⟩
  refine RunOn.meets_lift_bind hask (fun _ _ hh ↦ ⟨rfl, hh.2⟩) fun images ↦ ?_
  refine RunOn.meets_change.post ?_
  rintro _ ⟨t, h⟩ ⟨rfl, hn, hh⟩
  exact ⟨swapchain, images, hn, rfl, hh⟩

/-- A view is made of each image. -/
theorem meets_addViews (images : List (Object .screenImage)) :
    Meets (RunOn.At s (Held b (s.estate + r))) (addViews images)
      (fun _ p ↦ ∃ views, views.length = images.length ∧
        p.1 = { s with views := s.views ++ views } ∧ Held b (p.1.estate + r) p.2)
      fun _ ↦ Left b r s := by
  induction images generalizing s with
  | nil =>
    refine .pure ?_
    rintro ⟨t, h⟩ ⟨rfl, hh⟩
    exact ⟨[], rfl, by simp, hh⟩
  | cons image rest ih =>
    refine RunOn.meets_part_bind ?_
    have hc : Makes .view
        (.createView · ⟨image.any, s.surfaceFormat.format, colorAspect⟩) none (s.estate + r) := by
      refine .of_uses (fun _ ↦ rfl) (fun _ ↦ trivial) fun _ o ho ↦ ?_
      obtain rfl := List.mem_singleton.1 ho
      exact .of_not_isOwned fun h ↦ h.2.2.2 rfl
    refine RunOn.meets_lift_bind (meets_setUpMake hc (by decide)) (fun _ _ hh ↦ ⟨rfl, hh⟩)
      fun view ↦ ?_
    refine RunOn.meets_change_bind ?_
    have hone : ∀ h, Held b (.one ⟨view.any, none⟩ + (s.estate + r)) h →
        Held b ({ s with views := s.views ++ [view] }.estate + r) h := by
      intro h hh
      refine hh.of_eq ?_
      simp only [estate, imageEstate, baseEstate, soles_append, Object.sole]
      abel
    refine (ih (s := { s with views := s.views ++ [view] })).mono
      (fun _ hp ↦ ⟨hp.1, hone _ hp.2⟩) ?_ fun _ _ hl ↦ hl
    rintro _ ⟨t, h⟩ ⟨views, hlen, rfl, hh⟩
    exact ⟨view :: views, by simp [hlen], by simp, hh⟩

/-- A framebuffer is made of each view. -/
theorem meets_addFramebuffers {depth : Image} (hd : r.Covers depth.view.any)
    (views : List (Object .view)) (hv : ∀ v ∈ views, v ∈ s.views) :
    Meets (RunOn.At s (Held b (s.estate + r))) (addFramebuffers depth views)
      (fun _ p ↦ ∃ framebuffers, framebuffers.length = views.length ∧
        p.1 = { s with framebuffers := s.framebuffers ++ framebuffers } ∧
        Held b (p.1.estate + r) p.2)
      fun _ ↦ Left b r s := by
  induction views generalizing s with
  | nil =>
    refine .pure ?_
    rintro ⟨t, h⟩ ⟨rfl, hh⟩
    exact ⟨[], rfl, by simp, hh⟩
  | cons view rest ih =>
    refine RunOn.meets_part_bind ?_
    have hview : s.estate.Covers view.any := covers_view (hv view List.mem_cons_self)
    refine RunOn.meets_lift_bind (Pass.meets_createFramebuffer s.covers_renderPass.add_right ?_)
      (fun _ _ hh ↦ ⟨rfl, hh⟩) fun framebuffer ↦ ?_
    · simp [hview, hd]
    refine RunOn.meets_change_bind ?_
    have hone : ∀ h, Held b (framebuffer.sole + (s.estate + r)) h →
        Held b ({ s with framebuffers := s.framebuffers ++ [framebuffer] }.estate + r) h := by
      intro h hh
      refine hh.of_eq ?_
      simp only [estate, imageEstate, baseEstate, soles_append]
      abel
    refine (ih (s := { s with framebuffers := s.framebuffers ++ [framebuffer] })
      fun v hm ↦ hv v (List.mem_cons_of_mem _ hm)).mono
      (fun _ hp ↦ ⟨hp.1, hone _ hp.2⟩) ?_ fun _ _ hl ↦ hl
    rintro _ ⟨t, h⟩ ⟨framebuffers, hlen, rfl, hh⟩
    exact ⟨framebuffer :: framebuffers, by simp [hlen], by simp, hh⟩

/-- So many more can be shown. -/
theorem meets_addRenderFinished (n : ℕ) :
    Meets (RunOn.At s (Held b (s.estate + r))) (addRenderFinished n)
      (fun _ p ↦ ∃ more, more.length = n ∧
        p.1 = { s with renderFinished := s.renderFinished ++ more } ∧ Held b (p.1.estate + r) p.2)
      fun _ ↦ Left b r s := by
  induction n generalizing s with
  | zero =>
    refine .pure ?_
    rintro ⟨t, h⟩ ⟨rfl, hh⟩
    exact ⟨[], rfl, by simp, hh⟩
  | succ n ih =>
    have hc : Makes .semaphore .createSemaphore none (s.estate + r) :=
      .of_nil (fun _ ↦ rfl) (fun _ ↦ trivial) fun _ ↦ rfl
    refine RunOn.meets_lift_bind (meets_setUpMake hc (by decide)) (fun _ _ hh ↦ ⟨rfl, hh⟩)
      fun o ↦ ?_
    refine RunOn.meets_change_bind ?_
    have hone : ∀ h, Held b (.one ⟨o.any, none⟩ + (s.estate + r)) h →
        Held b ({ s with renderFinished := s.renderFinished ++ [o] }.estate + r) h := by
      intro h hh
      refine hh.of_eq ?_
      simp only [estate, imageEstate, baseEstate, soles_append, Object.sole]
      abel
    refine (ih (s := { s with renderFinished := s.renderFinished ++ [o] })).mono
      (fun _ hp ↦ ⟨hp.1, hone _ hp.2⟩) ?_ fun _ _ hl ↦ hl
    rintro _ ⟨t, h⟩ ⟨more, hlen, rfl, hh⟩
    exact ⟨o :: more, by simp [hlen], by simp, hh⟩

/-- The depth buffer is there only when all framebuffers are. -/
theorem meets_addDepth (hs : s.depth = none) :
    Meets (RunOn.At s (Held b (s.estate + r))) (addDepth ctx)
      (fun _ p ↦ ∃ depth framebuffers, framebuffers.length = s.views.length ∧
        p.1 = { s with depth := some depth, framebuffers := s.framebuffers ++ framebuffers } ∧
        Held b (p.1.estate + r) p.2)
      fun _ ↦ Left b r s := by
  refine RunOn.meets_part_bind ?_
  refine RunOn.meets_lift_bind Image.meets_create (fun _ _ hh ↦ ⟨rfl, hh⟩) fun depth ↦ ?_
  have hadd := Meets.pre (meets_addFramebuffers (b := b) (s := s) (r := depth.estate + r)
    depth.covers_view.add_right s.views fun _ hv ↦ hv)
    fun _ (hp : RunOn.At s (Held b (depth.estate + (s.estate + r))) _) ↦
      ⟨hp.1, hp.2.of_eq (add_left_comm _ _ _)⟩
  have hdrop : ∀ t : Swapchain, Meets (fun h ↦ t.needsRebuild = s.needsRebuild ∧
      Held b (t.estate + (depth.estate + r)) h) depth.drop
      (fun _ h ↦ t.needsRebuild = s.needsRebuild ∧ Held b (t.estate + r) h) fun _ _ ↦ True :=
    fun t ↦ .assume fun hm ↦ (depth.meets_drop.pre fun _ hh ↦ hh.of_eq (add_left_comm _ _ _)).post
      fun _ _ hh ↦ ⟨hm, hh⟩
  refine .bind (RunOn.meets_undoing (E := fun _ ↦ Left b r s) depth.silent_drop hadd
    fun _ t ↦ hdrop t) fun _ ↦ .update ?_
  rintro ⟨t, h⟩ ⟨framebuffers, hlen, rfl, hh⟩
  refine ⟨depth, framebuffers, hlen, rfl, hh.of_eq ?_⟩
  simp only [estate, imageEstate, baseEstate, hs, Image.estateOption, Option.elim_none,
    Option.elim_some]
  abel

/-- What belongs to the images is made in the place of what is gone. -/
theorem meets_furnish (hviews : s.views = []) (hframebuffers : s.framebuffers = [])
    (hdepth : s.depth = none) (hn : s.swapchain.isNull = false) :
    Meets (RunOn.At s (Held b (s.estate + r)))
      (do
        addViews (← RunOn.part).images
        addDepth ctx
        let s ← RunOn.part
        addRenderFinished (s.images.length - s.renderFinished.length))
      (fun _ p ↦ p.1.IsReady ∧ p.1.needsRebuild = s.needsRebuild ∧ Held b (p.1.estate + r) p.2)
      fun _ ↦ Left b r s := by
  refine RunOn.meets_part_bind (.bind (meets_addViews s.images) fun _ ↦ ?_)
  rintro ⟨t, h⟩ ⟨views, hv, rfl, hh⟩
  refine Meets.bind (meets_addDepth (s := { s with views := s.views ++ views }) hdepth)
    (fun _ ↦ ?_) _ ⟨rfl, hh⟩
  rintro ⟨t, h⟩ ⟨depth, framebuffers, hf, rfl, hh⟩
  refine RunOn.meets_part_bind (Meets.post (meets_addRenderFinished _) ?_) _ ⟨rfl, hh⟩
  rintro _ ⟨t, h⟩ ⟨more, hm, rfl, hh⟩
  refine ⟨⟨hn, ?_, ?_, ?_, rfl⟩, rfl, hh⟩
  · simpa [hviews] using hv
  · simpa [hframebuffers, hviews, hv] using hf
  · simp only [List.length_append, hm]
    omega

/-- What building makes of a bare screen: one of its size, or a marked one if that size has no
pixels. -/
def Built (b : Backdrop) (s : Swapchain) (size : Extent) (t : Swapchain) : Prop :=
  ∃ calls offer extent, b.Holds calls offer ∧
    chooseExtent? offer.capabilities size.width size.height = some extent ∧
    if extent.width = 0 ∨ extent.height = 0 then t = s.mark
    else t.IsReady ∧ t.needsRebuild = s.needsRebuild

theorem meets_build {size : Extent} (hs : s.IsBare) :
    Meets (RunOn.At s (Held b (s.estate + r))) (build ctx size)
      (fun _ p ↦ Built b s size p.1 ∧ Held b (p.1.estate + r) p.2) fun _ ↦ Left b r s := by
  refine RunOn.meets_get_bind fun h hh ↦ ?_
  have hb : b.Holds h.driver.calls h.driver.surface := Books.backdrop hh
  refine RunOn.meets_lift_bind meets_ask (fun _ _ hh ↦ ⟨rfl, hh⟩) fun c ↦ ?_
  have hmodes : Meets (fun k ↦ c = h.driver.surface.capabilities ∧ Held b (s.estate + r) k)
      (driving (Driver.enumerate .presentModes h.driver.surface.modes))
      (fun _ k ↦ c = h.driver.surface.capabilities ∧ Held b (s.estate + r) k) fun _ _ ↦ False :=
    meets_driving fun _ hh ↦ ⟨hh.1, hh.2.congr Driver.continues_enumerate⟩
  refine RunOn.meets_lift_bind hmodes (fun _ _ hno ↦ hno.elim) fun modes ↦ ?_
  refine .orTrap_bind fun extent hx ↦ ?_
  rintro ⟨t, k⟩ ⟨rfl, rfl, hk⟩
  have hat : RunOn.At t (Held b (t.estate + r)) (t, k) := ⟨rfl, hk⟩
  refine Meets.ite (fun hzero ↦ ?_) (fun hpixels ↦ ?_) _ hat
  · refine .bind (Meets.note (Q := fun _ ↦ RunOn.At t (Held b (t.estate + r))) fun _ _ hp ↦ hp)
      fun _ ↦ RunOn.meets_change.post ?_
    rintro _ ⟨u, l⟩ ⟨rfl, hh⟩
    exact ⟨⟨_, _, extent, hb, hx, by rw [if_pos hzero]⟩, hh⟩
  · refine .bind meets_replace fun _ ↦ ?_
    rintro ⟨u, l⟩ ⟨swapchain, images, hn, rfl, hh⟩
    refine (Meets.post (meets_furnish (s := { t with swapchain, extent, images }) ?_ ?_ ?_ hn) ?_) _
      ⟨rfl, hh⟩
    · exact (congrArg Swapchain.views hs).symm
    · exact (congrArg Swapchain.framebuffers hs).symm
    · exact (congrArg Swapchain.depth hs).symm
    · rintro _ p ⟨hready, hmark, hh⟩
      exact ⟨⟨_, _, extent, hb, hx, by rw [if_neg hpixels]; exact ⟨hready, hmark⟩⟩, hh⟩

/-- For each frame ahead of the GPU. -/
theorem meets_addImageAvailable (n : ℕ) :
    Meets (RunOn.At s (Held b (s.estate + r))) (addImageAvailable n)
      (fun _ p ↦ ∃ more, p.1 = { s with imageAvailable := s.imageAvailable ++ more } ∧
        Held b (p.1.estate + r) p.2)
      fun _ ↦ Left b r s := by
  induction n generalizing s with
  | zero =>
    refine .pure ?_
    rintro ⟨t, h⟩ ⟨rfl, hh⟩
    exact ⟨[], by simp, hh⟩
  | succ n ih =>
    have hc : Makes .semaphore .createSemaphore none (s.estate + r) :=
      .of_nil (fun _ ↦ rfl) (fun _ ↦ trivial) fun _ ↦ rfl
    refine RunOn.meets_lift_bind (meets_setUpMake hc (by decide)) (fun _ _ hh ↦ ⟨rfl, hh⟩)
      fun o ↦ ?_
    refine RunOn.meets_change_bind ?_
    have hone : ∀ h, Held b (.one ⟨o.any, none⟩ + (s.estate + r)) h →
        Held b ({ s with imageAvailable := s.imageAvailable ++ [o] }.estate + r) h := by
      intro h hh
      refine hh.of_eq ?_
      simp only [estate, imageEstate, baseEstate, soles_append, Object.sole]
      abel
    refine (ih (s := { s with imageAvailable := s.imageAvailable ++ [o] })).mono
      (fun _ hp ↦ ⟨hp.1, hone _ hp.2⟩) ?_ fun _ _ hl ↦ hl
    rintro _ ⟨t, h⟩ ⟨more, rfl, hh⟩
    exact ⟨o :: more, by simp, hh⟩

theorem keeps_pickFormat {e : Estate} : Keeps (Held b e) pickFormat := by
  refine .get_bind fun h ↦ ?_
  refine .bind (keeps_setUp fun _ hh ↦ hh.congr Driver.continues_enumerate) fun formats ↦ ?_
  simp only
  split
  · exact .pure fun _ hh ↦ hh
  · exact meets_giveUp fun _ _ hh ↦ hh

/-- A new screen is ready unless it is marked. -/
theorem meets_create {surface : Object .surface} {size : Extent} {vsync : Bool} {frames : ℕ} :
    Meets (Held b (surface.sole + r)) (create ctx surface size vsync frames)
      (fun s h ↦ (s.needsRebuild = false → s.IsReady) ∧ Held b (s.estate + r) h)
      fun _ _ ↦ True := by
  refine .bind (Meets.lax keeps_pickFormat) fun format ↦ ?_
  refine .bind meets_createRenderPass.lax fun renderPass ↦ .bind meets_share fun _ ↦ ?_
  refine RunOn.meets_construct ?_
  let s₀ : Swapchain :=
    { surface, renderPass, surfaceFormat := format.1, colorFormat := format.2, extent := size,
      vsync }
  have hstart : ∀ h, Held b (.share + (renderPass.sole + (surface.sole + r))) h →
      Held b (s₀.estate + r) h := by
    intro h hh
    refine hh.of_eq ?_
    simp only [estate, imageEstate, baseEstate, soles, s₀, Image.estateOption, Option.elim_none,
      List.map_nil, List.sum_nil, zero_add, Object.estate_null]
    abel
  refine Meets.pre (P := RunOn.At s₀ (Held b (s₀.estate + r))) ?_ fun _ hp ↦ ⟨hp.1, hstart _ hp.2⟩
  refine .bind (meets_addImageAvailable frames).lax fun _ ↦ ?_
  rintro ⟨t, h⟩ ⟨more, rfl, hh⟩
  refine Meets.mono (meets_build (s := { s₀ with imageAvailable := s₀.imageAvailable ++ more }) rfl)
    (fun _ hp ↦ hp) ?_ (fun _ _ _ ↦ trivial) _ ⟨rfl, hh⟩
  rintro _ ⟨t, h⟩ ⟨⟨_, _, extent, -, -, hbuilt⟩, hh⟩
  refine ⟨fun hmark ↦ ?_, hh⟩
  split at hbuilt
  · rw [hbuilt] at hmark
    cases hmark
  · exact hbuilt.1

/-- What building anew makes, if it answers: a screen without a mark that is ready, or bare if the
size has no pixels. -/
def Rebuilt (b : Backdrop) (size : Extent) (t : Swapchain) : Prop :=
  t.needsRebuild = false ∧ ∃ calls offer extent, b.Holds calls offer ∧
    chooseExtent? offer.capabilities size.width size.height = some extent ∧
    if extent.width = 0 ∨ extent.height = 0 then t.IsBare else t.IsReady

theorem meets_rebuild {size : Extent} (hd : r.Covers ctx.device.any) :
    Meets (RunOn.At s (Held b (s.estate + r))) (rebuild ctx size)
      (fun _ p ↦ Rebuilt b size p.1 ∧ Held b (p.1.estate + r) p.2) fun _ ↦ Left b r s := by
  have hwait : Keeps (Held b (s.estate + r)) (work "wait idle before swapchain recreate"
      (Driver.perform .waitDevice (.waitDevice ctx.device))) :=
    keeps_perform ⟨rfl, rfl, rfl⟩ trivial (by simp [Call.uses, hd])
  refine RunOn.meets_lift_bind hwait (fun _ _ hh ↦ ⟨rfl, hh⟩) fun _ ↦ RunOn.meets_part_bind ?_
  refine RunOn.meets_lift_bind (F := fun _ _ ↦ False) s.meets_releaseImages (fun _ _ hno ↦ hno.elim)
    fun t ↦ ?_
  refine RunOn.meets_change_bind ?_
  rintro ⟨_, k⟩ ⟨rfl, rfl, hk⟩
  refine Meets.bind (meets_build (s := s.bare) rfl) (fun _ ↦ ?_) _ ⟨rfl, hk⟩
  have hclear : ∀ t, Built b s.bare size t → Rebuilt b size { t with needsRebuild := false } := by
    rintro t ⟨calls, offer, extent, hb, hx, ht⟩
    refine ⟨rfl, calls, offer, extent, hb, hx, ?_⟩
    split
    · next hz =>
      rw [if_pos hz] at ht
      subst ht
      rfl
    · next hz =>
      rw [if_neg hz] at ht
      exact ⟨ht.1.swapchain, ht.1.views, ht.1.framebuffers, ht.1.renderFinished, ht.1.depth⟩
  refine .bind (Q := fun _ p ↦ Rebuilt b size p.1 ∧ Held b (p.1.estate + r) p.2)
    (.update fun _ hp ↦ ⟨hclear _ hp.1, hp.2⟩) fun _ ↦ ?_
  exact RunOn.meets_at fun t ↦ RunOn.meets_part_bind <| .note fun _ _ hp ↦ hp.1 ▸ hp.2

/-! ### Frames -/

/-- The screen at the most became marked. -/
def Kept (b : Backdrop) (r : Estate) (s : Swapchain) (p : Swapchain × Host) : Prop :=
  (p.1 = s ∨ p.1 = s.mark) ∧ Held b (p.1.estate + r) p.2

theorem Kept.of_at {p : Swapchain × Host} (h : RunOn.At s (Held b (s.estate + r)) p) :
    Kept b r s p :=
  ⟨.inl h.1, h.1 ▸ h.2⟩

theorem Kept.of_mark {p : Swapchain × Host} (h : RunOn.At s.mark (Held b (s.estate + r)) p) :
    Kept b r s p :=
  ⟨.inr h.1, h.1 ▸ h.2⟩

theorem held_acquire {e : Estate} {o : Object .swapchain} {signal : Object .semaphore} {h : Host}
    (hh : Held b e h) (ho : e.Covers o.any) (hs : e.Covers signal.any) :
    Held b e { h with driver := (Driver.acquire o signal h.driver).2 } := by
  have htally : Held b e { h with driver := (h.driver.tally .acquire).2 } := hh.tally
  rw [Driver.acquire]
  rcases ht : h.driver.tally .acquire with ⟨scripted, d⟩
  rw [ht] at htally
  simp only
  generalize scripted.getD _ = code
  split
  · exact htally.failed
  · have hu : ∀ u ∈ [o.any, signal.any], e.Covers u := by simp [ho, hs]
    exact htally.push (c := .acquire o signal _ _) ⟨rfl, rfl, rfl⟩ trivial
      fun u hmem ↦ Books.covered htally (hu u hmem)

theorem meets_acquire {frame : ℕ} :
    Meets (RunOn.At s (Held b (s.estate + r))) (acquire frame) (fun _ ↦ Kept b r s)
      fun _ ↦ Kept b r s := by
  refine RunOn.meets_part_bind (.orTrap_bind fun semaphore hs ↦ ?_)
  have hsem : (s.estate + r).Covers semaphore.any :=
    (covers_imageAvailable (List.mem_of_getElem? hs)).add_right
  have hcall : Meets (Held b (s.estate + r)) (driving (Driver.acquire s.swapchain semaphore))
      (fun _ ↦ Held b (s.estate + r)) fun _ _ ↦ False :=
    meets_driving fun _ hh ↦ held_acquire hh s.covers_swapchain.add_right hsem
  refine RunOn.meets_lift_bind hcall (fun _ _ hno ↦ hno.elim) fun answer ↦ ?_
  have hrefuse : ∀ {t code}, Meets (RunOn.At t (Held b (t.estate + r)))
      (Log.refuse source (.driver "acquire next swapchain image" code) : RunOn Swapchain (Option ℕ))
      (fun _ ↦ RunOn.At t (Held b (t.estate + r))) fun _ ↦ RunOn.At t (Held b (t.estate + r)) :=
    .refuse fun _ _ hp ↦ hp
  rcases answer with code | ⟨index, code⟩
  · refine .ite (fun _ ↦ ?_) fun _ ↦ ?_
    · exact RunOn.meets_change_bind (.pure fun _ hp ↦ .of_mark hp)
    · exact hrefuse.mono (fun _ hp ↦ hp) (fun _ _ hp ↦ .of_at hp) fun _ _ hp ↦ .of_at hp
  · have hrest : ∀ t, (t = s ∨ t = s.mark) → Meets (RunOn.At t (Held b (t.estate + r)))
        (if code = .success ∨ code = .suboptimal then pure (some index)
          else Log.refuse source (.driver "acquire next swapchain image" code))
        (fun _ ↦ Kept b r s) fun _ ↦ Kept b r s := by
      intro t ht
      have hkept : ∀ p, RunOn.At t (Held b (t.estate + r)) p → Kept b r s p :=
        fun p hp ↦ ⟨hp.1 ▸ ht, hp.1 ▸ hp.2⟩
      refine .ite (fun _ ↦ .pure hkept) fun _ ↦ ?_
      exact hrefuse.mono (fun _ hp ↦ hp) (fun _ p hp ↦ hkept p hp) fun _ p hp ↦ hkept p hp
    refine .ite (fun _ ↦ ?_) fun _ ↦ ?_
    · exact RunOn.meets_change_bind (hrest s.mark (.inr rfl))
    · exact hrest s (.inl rfl)

theorem meets_present {index : ℕ} :
    Meets (RunOn.At s (Held b (s.estate + r))) (present ctx index) (fun _ ↦ Kept b r s)
      fun _ ↦ Kept b r s := by
  refine RunOn.meets_part_bind (.orTrap_bind fun wait hw ↦ ?_)
  have hu : ∀ u ∈ [wait.any, s.swapchain.any], (s.estate + r).Covers u := by
    have hwait := covers_renderFinished (List.mem_of_getElem? hw)
    simp [hwait, s.covers_swapchain]
  have hcall : Meets (Held b (s.estate + r))
      (driving (Driver.present ctx.queue wait s.swapchain index))
      (fun _ ↦ Held b (s.estate + r)) fun _ _ ↦ False :=
    meets_driving fun h hh ↦ hh.tally.push (c := .present ctx.queue wait s.swapchain index _)
      ⟨rfl, rfl, rfl⟩ trivial fun u hmem ↦ Books.covered hh (hu u hmem)
  refine RunOn.meets_lift_bind hcall (fun _ _ hno ↦ hno.elim) fun code ↦ ?_
  refine .ite (fun _ ↦ RunOn.meets_change.post fun _ _ hp ↦ .of_mark hp) fun _ ↦ ?_
  exact .ite (fun _ ↦ .refuse fun _ _ hp ↦ .of_at hp) fun _ ↦ .pure fun _ hp ↦ .of_at hp

end RenderTargets.Vulkan.Swapchain
