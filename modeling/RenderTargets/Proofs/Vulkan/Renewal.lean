import RenderTargets.Proofs.Vulkan.Backing
/-!
# A screen that is built anew

Building the screen anew may fail at any step, and leaves what was made so far. Of such a screen it
is known what it shares with the one there was, and what each new part was made of: that is
`Swapchain.Renews`. Nothing else that is done with the screen makes parts of it, so this is all
there is to say (`renews_rebuild`, `renews_acquire`, `renews_present`).

The pass into the screen fits its images from the start, and no shader reads them. That is
`Swapchain.IsFurnished`, which every renewal keeps.
-/

namespace RenderTargets.Vulkan

open StepWith Run

namespace Swapchain

variable {α : Type} {ctx : Context} {calls calls' : List Call} {s t u : Swapchain}

/-- The framebuffer was made for the pass into the screen, of views of the screen and of images that
no shader reads. -/
def Frames (s : Swapchain) (f : Object .framebuffer) (calls : List Call) : Prop :=
  ∃ views extent, .createFramebuffer f ⟨s.renderPass, views, extent⟩ ∈ calls ∧
    ∀ v ∈ views, v ∈ s.views ∨ v.IsUnread calls

/-- The screen `t` is `s` built anew, as a whole or in part. -/
structure Renews (s t : Swapchain) (calls : List Call) : Prop where
  /-- The pass into the screen is the same. -/
  renderPass : t.renderPass = s.renderPass
  /-- So is the format of the images. -/
  surfaceFormat : t.surfaceFormat = s.surfaceFormat
  /-- So is that of the engine. -/
  colorFormat : t.colorFormat = s.colorFormat
  /-- New views show images of the screen. -/
  views : ∀ v ∈ t.views, v ∈ s.views ∨ v.IsUnread calls
  /-- New framebuffers were made of such views. -/
  framebuffers : ∀ f ∈ t.framebuffers, f ∈ s.framebuffers ∨ s.Frames f calls

theorem Frames.subset {f : Object .framebuffer} (h : s.Frames f calls) (hl : calls ⊆ calls') :
    s.Frames f calls' := by
  obtain ⟨views, extent, hmade, hviews⟩ := h
  exact ⟨views, extent, hl hmade, fun v hv ↦ (hviews v hv).imp_right (v.lasts_isUnread hl)⟩

theorem lasts_renews (s t : Swapchain) : Lasts (s.Renews t) := fun _ _ hl h ↦
  ⟨h.renderPass, h.surfaceFormat, h.colorFormat,
    fun v hv ↦ (h.views v hv).imp_right (v.lasts_isUnread hl),
    fun f hf ↦ (h.framebuffers f hf).imp_right (·.subset hl)⟩

/-- What is shared, and the parts that are made anew. -/
def parts (s : Swapchain) :
    Object .renderPass × SurfaceFormat × Format × List (Object .view) ×
      List (Object .framebuffer) :=
  (s.renderPass, s.surfaceFormat, s.colorFormat, s.views, s.framebuffers)

namespace Renews

theorem refl (s : Swapchain) : s.Renews s calls := ⟨rfl, rfl, rfl, fun _ ↦ .inl, fun _ ↦ .inl⟩

theorem congr (h : s.Renews t calls) (hu : u.parts = t.parts) : s.Renews u calls := by
  obtain ⟨hpass, hsurface, hcolor, hviews, hframebuffers⟩ : u.renderPass = t.renderPass ∧
      u.surfaceFormat = t.surfaceFormat ∧ u.colorFormat = t.colorFormat ∧ u.views = t.views ∧
      u.framebuffers = t.framebuffers := by
    simpa [parts] using hu
  exact ⟨hpass.trans h.renderPass, hsurface.trans h.surfaceFormat, hcolor.trans h.colorFormat,
    hviews ▸ h.views, hframebuffers ▸ h.framebuffers⟩

theorem addView {v : Object .view} (h : s.Renews t calls) (hv : v.IsUnread calls) :
    s.Renews { t with views := t.views ++ [v] } calls := by
  refine ⟨h.renderPass, h.surfaceFormat, h.colorFormat, fun w hw ↦ ?_, h.framebuffers⟩
  rcases List.mem_append.1 hw with hw | hw
  · exact h.views w hw
  · exact .inr (List.mem_singleton.1 hw ▸ hv)

theorem addFramebuffer {f : Object .framebuffer} {views : List (Object .view)} {extent : Extent}
    (h : s.Renews t calls) (hf : .createFramebuffer f ⟨t.renderPass, views, extent⟩ ∈ calls)
    (hviews : ∀ v ∈ views, v ∈ t.views ∨ v.IsUnread calls) :
    s.Renews { t with framebuffers := t.framebuffers ++ [f] } calls := by
  refine ⟨h.renderPass, h.surfaceFormat, h.colorFormat, h.views, fun g hg ↦ ?_⟩
  rcases List.mem_append.1 hg with hg | hg
  · exact h.framebuffers g hg
  · obtain rfl := List.mem_singleton.1 hg
    exact .inr ⟨views, extent, h.renderPass ▸ hf, fun v hv ↦ (hviews v hv).elim (h.views v) .inr⟩

end Renews

/-! ### Building -/

/-- The screen is `s` built anew, so far. -/
def Renewing (s : Swapchain) (p : Swapchain × Host) : Prop := s.Renews p.1 p.2.driver.calls

/-- What the host does leaves the screen alone. -/
theorem renews_lift {x : Run α} (hx : IsOutsideFrames .null x) :
    Keeps s.Renewing (liftM x : RunOn Swapchain α) :=
  Meets.snd fun t ↦ hx.keeps_of_lasts (lasts_renews s t)

theorem renews_change {g : Swapchain → Swapchain} (hg : ∀ t, (g t).parts = t.parts) :
    Keeps s.Renewing (RunOn.change g) :=
  Meets.update fun p hp ↦ Renews.congr (t := p.1) hp (hg p.1)

theorem renews_part_bind {g : Swapchain → RunOn Swapchain α} (h : ∀ t, Keeps s.Renewing (g t)) :
    Keeps s.Renewing (RunOn.part >>= g) :=
  fun p hp ↦ h p.1 p hp

theorem renews_replace {c : SurfaceCapabilities} {modes : List Code} {extent : Extent} :
    Keeps s.Renewing (replace c modes extent) := by
  refine renews_part_bind fun _ ↦ ?_
  refine .orTrap_bind fun _ _ ↦ ?_
  refine .bind (renews_lift (.setUp fun _ ↦ Driver.adds_createSwapchain)) fun _ ↦ ?_
  refine .bind (renews_lift .destroy) fun _ ↦ ?_
  refine .bind (renews_change fun _ ↦ rfl) fun _ ↦ ?_
  refine .bind (renews_lift (.setUp fun _ ↦ Driver.adds_swapchainImages)) fun _ ↦ ?_
  exact renews_change fun _ ↦ rfl

/-- What is made is known beside the screen. -/
theorem renews_make {x : Run α} {Q : α → Host → Prop} (hx : IsOutsideFrames .null x)
    (hQ : Meets (fun _ ↦ True) x Q fun _ _ ↦ True) :
    Meets (fun h ↦ s.Renewing (t, h)) x (fun a h ↦ s.Renewing (t, h) ∧ Q a h)
      fun _ h ↦ s.Renewing (t, h) :=
  ((hx.keeps_of_lasts (lasts_renews s t)).and hQ).mono (fun _ h ↦ ⟨h, trivial⟩) (fun _ _ h ↦ h)
    fun _ _ h ↦ h.1

theorem renews_addViews (images : List (Object .screenImage)) :
    Keeps s.Renewing (addViews images) := by
  induction images with
  | nil => exact .pure fun _ h ↦ h
  | cons image rest ih =>
    refine RunOn.meets_at fun t ↦ RunOn.meets_part_bind ?_
    refine RunOn.meets_lift_bind
      (renews_make (.setUp fun _ ↦ Driver.adds_create rfl fun _ ↦ trivial)
      meets_setUpCalled) (fun _ _ h ↦ h) fun view ↦ ?_
    refine .bind (Meets.update (Q := fun _ ↦ s.Renewing) ?_) fun _ ↦ ih
    rintro ⟨t, h⟩ ⟨rfl, ht, hview⟩
    exact Renews.addView ht (.screen hview)

theorem renews_addFramebuffers {depth : Image} {views : List (Object .view)}
    (ht : views ⊆ t.views) :
    Meets (fun p ↦ (p.1.views = t.views ∧ depth.view.IsUnread p.2.driver.calls) ∧ s.Renewing p)
      (addFramebuffers depth views) (fun _ ↦ s.Renewing) fun _ ↦ s.Renewing := by
  induction views with
  | nil => exact .pure fun _ h ↦ h.2
  | cons view rest ih =>
    obtain ⟨hview, hrest⟩ := List.cons_subset.1 ht
    refine RunOn.meets_at fun u ↦ RunOn.meets_part_bind ?_
    have hx : IsOutsideFrames .null (createFramebuffer u.renderPass [view, depth.view] u.extent) :=
      outsideFrames_createFramebuffer
    have hlasts : Lasts fun l ↦ u.views = t.views ∧ depth.view.IsUnread l :=
      fun _ _ hl h ↦ ⟨h.1, depth.view.lasts_isUnread hl h.2⟩
    refine RunOn.meets_lift_bind ((hx.keeps_of_lasts hlasts).and (renews_make hx meets_called))
      (fun _ _ h ↦ h.2) fun framebuffer ↦ ?_
    refine .bind (Meets.update ?_) fun _ ↦ ih hrest
    rintro ⟨u, h⟩ ⟨rfl, ⟨hviews, hunread⟩, hu, hmade⟩
    refine ⟨⟨hviews, hunread⟩, Renews.addFramebuffer hu hmade fun v hv ↦ ?_⟩
    rcases List.mem_cons.1 hv with rfl | hv
    · exact .inl (hviews ▸ hview)
    · exact .inr (List.mem_singleton.1 hv ▸ hunread)

theorem renews_addDepth : Keeps s.Renewing (addDepth ctx) := by
  refine RunOn.meets_at fun t ↦ RunOn.meets_part_bind ?_
  refine RunOn.meets_lift_bind (renews_make Image.outsideFrames_createDepth Image.made_create)
    (fun _ _ h ↦ h) fun depth ↦ ?_
  have hdrop : IsOutsideFrames .null depth.drop := depth.outsideFrames_drop
  refine .bind (.pre (RunOn.meets_undoing depth.silent_drop
    (renews_addFramebuffers (t := t) (List.Subset.refl _)) fun _ u ↦
      (hdrop.keeps_of_lasts (lasts_renews s u)).lax) ?_) fun _ ↦ renews_change fun _ ↦ rfl
  rintro ⟨t, h⟩ ⟨rfl, ht, hmade⟩
  exact ⟨⟨rfl, hmade.isUnread usageDepth_unread⟩, ht⟩

theorem renews_addRenderFinished (n : ℕ) : Keeps s.Renewing (addRenderFinished n) := by
  induction n with
  | zero => exact .pure fun _ h ↦ h
  | succ n ih =>
    refine .bind (renews_lift (.setUp fun _ ↦ Driver.adds_create rfl fun _ ↦ trivial)) fun _ ↦ ?_
    exact .bind (renews_change fun _ ↦ rfl) fun _ ↦ ih

theorem renews_addImageAvailable (n : ℕ) : Keeps s.Renewing (addImageAvailable n) := by
  induction n with
  | zero => exact .pure fun _ h ↦ h
  | succ n ih =>
    refine .bind (renews_lift (.setUp fun _ ↦ Driver.adds_create rfl fun _ ↦ trivial)) fun _ ↦ ?_
    exact .bind (renews_change fun _ ↦ rfl) fun _ ↦ ih

theorem renews_build {size : Extent} : Keeps s.Renewing (build ctx size) := by
  refine .get_bind fun _ ↦ ?_
  refine .bind (renews_lift (.setUp fun _ ↦ Driver.adds_query)) fun _ ↦ ?_
  refine .bind (renews_lift (.driving fun _ ↦ Driver.adds_enumerate)) fun _ ↦ ?_
  refine .orTrap_bind fun _ _ ↦ ?_
  refine .ite (fun _ ↦ ?_) fun _ ↦ ?_
  · exact .bind (Meets.note (Q := fun _ ↦ s.Renewing) fun _ _ h ↦ h) fun _ ↦
      renews_change fun _ ↦ rfl
  · refine .bind renews_replace fun _ ↦ ?_
    refine renews_part_bind fun _ ↦ ?_
    refine .bind (renews_addViews _) fun _ ↦ ?_
    exact .bind renews_addDepth fun _ ↦ renews_part_bind fun _ ↦ renews_addRenderFinished _

/-! ### Whole screens -/

/-- Nothing is left of the images that are given up. -/
theorem answers_releaseImages (t : Swapchain) :
    Answers t.releaseImages fun u ↦ ∀ {s : Swapchain} {l : List Call}, s.Renews t l →
      s.Renews u l :=
  .skip fun _ ↦ .skip fun _ ↦ .skip fun _ ↦ .pure fun h ↦
    ⟨h.renderPass, h.surfaceFormat, h.colorFormat, List.forall_mem_nil _, List.forall_mem_nil _⟩

theorem renews_rebuild {size : Extent} : Keeps s.Renewing (rebuild ctx size) := by
  refine .bind (renews_lift (.work fun _ ↦ Driver.adds_perform rfl trivial)) fun _ ↦ ?_
  refine RunOn.meets_at fun t ↦ ?_
  refine RunOn.meets_part_bind ?_
  have hrelease : Keeps (fun h : Host ↦ s.Renews t h.driver.calls) t.releaseImages :=
    (t.outsideFrames_releaseImages : IsOutsideFrames .null _).keeps_of_lasts (lasts_renews s t)
  refine RunOn.meets_lift_bind ((answers_releaseImages t).meets hrelease) (fun _ _ h ↦ h) fun u ↦ ?_
  refine .bind (Meets.update (Q := fun _ ↦ s.Renewing) ?_) fun _ ↦ .bind renews_build fun _ ↦
    .bind (renews_change fun _ ↦ rfl) fun _ ↦ renews_part_bind fun _ ↦ .note fun _ _ h ↦ h
  rintro ⟨t, h⟩ ⟨rfl, hu, ht⟩
  exact hu ht

theorem renews_acquire {frame : ℕ} : Keeps s.Renewing (acquire frame) := by
  have hmark : Keeps s.Renewing (RunOn.change mark) := renews_change fun _ ↦ rfl
  refine renews_part_bind fun _ ↦ ?_
  refine .orTrap_bind fun _ _ ↦ ?_
  refine .bind (renews_lift (.driving fun _ ↦ Driver.adds_acquire)) fun r ↦ ?_
  rcases r with code | ⟨index, code⟩
  · exact .ite (fun _ ↦ .bind hmark fun _ ↦ .pure fun _ h ↦ h) fun _ ↦ .refuse fun _ _ h ↦ h
  · have hanswer : Keeps s.Renewing (if code = .success ∨ code = .suboptimal then
        pure (some index)
      else Log.refuse source (.driver "acquire next swapchain image" code) :
        RunOn Swapchain (Option ℕ)) :=
      .ite (fun _ ↦ .pure fun _ h ↦ h) fun _ ↦ .refuse fun _ _ h ↦ h
    exact .ite (fun _ ↦ .bind hmark fun _ ↦ hanswer) fun _ ↦ hanswer

theorem renews_present {index : ℕ} : Keeps s.Renewing (present ctx index) := by
  refine renews_part_bind fun _ ↦ ?_
  refine .orTrap_bind fun _ _ ↦ ?_
  refine .bind (renews_lift (.driving fun _ ↦ Driver.adds_present)) fun _ ↦ ?_
  refine .ite (fun _ ↦ renews_change fun _ ↦ rfl) fun _ ↦ ?_
  exact .ite (fun _ ↦ .refuse fun _ _ h ↦ h) fun _ ↦ .pure fun _ h ↦ h

/-! ### What the screen is furnished with -/

/-- The pass into the screen was made for the format of its images, and renders into images that no
shader reads. -/
structure IsFurnished (ctx : Context) (s : Swapchain) (calls : List Call) : Prop where
  /-- The pass. -/
  renderPass :
    .createRenderPass s.renderPass (passLayout ctx s.surfaceFormat.format).attachmentSet ∈ calls
  /-- The format of the images is that of the engine. -/
  format : s.surfaceFormat.format = ctx.formatCode s.colorFormat
  /-- The views. -/
  views : ∀ v ∈ s.views, v.IsUnread calls
  /-- What is rendered into. -/
  framebuffers : ∀ f ∈ s.framebuffers, ∃ views extent,
    .createFramebuffer f ⟨s.renderPass, views, extent⟩ ∈ calls ∧ ∀ v ∈ views, v.IsUnread calls

theorem IsFurnished.renew (h : s.IsFurnished ctx calls) (hl : calls ⊆ calls')
    (ht : s.Renews t calls') : t.IsFurnished ctx calls' where
  renderPass := by
    rw [ht.renderPass, ht.surfaceFormat]
    exact hl h.renderPass
  format := by
    rw [ht.surfaceFormat, ht.colorFormat]
    exact h.format
  views v hv := (ht.views v hv).elim (fun hold ↦ v.lasts_isUnread hl (h.views v hold)) id
  framebuffers f hf := by
    rw [ht.renderPass]
    rcases ht.framebuffers f hf with hold | ⟨views, extent, hmade, hviews⟩
    · obtain ⟨views, extent, hmade, hviews⟩ := h.framebuffers f hold
      exact ⟨views, extent, hl hmade, fun v hv ↦ v.lasts_isUnread hl (hviews v hv)⟩
    · refine ⟨views, extent, hmade, fun v hv ↦ ?_⟩
      exact (hviews v hv).elim (fun hold ↦ v.lasts_isUnread hl (h.views v hold)) id

theorem lasts_isFurnished (s : Swapchain) : Lasts (s.IsFurnished ctx) :=
  fun _ _ hl h ↦ h.renew hl (.refl s)

/-- The formats taken for the screen are those that the engine names by the same number. -/
theorem formatCode_of_chosen {formats : List SurfaceFormat} {f : SurfaceFormat} {c : Format}
    (hf : chooseSurfaceFormat formats = some f) (hc : formatOfCode? f.format = some c) :
    f.format = ctx.formatCode c := by
  obtain ⟨code, hcode, hfind⟩ := List.exists_of_findSome?_eq_some hf
  have hformat : f.format = code := by simpa using List.find?_some hfind
  have hnamed : formatCode c = f.format := by simpa using List.find?_some hc
  have hcolor : c ≠ .depth24Stencil8 := by
    rintro rfl
    rw [← hformat, ← hnamed] at hcode
    revert hcode
    decide
  rw [Context.formatCode, if_neg hcolor, hnamed]

theorem answers_pickFormat : Answers pickFormat fun p ↦ p.1.format = ctx.formatCode p.2 := by
  refine .of_meets <| .get_bind fun _ ↦ .bind (Meets.any (P := fun _ ↦ True)) fun formats ↦ ?_
  dsimp only
  split
  · next p hp =>
    obtain ⟨f, hf, hp⟩ := Option.bind_eq_some_iff.1 hp
    obtain ⟨c, hc, hp⟩ := Option.bind_eq_some_iff.1 hp
    cases hp
    exact .pure fun _ _ ↦ formatCode_of_chosen hf hc
  · exact meets_giveUp (S := fun _ ↦ True) fun _ _ _ ↦ trivial

/-- A screen that is built stays furnished. -/
theorem furnished_build {size : Extent} {frames : ℕ} (s : Swapchain) :
    Meets (RunOn.At s fun h ↦ s.IsFurnished ctx h.driver.calls)
      (do
        addImageAvailable frames
        build ctx size)
      (fun _ p ↦ p.1.IsFurnished ctx p.2.driver.calls) fun _ _ ↦ True := by
  have houtside : RunOn.IsOutsideFrames .null (do
      addImageAvailable frames
      build ctx size) :=
    .bind (outsideFrames_addImageAvailable _) fun _ ↦ outsideFrames_build
  have hrenews : Keeps s.Renewing (do
      addImageAvailable frames
      build ctx size) :=
    .bind (renews_addImageAvailable _) fun _ ↦ renews_build
  have hlasts : Lasts (s.IsFurnished ctx) := s.lasts_isFurnished
  refine ((houtside.keeps_of_lasts hlasts).and hrenews).mono ?_ (fun _ p h ↦ ?_)
    fun _ _ _ ↦ trivial
  · rintro ⟨s, h⟩ ⟨rfl, hs⟩
    exact ⟨hs, .refl s⟩
  · exact h.1.renew (List.Subset.refl _) h.2

theorem furnished_create {surface : Object .surface} {size : Extent} {vsync : Bool} {frames : ℕ} :
    Meets (fun _ ↦ True) (create ctx surface size vsync frames)
      (fun s h ↦ s.IsFurnished ctx h.driver.calls) fun _ _ ↦ True := by
  have hpick : Answers pickFormat fun p ↦ p.1.format = ctx.formatCode p.2 := answers_pickFormat
  refine .bind (hpick.meets .any) fun ⟨surfaceFormat, colorFormat⟩ ↦ .assume fun hformat ↦ ?_
  refine .bind meets_called fun renderPass ↦ ?_
  have hmade := lasts_mem
    (.createRenderPass renderPass (passLayout ctx surfaceFormat.format).attachmentSet)
  refine (IsOutsideFrames.share : IsOutsideFrames .null _).lasts_bind hmade fun _ ↦
    RunOn.meets_construct ?_
  -- It starts out without images.
  exact (furnished_build _).pre fun _ h ↦
    ⟨h.1, h.2, hformat, List.forall_mem_nil _, List.forall_mem_nil _⟩

end Swapchain

end RenderTargets.Vulkan
