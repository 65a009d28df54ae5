import RenderTargets.Proofs.Vulkan.PartsOutsideFrames
import RenderTargets.Proofs.Vulkan.Made
/-!
# What the trace says of images

A device does not keep what its images were made with. The trace does: behind every view there is
the call that made it, and behind that the one that made its image. `Object.IsBacked` finds both,
with size and samples, `Texture.IsBacked` does so for the views of a texture, and `Pass.IsJoined`
finds the calls that made the shape of a pass and put its images together. Views that no shader
reads from are told by what their images were made for (`Object.IsUnread`).

A trace only grows, so what it says **lasts** (`Lasts`): it is shown where the objects are made, and
nothing is shown again later.
-/

namespace RenderTargets.Vulkan

open StepWith Run

/-- What is said of a trace is said of every longer one. -/
def Lasts (M : List Call → Prop) : Prop := ∀ ⦃l l'⦄, l ⊆ l' → M l → M l'

variable {α : Type} {uploads : Object .commandPool} {l l' : List Call} {M : List Call → Prop}

namespace Run

variable {x : Run α} {Q : α → Host → Prop}

theorem lasts_of_since {h k : Host} (hM : Lasts M) (hh : M h.driver.calls)
    (hs : Since uploads h.driver k) : M k.driver.calls := by
  obtain ⟨l, hl, -⟩ := hs.calls
  exact hM (hl ▸ List.subset_append_right l _) hh

/-- What lasts is not changed by what is done outside frames. -/
theorem IsOutsideFrames.keeps_of_lasts (hx : IsOutsideFrames uploads x) (hM : Lasts M) :
    Keeps (fun h ↦ M h.driver.calls) x :=
  fun h hh ↦ (hx h.driver h (.refl _)).mono (fun _ _ ↦ lasts_of_since hM hh)
    fun _ _ ↦ lasts_of_since hM hh

/-- What lasts is known beside whatever is known of an answer. -/
theorem IsOutsideFrames.beside (hx : IsOutsideFrames uploads x) (hM : Lasts M)
    (h : Meets (fun _ ↦ True) x Q fun _ _ ↦ True) :
    Meets (fun h ↦ M h.driver.calls) x (fun a h ↦ M h.driver.calls ∧ Q a h) fun _ _ ↦ True :=
  ((hx.keeps_of_lasts hM).and h).mono (fun _ hh ↦ ⟨hh, trivial⟩) (fun _ _ hh ↦ hh)
    fun _ _ _ ↦ trivial

/-- What lasts is known after what is done outside frames. -/
theorem IsOutsideFrames.lasts_bind {β : Type} {f : α → Run β} {R : β → Host → Prop}
    (hx : IsOutsideFrames uploads x) (hM : Lasts M)
    (hf : ∀ a, Meets (fun h ↦ M h.driver.calls) (f a) R fun _ _ ↦ True) :
    Meets (fun h ↦ M h.driver.calls) (x >>= f) R fun _ _ ↦ True :=
  .bind (hx.keeps_of_lasts hM).lax hf

/-- Nothing is said of faults, so nothing is said of what is undone. -/
theorem meets_undone {P : Host → Prop} {undo : Run Unit} (hx : Meets P x Q fun _ _ ↦ True) :
    Meets P (StepWith.undoing x undo) Q fun _ _ ↦ True :=
  meets_undoing hx

/-- What is made is in the trace. -/
theorem meets_called {kind : ObjectKind} {action : String} {name : CallName}
    {f : Object kind → Call} {P : Host → Prop} :
    Meets P (Run.work action (Driver.create name f)) (fun o h ↦ f o ∈ h.driver.calls)
      fun _ _ ↦ True := by
  refine meets_work (S := fun _ ↦ True) (fun h o d _ hd ↦ ?_) (fun _ _ _ _ _ ↦ trivial)
    fun _ _ _ ↦ trivial
  obtain ⟨-, rfl⟩ := Driver.create_ok hd
  exact List.mem_cons_self

theorem meets_setUpCalled {kind : ObjectKind} {logged action : String} {name : CallName}
    {f : Object kind → Call} {P : Host → Prop} :
    Meets P (Run.setUp logged action (Driver.create name f)) (fun o h ↦ f o ∈ h.driver.calls)
      fun _ _ ↦ True := by
  refine meets_setUp (S := fun _ ↦ True) (fun h o d _ hd ↦ ?_) (fun _ _ _ _ _ ↦ trivial)
    fun _ _ _ ↦ trivial
  obtain ⟨-, rfl⟩ := Driver.create_ok hd
  exact List.mem_cons_self

end Run

theorem RunOn.IsOutsideFrames.keeps_of_lasts {τ : Type} {x : RunOn τ α}
    (hx : RunOn.IsOutsideFrames uploads x)
    (hM : Lasts M) : Keeps (fun p ↦ M p.2.driver.calls) x :=
  fun p hp ↦ (hx p.2.driver p (.refl _)).mono (fun _ _ ↦ lasts_of_since hM hp)
    fun _ _ ↦ lasts_of_since hM hp

theorem lasts_mem (c : Call) : Lasts (c ∈ ·) := fun _ _ hl hc ↦ hl hc

theorem Lasts.and {N : List Call → Prop} (hM : Lasts M) (hN : Lasts N) :
    Lasts fun l ↦ M l ∧ N l :=
  fun _ _ hl h ↦ ⟨hM hl h.1, hN hl h.2⟩

/-! ### Images -/

/-- The view shows an image that was made with this size and these samples. -/
def Object.IsBacked (extent : Extent) (samples : Flags) (v : Object .view) (calls : List Call) :
    Prop :=
  ∃ image format usage aspect, .createImage image ⟨format, extent, samples, usage⟩ ∈ calls ∧
    .createView v ⟨image.any, format, aspect⟩ ∈ calls

theorem Object.lasts_isBacked {extent : Extent} {samples : Flags} (v : Object .view) :
    Lasts (v.IsBacked extent samples) := by
  rintro l l' hl ⟨image, format, usage, aspect, himage, hview⟩
  exact ⟨image, format, usage, aspect, hl himage, hl hview⟩

/-- The view shows an image that no shader reads: one of the screen, or one that was not made for
it. -/
inductive Object.IsUnread (v : Object .view) (calls : List Call) : Prop
  /-- It is an image of the screen. -/
  | screen {image : Object .screenImage} {format aspect}
      (view : .createView v ⟨image.any, format, aspect⟩ ∈ calls) : IsUnread v calls
  /-- It was not made for sampling. -/
  | unsampled {image : Object .image} {info format aspect}
      (made : .createImage image info ∈ calls)
      (usage : Flags.contains info.usage usageSampled = false)
      (view : .createView v ⟨image.any, format, aspect⟩ ∈ calls) : IsUnread v calls

theorem Object.lasts_isUnread (v : Object .view) : Lasts v.IsUnread := fun _ _ hl h ↦ by
  cases h with
  | screen view => exact .screen (hl view)
  | unsampled made usage view => exact .unsampled (hl made) usage (hl view)

/-- Depth buffers are not made for sampling. -/
theorem usageDepth_unread : Flags.contains usageDepth usageSampled = false := by decide

/-- The image and its view were made so. -/
structure Image.IsMade (info : ImageInfo) (aspect : Flags) (i : Image) (calls : List Call) :
    Prop where
  /-- The image. -/
  image : .createImage i.image info ∈ calls
  /-- The view. -/
  view : .createView i.view ⟨i.image.any, info.format, aspect⟩ ∈ calls

namespace Image

variable {info : ImageInfo} {aspect : Flags} {i : Image}

theorem lasts_isMade (i : Image) : Lasts (i.IsMade info aspect) :=
  fun _ _ hl h ↦ ⟨hl h.image, hl h.view⟩

/-- Behind its view there is the image. -/
theorem IsMade.backed (h : i.IsMade info aspect l) : i.view.IsBacked info.extent info.samples l :=
  ⟨i.image, info.format, info.usage, aspect, h.image, h.view⟩

theorem IsMade.isUnread (h : i.IsMade info aspect l)
    (hu : Flags.contains info.usage usageSampled = false) : i.view.IsUnread l :=
  .unsampled h.image hu h.view

theorem made_create {label : String} :
    Meets (fun _ ↦ True) (create label info aspect)
      (fun i h ↦ i.IsMade info aspect h.driver.calls) fun _ _ ↦ True := by
  refine .bind meets_called fun image ↦ ?_
  have hmade : Lasts (.createImage image info ∈ ·) := lasts_mem _
  refine (IsOutsideFrames.share : IsOutsideFrames .null _).lasts_bind hmade fun _ ↦ meets_undone ?_
  refine (outsideFrames_allocate : IsOutsideFrames .null _).lasts_bind hmade fun memory ↦
    meets_undone ?_
  have hbind : IsOutsideFrames .null (Run.work s!"bind memory of image '{label}'"
      (Driver.perform .bindImageMemory (.bindImageMemory image))) :=
    .work fun _ ↦ Driver.adds_perform rfl trivial
  have hview : IsOutsideFrames .null (Run.work s!"create view of image '{label}'"
      (Driver.create .createView (.createView · ⟨image.any, info.format, aspect⟩))) :=
    .work fun _ ↦ Driver.adds_create rfl fun _ ↦ trivial
  refine hbind.lasts_bind hmade fun _ ↦ .bind (hview.beside hmade meets_called) fun view ↦ ?_
  exact .pure fun _ hh ↦ ⟨hh.1, hh.2⟩

end Image

/-! ### Textures -/

/-- The flag of a sample count is the count. -/
theorem eq_of_sampleFlag? {n : UInt32} {f : Flags} (h : sampleFlag? n = some f) : f = n := by
  rw [sampleFlag?] at h
  split at h <;> cases h
  rfl

theorem mem_of_sampleFlag? {n : UInt32} {f : Flags} (h : sampleFlag? n = some f) :
    n ∈ sampleCounts := by
  rw [sampleFlag?] at h
  split at h
  · next hn => exact List.contains_iff_mem.1 hn
  · cases h

namespace Texture

variable {ctx : Context} {d : TextureDesc}

/-- The images of the texture have its size, and its samples or a single one. -/
structure IsBacked (t : Texture) (calls : List Call) : Prop where
  /-- The image rendered into. -/
  color : t.color.view.IsBacked t.extent t.samples calls
  /-- The image resolved into. -/
  resolve : ∀ i, t.resolve = some i → i.view.IsBacked t.extent 1 calls
  /-- The depth buffer. -/
  depth : ∀ f i, t.depth = some (f, i) → i.view.IsBacked t.extent t.samples calls

theorem lasts_isBacked (t : Texture) : Lasts t.IsBacked := fun _ _ hl h ↦
  ⟨t.color.view.lasts_isBacked hl h.color,
    fun i hi ↦ i.view.lasts_isBacked hl (h.resolve i hi),
    fun f i hi ↦ i.view.lasts_isBacked hl (h.depth f i hi)⟩

/-- The images of the texture were made for what it is for, and it has as many samples as there can
be. -/
structure IsMade (ctx : Context) (t : Texture) (calls : List Call) : Prop where
  /-- Samples per pixel. -/
  samples : t.samples ∈ sampleCounts
  /-- The image rendered into. -/
  color : t.color.IsMade ⟨ctx.formatCode t.format, t.extent, t.samples,
    colorUsage t.usage t.samples⟩ colorAspect calls
  /-- The image resolved into. -/
  resolve : ∀ i, t.resolve = some i → i.IsMade ⟨ctx.formatCode t.format, t.extent, 1,
    usageColor ||| usageSampled⟩ colorAspect calls
  /-- The depth buffer. -/
  depth : ∀ f i, t.depth = some (f, i) →
    i.IsMade ⟨ctx.formatCode f, t.extent, t.samples, usageDepth⟩ (depthAspect f) calls

theorem lasts_isMade (t : Texture) : Lasts (t.IsMade ctx) := fun _ _ hl h ↦
  ⟨h.samples, t.color.lasts_isMade hl h.color, fun i hi ↦ i.lasts_isMade hl (h.resolve i hi),
    fun f i hi ↦ i.lasts_isMade hl (h.depth f i hi)⟩

theorem IsMade.backed {t : Texture} (h : t.IsMade ctx l) : t.IsBacked l where
  color := h.color.backed
  resolve i hi := (h.resolve i hi).backed
  depth f i hi := (h.depth f i hi).backed

/-- A mark is no matter of images. -/
theorem IsMade.mark {t : Texture} (h : t.IsMade ctx l) (mark : Bool) :
    ({ t with resolved := mark } : Texture).IsMade ctx l :=
  ⟨h.samples, h.color, h.resolve, h.depth⟩

theorem made_createResolve :
    Meets (fun _ ↦ True) (createResolve ctx d) (fun o h ↦ ∀ i, o = some i →
      i.IsMade ⟨ctx.formatCode d.format, ⟨d.width, d.height⟩, 1, usageColor ||| usageSampled⟩
        colorAspect h.driver.calls) fun _ _ ↦ True := by
  refine .ite (fun _ ↦ ?_) fun _ ↦ ?_
  · exact .bind Image.made_create fun _ ↦ .pure fun _ hh _ hi ↦ Option.some.inj hi ▸ hh
  · exact .pure fun _ _ _ hi ↦ by cases hi

theorem made_createDepth {samples : Flags} :
    Meets (fun _ ↦ True) (createDepth ctx d samples) (fun o h ↦ ∀ f i, o = some (f, i) →
      i.IsMade ⟨ctx.formatCode f, ⟨d.width, d.height⟩, samples, usageDepth⟩ (depthAspect f)
        h.driver.calls) fun _ _ ↦ True := by
  rw [createDepth]
  split
  · exact .pure fun _ _ _ _ hi ↦ by cases hi
  · refine .bind Image.made_create fun image ↦ .pure fun _ hh f i hi ↦ ?_
    cases hi
    exact hh

theorem made_createImages (hsamples : d.samples ∈ sampleCounts) :
    Meets (fun _ ↦ True) (createImages ctx d d.samples) (fun t h ↦ t.IsMade ctx h.driver.calls)
      fun _ _ ↦ True := by
  refine .bind Image.made_create fun color ↦ meets_undone ?_
  refine .bind ((outsideFrames_createResolve : IsOutsideFrames .null _).beside color.lasts_isMade
    made_createResolve) fun resolve ↦ ?_
  have hcolor : Lasts (color.IsMade ⟨ctx.formatCode d.format, ⟨d.width, d.height⟩, d.samples,
      colorUsage d.usage d.samples⟩ colorAspect) := color.lasts_isMade
  have hboth := hcolor.and (N := fun l ↦ ∀ i, resolve = some i → i.IsMade
      ⟨ctx.formatCode d.format, ⟨d.width, d.height⟩, 1, usageColor ||| usageSampled⟩ colorAspect l)
    fun _ _ hl h i hi ↦ i.lasts_isMade hl (h i hi)
  refine .bind (meets_undone ((outsideFrames_createDepth : IsOutsideFrames .null _).beside hboth
    made_createDepth)) fun depth ↦ .pure fun _ hh ↦ ?_
  exact ⟨hsamples, hh.1.1, hh.1.2, hh.2⟩

theorem made_create :
    Meets (fun _ ↦ True) (create ctx d) (fun t h ↦ t.IsMade ctx h.driver.calls)
      fun _ _ ↦ True := by
  refine .bind (Keeps.ofChecked).lax fun _ ↦ ?_
  split
  · exact .refuse fun _ _ _ ↦ trivial
  · next samples hsamples =>
    have hcounted : d.samples ∈ sampleCounts := mem_of_sampleFlag? hsamples
    obtain rfl := eq_of_sampleFlag? hsamples
    refine .bind (made_createImages hcounted) fun t ↦ ?_
    refine .bind (meets_undone
      (t.outsideFrames_prepareForSampling.keeps_of_lasts t.lasts_isMade).lax) fun _ ↦ ?_
    exact .pure fun _ hh ↦ hh

theorem backed_create :
    Meets (fun _ ↦ True) (create ctx d) (fun t h ↦ t.IsBacked h.driver.calls)
      fun _ _ ↦ True :=
  made_create.post fun _ _ h ↦ h.backed

end Texture

/-! ### Passes -/

namespace Pass

/-- The shape of the pass and its images were made for the parts. -/
structure IsJoined (ctx : Context) (d : PassDesc) (parts : Parts) (p : Pass) (calls : List Call) :
    Prop where
  /-- The shape. -/
  renderPass : .createRenderPass p.renderPass (layoutOf ctx d parts).attachmentSet ∈ calls
  /-- The images. -/
  framebuffer : .createFramebuffer p.framebuffer
    ⟨p.renderPass, viewsOf parts, parts.first.extent⟩ ∈ calls

theorem joined_create {ctx : Context} {d : PassDesc} {textures : TextureMap} {limit : UInt32} :
    Meets (fun _ ↦ True) (create ctx d textures limit)
      (fun p h ↦ ∃ parts, partsOf d textures = .ok parts ∧ p.IsOf d parts ∧
        p.IsJoined ctx d parts h.driver.calls) fun _ _ ↦ True := by
  refine .bind (Keeps.ofChecked).lax fun _ ↦ ?_
  split
  · exact .refuse fun _ _ _ ↦ trivial
  · next parts hparts =>
    refine .bind meets_called fun pass ↦ ?_
    have hpass := lasts_mem (.createRenderPass pass (layoutOf ctx d parts).attachmentSet)
    have houtside : IsOutsideFrames .null
        (createFramebuffer pass (viewsOf parts) parts.first.extent) :=
          outsideFrames_createFramebuffer
    refine .bind (.undoingOnError (houtside.beside hpass meets_called) fun _ ↦ .any)
      fun framebuffer ↦ ?_
    refine (IsOutsideFrames.share : IsOutsideFrames .null _).lasts_bind
      (hpass.and (lasts_mem _)) fun _ ↦ ?_
    refine .pure fun _ hh ↦ ?_
    exact ⟨parts, hparts, ⟨rfl, rfl, rfl⟩, hh.1, hh.2⟩

end Pass

end RenderTargets.Vulkan
