import RenderTargets.Proofs.Vulkan.Device.Follows
import RenderTargets.Proofs.Vulkan.Device.Evident
import RenderTargets.Proofs.Vulkan.Lives
import RenderTargets.Proofs.Vulkan.Positions
/-!
# Pipelines that fit their passes

A pipeline may be used in a render pass instance if the shape that it was built for is
`AttachmentSet.Compatible` with the shape of the pass: they refer to attachments of the same formats
and samples, in the same order. What is resolved, cleared or stored does not matter, nor do layouts.

A device compares signatures only, of four fields, and the formats that it compares are those of the
engine. The shapes are made from other descriptions, by other code. They are compatible all the
same, for every draw that is recorded (`Device.Reached.compatible_of_draw`).
-/

namespace RenderTargets.Vulkan

open StepWith Run

/-! ### Shapes -/

namespace AttachmentSet

variable {s t : AttachmentSet} {r q : AttachmentRef} {a : Attachment}

/-- The reference is to the attachment. -/
def Refers (s : AttachmentSet) (r : AttachmentRef) (a : Attachment) : Prop :=
  ∃ i : ℕ, s.attachments[i]? = some a ∧ r.index = .ofNat i

/-- A reference is to one attachment only, unless there are more attachments than words. -/
theorem refers_iff (h : s.attachments.length ≤ UInt32.size) :
    s.Refers r a ↔ s.attachments[r.index.toNat]? = some a := by
  constructor
  · rintro ⟨i, hi, hr⟩
    have hlt : i < UInt32.size := (List.getElem?_eq_some_iff.1 hi).1.trans_le h
    rw [hr, UInt32.toNat_ofNat_of_lt' hlt]
    exact hi
  · intro ha
    exact ⟨_, ha, UInt32.ofNat_toNat.symm⟩

/-- The references are to attachments of the same format and samples. -/
def AgreesAt (s t : AttachmentSet) (r q : AttachmentRef) : Prop :=
  ∃ a b, s.Refers r a ∧ t.Refers q b ∧ a.format = b.format ∧ a.samples = b.samples

/-- Pipelines for one of the shapes can be used in passes of the other. -/
structure Compatible (s t : AttachmentSet) : Prop where
  /-- They render into as many attachments, which are alike. -/
  colors : List.Forall₂ (s.AgreesAt t) s.colors t.colors
  /-- Both have a depth buffer, or none. -/
  depth : Option.Rel (s.AgreesAt t) s.depth t.depth

end AttachmentSet

namespace PassLayout

variable {l l' : PassLayout} {f : Code}

/-- A color reference is to an attachment of its format. -/
theorem refers_color {i : ℕ} (layout : Code) (hi : i < l.colors.length) :
    ∃ a, l.attachmentSet.Refers ⟨.ofNat (0 + i), layout⟩ a ∧
      some a.format = (l.colors.map Prod.fst)[i]? ∧ a.samples = l.samples := by
  have hlt : i < l.colorAttachments.length := l.length_colorAttachments ▸ hi
  refine ⟨l.colorAttachments[i], ⟨i, ?_, by rw [Nat.zero_add]⟩, ?_, ?_⟩
  · rw [attachmentSet, getElem?_first hlt, List.getElem?_eq_getElem hlt]
  · simp [colorAttachments, hi]
  · simp [colorAttachments]

/-- So is the reference to the depth buffer. -/
theorem refers_depth (hf : l.depthFormat = some f) : ∃ r a, l.attachmentSet.depth = some r ∧
    l.attachmentSet.Refers r a ∧ a.format = f ∧ a.samples = l.samples := by
  refine ⟨_, l.depthAttachment f, by rw [attachmentSet, hf]; rfl, ⟨_, ?_, rfl⟩, rfl, rfl⟩
  rw [attachmentSet, hf]
  exact getElem?_last

/-- **Only formats and samples matter.** -/
theorem compatible_of_formats (hcolors : l.colors.map Prod.fst = l'.colors.map Prod.fst)
    (hsamples : l.samples = l'.samples) (hdepth : l.depthFormat = l'.depthFormat) :
    l.attachmentSet.Compatible l'.attachmentSet where
  colors := by
    have hlength : l.colors.length = l'.colors.length := by
      simpa using congrArg List.length hcolors
    show List.Forall₂ _ (refs 0 l.colorAttachments.length _) (refs 0 l'.colorAttachments.length _)
    rw [length_colorAttachments, length_colorAttachments, ← hlength, refs,
      List.forall₂_map_left_iff, List.forall₂_map_right_iff, List.forall₂_same]
    intro i hi
    have hi : i < l.colors.length := List.mem_range.1 hi
    obtain ⟨a, ha, hformat, hcount⟩ := refers_color layoutColorAttachment hi
    obtain ⟨b, hb, hformat', hcount'⟩ := refers_color layoutColorAttachment (hlength ▸ hi)
    refine ⟨a, b, ha, hb, Option.some.inj ?_, ?_⟩
    · rw [hformat, hformat', hcolors]
    · rw [hcount, hcount', hsamples]
  depth := by
    rcases hf : l.depthFormat with _ | f
    · rw [attachmentSet, attachmentSet, ← hdepth, hf]
      exact .none
    · obtain ⟨r, a, hr, ha, hformat, hcount⟩ := refers_depth hf
      obtain ⟨q, b, hq, hb, hformat', hcount'⟩ := refers_depth (hdepth ▸ hf)
      rw [hr, hq]
      exact .some ⟨a, b, ha, hb, hformat.trans hformat'.symm,
        hcount.trans (hsamples.trans hcount'.symm)⟩

end PassLayout

/-- The shape of the render pass instance that the commands end in. -/
def passShape (held : List Recorded) (calls : List Call) : Option AttachmentSet :=
  (passOf held).bind fun info ↦ Making.renderPass.of? info.pass calls

/-- The shape that the bound pipeline was built for. -/
def pipelineShape (held : List Recorded) (calls : List Call) : Option AttachmentSet :=
  (pipelineOf held).bind fun pipeline ↦ (Making.pipeline.of? pipeline calls).bind fun built ↦
    Making.renderPass.of? built.pass calls

/-! ### Passes of a device -/

variable {ctx : Context} {calls : List Call}

namespace Pass

/-- The shape of a pass is compatible with what stands in for its signature. -/
theorem IsFormedOf.compatible {d : PassDesc} {parts : Parts} {p : Pass}
    (h : p.IsFormedOf ctx d parts calls) :
    (Pipeline.standIn ctx p.signature p.signature.samples).attachmentSet.Compatible
      (layoutOf ctx d parts).attachmentSet := by
  obtain ⟨m, hparts⟩ := h.fit
  obtain ⟨limit, hvalid⟩ := h.valid
  have hfit := fit_of_partsOf hparts
  have hlength : d.textures.length = parts.colors.length := by
    rw [length_colors_of_partsOf hparts, PassDesc.textures, List.length_map]
  have hlt : d.textures.length < UInt32.size := by
    rw [PassDesc.textures, List.length_map]
    exact (PassDesc.length_of_validate hvalid).2.trans_lt limit.toNat_lt_size
  rw [h.made.signature]
  refine PassLayout.compatible_of_formats ?_ ?_ ?_
  · -- All attachments have the format of the first.
    have hformats : parts.colors.map (fun t ↦ ctx.formatCode t.format) =
        List.replicate parts.colors.length (ctx.formatCode parts.first.format) := by
      refine List.eq_replicate_iff.2 ⟨by simp, fun f hf ↦ ?_⟩
      obtain ⟨t, ht, rfl⟩ := List.mem_map.1 hf
      rw [(isLike_iff.1 (hfit.isLike t ht)).2.2]
    simp only [Pipeline.standIn, PassLayout.compatible, layoutOf, List.map_replicate, List.map_map]
    rw [UInt32.toNat_ofNat_of_lt' hlt, hlength]
    exact hformats.symm
  · exact (full_of_partsOf hparts).1.symm
  · rfl

end Pass

/-- So is the shape of the pass into the screen. -/
theorem Swapchain.IsFurnished.compatible {s : Swapchain} (h : s.IsFurnished ctx calls) :
    (Pipeline.standIn ctx ⟨1, s.colorFormat, some screenDepthFormat, 1⟩ 1).attachmentSet.Compatible
      (passLayout ctx s.surfaceFormat.format).attachmentSet := by
  refine PassLayout.compatible_of_formats ?_ rfl rfl
  rw [passLayout, h.format]
  rfl

namespace Device

variable {l : List (GraphicsDevice.Command × Option ResourceId)} {s t : Device × Host}
  {later past : List Call} {b : Object .commandBuffer} {r : Recorded} {d : Device} {a : ActivePass}
  {info : PassBegin}

/-- A pass that a device begins has a shape that is compatible with its signature. -/
theorem Targets.exists_shape (h : d.Targets a info) (hd : d.Evident calls) :
    ∃ shape, .createRenderPass info.pass shape ∈ calls ∧
      (Pipeline.standIn d.context a.signature a.signature.samples).attachmentSet.Compatible
        shape := by
  cases h with
  | offscreen found _ _ _ signature pass =>
    obtain ⟨desc, parts, hformed⟩ := hd.passes found
    exact ⟨_, pass ▸ hformed.joined.renderPass, signature ▸ hformed.compatible⟩
  | screen _ signature pass =>
    exact ⟨_, pass ▸ hd.screen.renderPass, signature ▸ hd.screen.compatible⟩

/-- **Every draw is recorded with a pipeline that fits the pass**: it was built for a shape that is
compatible with the one of the render pass instance. -/
theorem Reached.compatible_of_draw (h : Reached l t)
    (hcalls : t.2.driver.calls = later ++ .record b r :: past) (hr : r.IsDraw) :
    ∃ shape format count samples depthFormat,
      passShape (contents b past) past = some shape ∧
      pipelineShape (contents b past) past =
        some (PassLayout.compatible format count samples depthFormat).attachmentSet ∧
      (PassLayout.compatible format count samples depthFormat).attachmentSet.Compatible shape := by
  obtain ⟨l, after, s, a, p, rfl, hs, rfl, hdrawing⟩ := h.exists_drawing hcalls hr
  obtain ⟨info, hinfo, htarget⟩ := hdrawing.target
  obtain ⟨id, -, hfound⟩ := hdrawing.pipeline
  have hevident := hs.evident
  have hfair := Books.fair hs.sound.2
  obtain ⟨shape, hshape, hcompatible⟩ := htarget.exists_shape hevident
  obtain ⟨built, hbuilt, -, hstandIn⟩ := (hevident.pipelines hfound).made
  have hpass : passShape (contents b s.2.driver.calls) s.2.driver.calls = some shape := by
    rw [passShape, hinfo]
    exact hfair.of?_eq_some_iff.2 hshape
  have hpipeline : pipelineShape (contents b s.2.driver.calls) s.2.driver.calls =
      some (Pipeline.standIn s.1.context p.signature p.signature.samples).attachmentSet := by
    have hinfo : Making.pipeline.of? p.pipeline s.2.driver.calls = some built :=
      hfair.of?_eq_some_iff.2 hbuilt
    rw [pipelineShape, hdrawing.bound, Option.bind_some, hinfo]
    exact hfair.of?_eq_some_iff.2 hstandIn
  rw [hdrawing.signature] at hpipeline
  exact ⟨shape, _, _, _, _, hpass, hpipeline, hcompatible⟩

/-- A quad is drawn into two textures that are resolved, with a depth buffer. -/
def resolvingDraw : List GraphicsDevice.Command :=
  [.createTexture ⟨"color", 4, 4, .rgba8Unorm, .sampledAndRenderTarget, 4, none⟩,
   .createTexture ⟨"layers", 4, 4, .rgba8Unorm, .sampledAndRenderTarget, 4, some .depth24Stencil8⟩,
   .createPass Pass.resolvingPass, .createMesh (.fullScreenQuad true), .createShader plainShader,
   .createPipeline (plainPipeline ⟨2, .rgba8Unorm, some .depth24Stencil8, 4⟩),
   .beginPass (some ⟨1, 1⟩) {}, .applyDrawState ⟨⟨1, 1⟩, ⟨1, 1⟩, []⟩, .draw 0]

/-- Its pass has five attachments, and the pipeline was built for three. -/
theorem compatible_of_resolvingDraw :
    ∃ l past, ∃ t : Device × Host, Reached l t ∧
      t.2.driver.calls = .record ⟨1⟩ (.drawIndexed 6 0) :: past ∧
      ∃ shape format count samples depthFormat,
        passShape (contents ⟨1⟩ past) past = some shape ∧ shape.attachments.length = 5 ∧
        pipelineShape (contents ⟨1⟩ past) past =
          some (PassLayout.compatible format count samples depthFormat).attachmentSet ∧
        (PassLayout.compatible format count samples depthFormat).attachmentSet.Compatible
          shape := by
  obtain ⟨s, hs, hcheck⟩ := exists_new plainSurface []
    (fun s ↦ (settleAll (resolvingDraw.map (·.answer)) s).any fun t ↦
      t.2.driver.calls.head? == some (.record ⟨1⟩ (.drawIndexed 6 0)) &&
      (passShape (contents ⟨1⟩ t.2.driver.calls.tail) t.2.driver.calls.tail).any fun shape ↦
        shape.attachments.length == 5) (by decide +kernel)
  obtain ⟨t, ht, hcheck⟩ := GraphicsDevice.exists_accepted IsNew Happens hs hcheck
  obtain ⟨hdraw, hfive⟩ := Bool.and_eq_true_iff.1 hcheck
  obtain ⟨past, hcalls⟩ := List.head?_eq_some_iff.1 (eq_of_beq hdraw)
  have hlast : t.2.driver.calls = [] ++ .record ⟨1⟩ (.drawIndexed 6 0) :: past := hcalls
  obtain ⟨shape, format, count, samples, depthFormat, hshape, hfits⟩ :=
    Reached.compatible_of_draw ht hlast trivial
  rw [hcalls, List.tail_cons, hshape] at hfive
  exact ⟨_, past, t, ht, hcalls, shape, format, count, samples, depthFormat, hshape,
    eq_of_beq hfive, hfits⟩

end Device

end RenderTargets.Vulkan
