import RenderTargets.Proofs.Device.DrawStates
import RenderTargets.Proofs.Vulkan.Device.Serving
import RenderTargets.Proofs.Vulkan.Owners
/-!
# Images that draws sample

When the GPU executes a draw, every image that was written into its descriptor set is in the layout
for reading. That rests on what is got ready when textures are made, and on the layouts that passes
leave behind (`Serves.layoutAfter_eq`), so it holds of whatever set is bound.

That the pass does not render into such an image rests on more: the device compares the textures of
the draw state with those of the pass, so the set has to be the one of **that** draw state. It is,
unless the set could not be had. Then a draw finds the set of an earlier pass, whose image may be
what is rendered into now (`attached_of_lacking`).
-/

namespace RenderTargets.Vulkan

open StepWith

variable {frames : AnyObject} {calls calls' : List Call} {ctx : Context} {info : PassBegin}
  {held : List Recorded}

/-- A list around one of its elements. -/
theorem eq_append_of_getElem? {α : Type} {l : List α} {n : ℕ} {a : α} (h : l[n]? = some a) :
    l = l.take n ++ a :: l.drop (n + 1) := by
  obtain ⟨hn, rfl⟩ := List.getElem?_eq_some_iff.1 h
  rw [← List.drop_eq_getElem_cons hn, List.take_append_drop]

/-- A set is lacking only after one could not be made. -/
theorem LacksSet.exists_failed (h : LacksSet calls) :
    ∃ wanted code, .failed .allocateDescriptorSets wanted code ∈ calls := by
  fun_induction LacksSet calls with
  | case2 wanted code => exact ⟨wanted, code, List.mem_cons_self⟩
  | case5 c past _ _ _ ih => exact (ih h).imp fun _ ↦ .imp fun _ ↦ List.mem_cons_of_mem c
  | _ => exact h.elim

/-! ### What draws use -/

/-- The descriptor was written into the set. -/
structure DescriptorWrite.IsIn (w : DescriptorWrite) (set : Object .descriptorSet)
    (calls : List Call) : Prop where
  /-- The set. -/
  set : w.set = set
  /-- It was written. -/
  written : ∃ writes, .updateSets writes ∈ calls ∧ w ∈ writes

/-- The bindings at which the bound pipeline takes images. -/
def bindingsOf (held : List Recorded) (calls : List Call) : Option (List UInt32) :=
  (pipelineOf held).bind fun pipeline ↦ (Making.pipeline.of? pipeline calls).bind fun built ↦
    (Making.pipelineLayout.of? built.layout calls).bind fun (set, _) ↦
      Making.setLayout.of? set calls

theorem Pipeline.IsBuilt.bindingsOf_eq {p : Pipeline} (h : p.IsBuilt ctx calls)
    (hfair : Fair frames calls) (hbound : pipelineOf held = some p.pipeline) :
    bindingsOf held calls = some p.bindings := by
  obtain ⟨built, hbuilt, hlayout, -⟩ := h.made
  obtain ⟨push, hpush⟩ := h.layout
  have hpipeline : Making.pipeline.of? p.pipeline calls = some built :=
    hfair.of?_eq_some_iff.2 hbuilt
  have htakes : Making.pipelineLayout.of? p.layout calls = some (p.setLayout, push) :=
    hfair.of?_eq_some_iff.2 hpush
  rw [bindingsOf, hbound, Option.bind_some, hpipeline, Option.bind_some, hlayout, htakes]
  exact hfair.of?_eq_some_iff.2 h.bindings

theorem Object.any_inj {kind : ObjectKind} {o o' : Object kind} (h : o.any = o'.any) : o = o' := by
  cases o
  cases o'
  cases h
  rfl

/-- The pass renders into the image. -/
def PassBegin.Attaches (info : PassBegin) (image : Object .image) (calls : List Call) : Prop :=
  ∃ p ∈ info.attachments calls, p.2.image? calls = some image.any

instance {info : PassBegin} {image : Object .image} {calls : List Call} :
    Decidable (info.Attaches image calls) :=
  inferInstanceAs (Decidable (∃ p ∈ info.attachments calls, p.2.image? calls = some image.any))

theorem PassBegin.exists_of_mem_attachments {p : Attachment × Object .view}
    (h : p ∈ info.attachments calls) :
    ∃ framebuffer, .createFramebuffer info.framebuffer framebuffer ∈ calls ∧
      p.2 ∈ framebuffer.views := by
  rw [attachments] at h
  split at h
  · next framebuffer _ hframebuffer =>
    exact ⟨framebuffer, Making.mem_of_of?_eq_some hframebuffer, (List.of_mem_zip h).2⟩
  · cases h

namespace Device

variable {d : Device} {a : ActivePass}

/-- A pass does not render into the image of a texture that it does not name. -/
theorem Targets.not_attaches {owner : Object .image → TextureId} {id : TextureId} {x : Texture}
    {i : Image} {v : Object .view} (h : d.Targets a info) (hd : d.Evident calls)
    (howner : d.Ownership owner calls) (hfair : Fair frames calls') (hl : calls <:+ calls')
    (hx : d.textures.get? id = some x) (hi : x.sampledImage? = some i)
    (hv : v.Reads i.image calls) (hid : id ∉ a.attachments) : ¬info.Attaches i.image calls' := by
  rintro ⟨⟨_, v'⟩, hp, himage⟩
  obtain ⟨made, hmade, hv'⟩ := PassBegin.exists_of_mem_attachments hp
  -- The attachments are those that the framebuffer was made of, which was made once.
  have hviews {made' : FramebufferInfo}
      (hmade' : .createFramebuffer info.framebuffer made' ∈ calls) : v' ∈ made'.views := by
    have hcall := hfair.call_unique hmade (hl.subset hmade') rfl rfl rfl
    obtain ⟨-, rfl⟩ := Call.createFramebuffer.inj hcall
    exact hv'
  have hread (hunread : v'.IsUnread calls) : False :=
    (v'.lasts_isUnread hl.subset hunread).image?_ne hfair (hv.suffix hl) himage
  cases h with
  | offscreen found _ attachments _ _ _ framebuffer =>
    obtain ⟨made', hmade', hrenders⟩ := howner.passes found
    rcases hrenders v' (hviews (framebuffer ▸ hmade')) with hunread | ⟨image, hview, howns⟩
    · exact hread hunread
    · obtain ⟨format, aspect, hview⟩ := hview.view
      have he := Option.some.inj ((hfair.image?_eq_some (hl.subset hview)).symm.trans himage)
      obtain rfl := Object.any_inj he
      have hname := howner.textures hx (Texture.mem_images_of_sampledImage? hi)
      exact hid (attachments ▸ hname ▸ howns)
  | screen _ _ _ framebuffer =>
    obtain ⟨views, extent, hmade', hunread⟩ := hd.screen.framebuffers _ framebuffer
    exact hread (hunread v' (hviews hmade'))

variable {l : List (GraphicsDevice.Command × Option ResourceId)} {s t : Device × Host}
  {later past : List Call} {queue : Object .queue} {work : Submission} {fence : Object .fence}
  {r : Recorded} {pre post : List Recorded} {u : Option DrawState} {b : Object .commandBuffer}
  {p : Pipeline}

/-- Whatever is in a set that was written for textures is what one of them is sampled through. -/
theorem exists_samples_of_isIn {ids : List TextureId} {views : List (Object .view)}
    {sampler : Object .sampler} {set : Object .descriptorSet} {w : DescriptorWrite}
    (hserves : Serves calls) (hfair : Fair frames calls) (hneeds : p.bindings ≠ [])
    (enough : p.bindings.length ≤ views.length) (sampled : List.Forall₂ d.Samples ids views)
    (written : .updateSets (p.writes sampler set views) ∈ calls) (hw : w.IsIn set calls) :
    ∃ id ∈ ids, d.Samples id w.view := by
  obtain ⟨writes, hwrites, hmem⟩ := hw.written
  -- The descriptor was written together with those of the textures, of which there is one.
  obtain ⟨binding, bindings, hbindings⟩ := List.exists_cons_of_ne_nil hneeds
  obtain ⟨view, views', rfl⟩ : ∃ view views', views = view :: views' := by
    refine List.exists_cons_of_ne_nil fun hnil ↦ ?_
    rw [hnil, hbindings] at enough
    cases enough
  have hfirst : ⟨set, binding, sampler, view⟩ ∈ p.writes sampler set (view :: views') := by
    rw [Pipeline.writes, hbindings]
    exact List.mem_cons_self
  obtain rfl := hserves.writes_unique hfair hwrites hmem written hfirst hw.set
  obtain ⟨⟨_, v⟩, hzip, rfl⟩ := List.mem_map.1 hmem
  exact exists_of_forall₂ sampled (List.of_mem_zip hzip).2

/-- A set that is written for a draw state shows nothing that the pass renders into. -/
theorem Drawing.not_attaches (h : Drawing u b a p s) (hs : Reached l s)
    (hl : s.2.driver.calls <:+ calls) (hfair : Fair frames calls) (hserves : Serves calls)
    (hneeds : p.bindings ≠ []) (hset : ¬LacksSet s.2.driver.calls) :
    ∃ layout set info, ownSetOf (contents b s.2.driver.calls) = some (layout, set) ∧
      passOf (contents b s.2.driver.calls) = some info ∧
        ∀ (w : DescriptorWrite) (image : Object .image), w.IsIn set calls →
        w.view.image? calls = some image.any → ¬info.Attaches image calls := by
  obtain ⟨info, hinfo, htarget⟩ := h.target
  have hevident := hs.evident
  obtain ⟨owner, howner⟩ := hs.ownership
  cases h.set with
  | unneeded needs => exact (hneeds needs).elim
  | lacking lacks => exact (hset lacks).elim
  | @own state set views _ bound written enough sampled apart =>
    refine ⟨p.layout, set, info, bound, hinfo, fun w image hw himage ↦ ?_⟩
    obtain ⟨id, hid, hsamples⟩ :=
      exists_samples_of_isIn hserves hfair hneeds enough sampled (hl.subset written) hw
    obtain ⟨t, i, ht, hi, -, hreads⟩ := hsamples.reads hevident
    obtain ⟨format, aspect, hview⟩ := (hreads.suffix hl).view
    have he := Option.some.inj ((hfair.image?_eq_some hview).symm.trans himage)
    obtain rfl := Object.any_inj he
    exact htarget.not_attaches hevident howner hfair hl ht hi hreads (apart id hid)

/-- **What a draw finds in its set when it is executed.** Every image in the set that is bound is in
the layout for reading. If the pipeline takes images, and its set could be had, that set was bound
for the draw, and the pass renders into none of its images. -/
theorem Reached.sampled_of_submit (h : Reached l t)
    (hcalls : t.2.driver.calls = later ++ .submit queue work fence :: past)
    (hheld : contents work.commands past = post ++ r :: pre) (hr : r.IsDraw) :
    (∀ layout set (w : DescriptorWrite), setOf pre = some (layout, set) → w.IsIn set past →
      ∃ image : Object .image, w.view.image? past = some image.any ∧
        layoutAfter image past (pre ++ executed past) = layoutShaderRead) ∧
    (bindingsOf pre past = some [] ∨
      (∃ earlier, earlier <:+ past ∧ contents work.commands earlier = pre ∧ LacksSet earlier) ∨
      ∃ layout set info, ownSetOf pre = some (layout, set) ∧ passOf pre = some info ∧
        ∀ (w : DescriptorWrite) (image : Object .image), w.IsIn set past →
          w.view.image? past = some image.any → ¬info.Attaches image past) := by
  have hserves : Serves past := by
    have hall := h.serves
    rw [hcalls] at hall
    exact hall.of_append.1
  have hfair : Fair t.1.framePool.any past := by
    have hall := Books.fair h.sound.2
    rw [hcalls] at hall
    exact hall.of_append.1
  constructor
  · rintro layout set w - ⟨-, writes, hwrites, hw⟩
    obtain ⟨image, hreads⟩ := hserves.reads hwrites hw
    obtain ⟨format, aspect, hview⟩ := hreads.view
    refine ⟨image, hfair.image?_eq_some hview, ?_⟩
    have hbefore : contents work.commands past = (post ++ [r]) ++ pre := by
      rw [hheld, List.append_assoc, List.singleton_append]
    exact hserves.layoutAfter_eq hfair hreads hbefore
  · -- What is known of the draw is known since it was recorded.
    obtain ⟨between, earlier, rfl, hpre⟩ := exists_record_of_contents hheld
    have hrecorded : t.2.driver.calls = (later ++ .submit queue work fence :: between) ++
        .record work.commands r :: earlier := by
      rw [hcalls, List.append_assoc, List.cons_append]
    obtain ⟨l', after, s, a, p, -, hs, rfl, hdrawing⟩ := h.exists_drawing hrecorded hr
    have hsuffix : s.2.driver.calls <:+ between ++ .record work.commands r :: s.2.driver.calls :=
      ⟨between ++ [.record work.commands r], by simp⟩
    obtain ⟨id, -, hfound⟩ := hdrawing.pipeline
    have hbuilt := Pipeline.lasts_isBuilt p hsuffix.subset (hs.evident.pipelines hfound)
    by_cases hneeds : p.bindings = []
    · refine .inl (hneeds ▸ hbuilt.bindingsOf_eq hfair ?_)
      exact hpre ▸ hdrawing.bound
    by_cases hset : LacksSet s.2.driver.calls
    · exact .inr (.inl ⟨_, hsuffix, hpre, hset⟩)
    · refine .inr (.inr ?_)
      rw [← hpre]
      exact hdrawing.not_attaches hs hsuffix hfair hserves hneeds hset

/-! ### Two textures that take turns -/

/-- What happens when a texture is drawn from the other, and then the other from it. -/
def exchange : List GraphicsDevice.Command :=
  let target (id : TextureId) : PassDesc := ⟨"pass", [⟨id, .black⟩], none, .one, 0, .store⟩
  let texture (name : String) : TextureDesc :=
    ⟨name, 4, 4, .rgba8Unorm, .sampledAndRenderTarget, 1, none⟩
  [.createMesh (.fullScreenQuad true), .createShader GraphicsDevice.samplingShader,
   .createPipeline (plainPipeline ⟨1, .rgba8Unorm, none, 1⟩),
   .createTexture (texture "front"), .createTexture (texture "back"),
   .createPass (target ⟨1, 1⟩), .createPass (target ⟨2, 1⟩),
   .beginPass (some ⟨1, 1⟩) {}, .applyDrawState ⟨⟨1, 1⟩, ⟨1, 1⟩, [⟨2, 1⟩]⟩, .draw 0, .endPass,
   .beginPass (some ⟨2, 1⟩) {}, .applyDrawState ⟨⟨1, 1⟩, ⟨1, 1⟩, [⟨1, 1⟩]⟩, .draw 0, .endPass,
   .commitFrame]

/-- The second of the two draws, with what its buffer holds before it and what was done before the
buffer was handed over. -/
theorem exists_exchange (script : List Failure) (check : List Recorded → List Call → Bool)
    (h : (match create plainWindow ⟨640, 480⟩ {} false (plainHost plainSurface script) with
      | .ok d k => (settleAll (exchange.map GraphicsDevice.Command.answer) (d, k)).any fun t ↦
          -- The frame was presented, and its last pass is into the screen.
          let past := t.2.driver.calls.drop 2
          t.2.driver.calls[1]? == some (.submit ⟨1⟩ ⟨[(⟨1⟩, 1024)], ⟨1⟩, [⟨3⟩]⟩ ⟨1⟩) &&
          ((contents ⟨1⟩ past)[5]? == some (.drawIndexed 6 0) &&
          check ((contents ⟨1⟩ past).drop 6) past)
      | .error _ _ => false) = true) :
    ∃ l later queue work fence past post pre, ∃ t : Device × Host, Reached l t ∧
      t.2.driver.calls = later ++ .submit queue work fence :: past ∧
      contents work.commands past = post ++ .drawIndexed 6 0 :: pre ∧ check pre past = true := by
  obtain ⟨s, hs, hcheck⟩ := exists_new plainSurface script
    (fun s ↦ (settleAll (exchange.map GraphicsDevice.Command.answer) s).any _) h
  obtain ⟨t, ht, hcheck⟩ := GraphicsDevice.exists_accepted IsNew Happens hs hcheck
  obtain ⟨hsubmit, hcheck⟩ := Bool.and_eq_true_iff.1 hcheck
  obtain ⟨hdraw, hpre⟩ := Bool.and_eq_true_iff.1 hcheck
  exact ⟨_, _, _, ⟨[(⟨1⟩, 1024)], ⟨1⟩, [⟨3⟩]⟩, _, _, _, _, t, ht,
    eq_append_of_getElem? (eq_of_beq hsubmit), eq_append_of_getElem? (eq_of_beq hdraw), hpre⟩

/-- Each of the textures is drawn from the other, which the pass does not render into. -/
theorem sampled_of_exchange :
    ∃ l later queue work fence past post pre, ∃ t : Device × Host, Reached l t ∧
      t.2.driver.calls = later ++ .submit queue work fence :: past ∧
      contents work.commands past = post ++ .drawIndexed 6 0 :: pre ∧
      ownSetOf pre = some (⟨1⟩, ⟨2⟩) ∧ DescriptorWrite.IsIn ⟨⟨2⟩, 0, ⟨1⟩, ⟨5⟩⟩ ⟨2⟩ past ∧
      (∀ w : DescriptorWrite, w.IsIn ⟨2⟩ past →
        ∃ image : Object .image, w.view.image? past = some image.any ∧
          layoutAfter image past (pre ++ executed past) = layoutShaderRead) ∧
      ∃ info, passOf pre = some info ∧
        ∀ (w : DescriptorWrite) (image : Object .image), w.IsIn ⟨2⟩ past →
          w.view.image? past = some image.any → ¬info.Attaches image past := by
  obtain ⟨l, later, queue, work, fence, past, post, pre, t, ht, hcalls, hheld, hcheck⟩ :=
    exists_exchange [] (fun pre past ↦
      decide (.updateSets [⟨⟨2⟩, 0, ⟨1⟩, ⟨5⟩⟩] ∈ past) && (ownSetOf pre == some (⟨1⟩, ⟨2⟩) &&
      (bindingsOf pre past != some [] && past.all (·.failedName?.isNone)))) (by decide +kernel)
  simp only [Bool.and_eq_true, beq_iff_eq, bne_iff_ne, decide_eq_true_eq] at hcheck
  obtain ⟨hwritten, hown, hneeds, hall⟩ := hcheck
  have hlacks {earlier : List Call} (hsuffix : earlier <:+ past) : ¬LacksSet earlier := fun h ↦ by
    obtain ⟨_, _, hfailed⟩ := h.exists_failed
    cases List.all_eq_true.1 hall _ (hsuffix.subset hfailed)
  obtain ⟨hlayout, hset⟩ := Reached.sampled_of_submit ht hcalls hheld trivial
  refine ⟨l, later, queue, work, fence, past, post, pre, t, ht, hcalls, hheld, hown,
    ⟨rfl, _, hwritten, List.mem_singleton_self _⟩,
    fun w ↦ hlayout _ _ w (setOf_of_ownSetOf hown), ?_⟩
  rcases hset with hnone | ⟨earlier, hsuffix, -, hlack⟩ | ⟨layout, set, info, hset, hinfo, hapart⟩
  · exact (hneeds hnone).elim
  · exact (hlacks hsuffix hlack).elim
  · obtain ⟨-, rfl⟩ := Prod.mk.inj (Option.some.inj (hown.symm.trans hset))
    exact ⟨info, hinfo, hapart⟩

/-- The set for the second draw could not be had. The draw was recorded all the same, and reads the
image that its pass renders into. -/
theorem attached_of_lacking :
    ∃ l later queue work fence past post pre, ∃ t : Device × Host, Reached l t ∧
      t.2.driver.calls = later ++ .submit queue work fence :: past ∧
      contents work.commands past = post ++ .drawIndexed 6 0 :: pre ∧
      ∃ (layout : Object .pipelineLayout) (w : DescriptorWrite) (image : Object .image) (info : _),
        bindingsOf pre past = some [w.binding] ∧ setOf pre = some (layout, w.set) ∧
        w.IsIn w.set past ∧ w.view.image? past = some image.any ∧
        passOf pre = some info ∧ info.Attaches image past := by
  have hrun := exists_exchange [⟨.allocateDescriptorSets, 2, ⟨-1000069000⟩⟩] (fun pre past ↦
    decide (.updateSets [⟨⟨1⟩, 0, ⟨1⟩, ⟨6⟩⟩] ∈ past) && (setOf pre == some (⟨1⟩, ⟨1⟩) &&
    (bindingsOf pre past == some [0] &&
    ((⟨6⟩ : Object .view).image? past == some ((⟨3⟩ : Object .image).any) &&
    (passOf pre).any (decide <| ·.Attaches ⟨3⟩ past))))) (by decide +kernel)
  obtain ⟨l, later, queue, work, fence, past, post, pre, t, ht, hcalls, hheld, hcheck⟩ := hrun
  simp only [Bool.and_eq_true, beq_iff_eq, decide_eq_true_eq] at hcheck
  obtain ⟨hwritten, hset, hbindings, himage, hinfo⟩ := hcheck
  obtain ⟨info, hinfo, hattaches⟩ := (Option.any_eq_true _ _).1 hinfo
  exact ⟨l, later, queue, work, fence, past, post, pre, t, ht, hcalls, hheld, ⟨1⟩,
    ⟨⟨1⟩, 0, ⟨1⟩, ⟨6⟩⟩, ⟨3⟩, info, hbindings, hset, ⟨rfl, _, hwritten, List.mem_singleton_self _⟩,
    himage, hinfo, of_decide_eq_true hattaches⟩

end Device

end RenderTargets.Vulkan
