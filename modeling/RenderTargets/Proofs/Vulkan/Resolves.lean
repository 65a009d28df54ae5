import RenderTargets.Proofs.Vulkan.Marks
import RenderTargets.Proofs.Vulkan.SampledImages
/-!
# Images that are resolved before they are sampled

A descriptor set is written for a draw state, just before it is bound, and what is written into it
are views of textures that can be sampled at that moment (`Reached.exists_binding`). So an image to
resolve into is in a set only if its texture has the mark, and behind the mark there is an instance
(`Reached.fated`). An instance that waits then waits in the buffer that the set is bound in, as no
other buffer is open.

Therefore, whatever a command buffer that was handed over draws with, the image was resolved into
before, in that buffer or in one that was handed over earlier, **unless an instance that resolves
into it was lost** (`Reached.resolved_of_submit`). The exception is real. A frame that fails as it
is committed takes its instances along, but not the marks that they left, and the texture is sampled
in the next frame although nothing was ever resolved into its image (`unresolved_of_lost`).
-/

namespace RenderTargets.Vulkan

open StepWith GraphicsDevice

variable {frames : AnyObject} {uploads : Object .commandPool} {held : List Recorded}
  {calls calls' later past l₀ : List Call} {layout : Object .pipelineLayout}
  {set : Object .descriptorSet} {b : Object .commandBuffer} {f : FrameSlot} {k k' : Host}
  {made : List ObjectKind}

/-! ### Bindings in a trace -/

theorem exists_bindSet_of_setOf (h : setOf held = some (layout, set)) :
    ∃ post pre, held = post ++ .bindSet layout set :: pre := by
  induction held with
  | nil => cases h
  | cons r held ih =>
    have hskip (h : setOf held = some (layout, set)) :
        ∃ post pre, r :: held = post ++ .bindSet layout set :: pre := by
      obtain ⟨post, pre, rfl⟩ := ih h
      exact ⟨r :: post, pre, rfl⟩
    cases r with
    | bindSet layout' set' =>
      cases h
      exact ⟨[], held, rfl⟩
    | _ => exact hskip h

/-- The binding of a pipeline and a mesh binds no set. -/
theorem FrameSlot.bindSet_notMem_binds {p : Pipeline} {m : Mesh} :
    .record b (.bindSet layout set) ∉ f.binds p m := by
  rw [FrameSlot.binds, Mesh.binds]
  cases m.indices <;> simp

/-- What a trace says of a view, a longer one says as well. -/
theorem Fair.image?_of_subset {v : Object .view} {o : AnyObject} (h : Fair frames calls')
    (hl : calls ⊆ calls') (hv : v.image? calls = some o) : v.image? calls' = some o := by
  obtain ⟨⟨_, format, aspect⟩, hview, rfl⟩ := Option.map_eq_some_iff.1 hv
  exact h.image?_eq_some (hl (Making.mem_of_of?_eq_some hview))

/-- An image that is rendered into has another usage than one that is resolved into. -/
theorem Texture.colorUsage_ne {usage : TextureUsage} {samples : UInt32} :
    colorUsage usage samples ≠ usageColor ||| usageSampled := by
  rw [colorUsage]
  cases usage.isRendered <;> cases usage.isSampled && decide (samples ≤ 1) <;> decide

namespace Device

variable {d : Device} {s t u : Device × Host} {cs : List GraphicsDevice.Command}
  {l l' : List (GraphicsDevice.Command × Option ResourceId)} {c : GraphicsDevice.Command}
  {image : Object .image}

/-- In this state a set was bound into the buffer for a draw state, right after it was written. -/
inductive Binds (s : Device × Host) (b : Object .commandBuffer) (layout : Object .pipelineLayout)
    (set : Object .descriptorSet) (past : List Call) : Prop
  | intro {a f state p m views} (active : s.1.active = some a) (recording : a.recording = true)
      (slot : s.1.slots[s.1.slotIndex]? = some f) (buffer : f.commands = b)
      (fits : s.1.Fits a state p m views) (layout : p.layout = layout) (needs : p.bindings ≠ [])
      (calls : past = .updateSets (p.writes s.1.sampler set views) ::
        .allocateDescriptorSet set f.pool p.setLayout :: (f.binds p m ++ s.2.driver.calls))

/-- A set that is bound was bound before the move, or for the draw state that the move binds. -/
theorem Move.binding_cases (h : Move cs s t)
    (hcalls : t.2.driver.calls = later ++ .record b (.bindSet layout set) :: past) :
    (∃ earlier, s.2.driver.calls = earlier ++ .record b (.bindSet layout set) :: past) ∨
      (∃ state, cs = [.applyDrawState state]) ∧ Binds s b layout set past := by
  cases h with
  | note | next | enterUntargeted | leaveUntargeted => exact .inl ⟨later, hcalls⟩
  | bindUntargeted _ _ _ rests => exact .inl ⟨later, rests ▸ hcalls⟩
  | outsideFrames grows | release _ _ grows => exact .inl (grows.record_before id hcalls)
  | make stores => exact .inl (stores.grows.record_before id hcalls)
  | screen _ works =>
    have hgrows : Driver.Grows .null _ _ := works.grows
    exact .inl (hgrows.record_before id hcalls)
  | begin _ _ _ gains | submit _ _ _ gains | leave _ _ _ gains =>
    exact .inl (gains.call_before (by simp) hcalls)
  | enter _ _ _ _ gains => exact .inl (gains.call_before (by simp [beginsOf]) hcalls)
  | stall _ _ gains steps =>
    exact .inl (gains.call_before (fun hmem ↦ steps _ hmem) hcalls)
  | record _ _ _ records gains =>
    refine .inl (gains.call_before (fun hmem ↦ ?_) hcalls)
    obtain ⟨rfl, rfl⟩ := Call.record.inj (List.mem_singleton.1 hmem)
    exact records.isPlain
  | misbind _ _ _ _ _ gains =>
    exact .inl (gains.call_before (by simp [FrameSlot.bindSet_notMem_binds]) hcalls)
  | @bind d k a state p m views f made l k' active recording slot fits fetches gains =>
    cases fetches with
    | unneeded => exact .inl (gains.call_before FrameSlot.bindSet_notMem_binds hcalls)
    | made needs =>
      have hall : k'.driver.calls = _ :: (_ :: _ :: f.binds p m ++ k.driver.calls) := gains.calls
      rw [hall] at hcalls
      -- The set is bound by the last of the calls.
      cases later with
      | nil =>
        obtain ⟨hrecord, hpast⟩ := List.cons.inj hcalls
        obtain ⟨hb, hbind⟩ := Call.record.inj hrecord
        obtain ⟨hlayout, rfl⟩ := Recorded.bindSet.inj hbind
        exact .inr ⟨⟨state, rfl⟩, .intro active recording slot hb fits hlayout needs hpast.symm⟩
      | cons c later =>
        exact .inl (exists_append_of_notMem (by simp [FrameSlot.bindSet_notMem_binds])
          (List.cons.inj hcalls).2)

theorem Moves.bindSet_before (h : Moves s cs t) (hcs : ∀ state, .applyDrawState state ∉ cs)
    (hcalls : t.2.driver.calls = later ++ .record b (.bindSet layout set) :: past) :
    ∃ earlier, s.2.driver.calls = earlier ++ .record b (.bindSet layout set) :: past := by
  induction h generalizing later with
  | refl => exact ⟨later, hcalls⟩
  | step _ move ih =>
    rcases move.binding_cases hcalls with ⟨earlier, hearlier⟩ | ⟨⟨state, rfl⟩, -⟩
    · exact ih (fun state hmem ↦ hcs state (List.mem_append_left _ hmem)) hearlier
    · exact (hcs state (List.mem_append_right _ (List.mem_singleton_self _))).elim

theorem Labelled.bindSet_before {labels : List GraphicsDevice.Command}
    (h : Labelled s [] s.1 c labels t) (hlabels : ∀ state, .applyDrawState state ∉ labels)
    (hcalls : t.2.driver.calls = later ++ .record b (.bindSet layout set) :: past) :
    ∃ earlier, s.2.driver.calls = earlier ++ .record b (.bindSet layout set) :: past := by
  obtain ⟨cs, hmoves, rfl | ⟨-, -, rfl⟩⟩ := h
  · exact hmoves.bindSet_before hlabels hcalls
  · exact hmoves.bindSet_before (by simp) hcalls

/-- A set is bound by the command that binds a draw state. -/
theorem binding_cases_of_taken {answer : Option ResourceId} (took : c.answer s = .ok answer t)
    (hcalls : t.2.driver.calls = later ++ .record b (.bindSet layout set) :: past) :
    (∃ earlier, s.2.driver.calls = earlier ++ .record b (.bindSet layout set) :: past) ∨
      Binds s b layout set past := by
  have hlabelled := labelled_of_taken took
  cases c with
  | applyDrawState state =>
    have hmoves : Meets (Rests s.1 s.2) (GraphicsDevice.Command.applyDrawState state).answer
        (fun _ ↦ Move [.applyDrawState state] s) fun _ _ ↦ True :=
      .map (meets_applyDrawState_move.lax)
    exact ((hmoves.ok ⟨rfl, rfl⟩ took).binding_cases hcalls).imp_right And.right
  | _ => exact .inl (hlabelled.bindSet_before (by simp [labelsOf]) hcalls)

/-- **Every set was bound in a state that the device was in**, for a draw state that fits it. -/
theorem Reached.exists_binding (h : Reached l t)
    (hcalls : t.2.driver.calls = later ++ .record b (.bindSet layout set) :: past) :
    ∃ l' after s, l = l' ++ after ∧ Reached l' s ∧ Onward s t ∧ Binds s b layout set past := by
  induction h generalizing later with
  | start hs =>
    obtain ⟨k, hempty, hgrows⟩ := hs.exists_grows
    obtain ⟨earlier, hearlier⟩ := hgrows.record_before id hcalls
    simp [hempty] at hearlier
  | @taken l s a t c hs took ih =>
    have honward := (labelled_of_taken took).onward
    rcases binding_cases_of_taken took hcalls with ⟨earlier, hearlier⟩ | hbinds
    · obtain ⟨l', after, u, rfl, hu, hon, hbinds⟩ := ih hearlier
      exact ⟨l', after ++ [(c, a)], u, List.append_assoc .., hu, hon.trans honward, hbinds⟩
    · exact ⟨l, _, s, rfl, hs, honward, hbinds⟩
  | @refused l s e t c hs hrefused ih =>
    have hlabelled := labelled_of_refused hrefused
    obtain ⟨earlier, hearlier⟩ := hlabelled.bindSet_before (fun _ ↦ List.not_mem_nil) hcalls
    obtain ⟨l', after, u, rfl, hu, hon, hbinds⟩ := ih hearlier
    exact ⟨l', after, u, rfl, hu, hon.trans hlabelled.onward, hbinds⟩
  | @between l s t hs done ih =>
    have honward : Onward s t := (Moves.refl.happens done).onward
    have hsame : s.2.driver.calls = t.2.driver.calls := by
      cases done <;> rfl
    obtain ⟨l', after, u, rfl, hu, hon, hbinds⟩ := ih (hsame.trans hcalls)
    exact ⟨l', after, u, rfl, hu, hon.trans honward, hbinds⟩

/-! ### What is sampled -/

/-- A texture is sampled through an image that it is resolved into only with the mark. -/
theorem Samples.marked {id : TextureId} {v : Object .view} {info : ImageInfo}
    (h : d.Samples id v) (hd : d.Evident calls) (hl : calls <:+ calls') (hfair : Fair frames calls')
    (hmade : .createImage image info ∈ calls') (husage : info.usage = usageColor ||| usageSampled)
    (himage : v.image? calls' = some image.any) : d.Marked image := by
  obtain ⟨x, hx, hsampleable, hv⟩ := h
  obtain ⟨i, hi, rfl⟩ := Option.map_eq_some_iff.1 hv
  have hevident := (hd.textures hx).1
  -- The view is that of one image only.
  obtain ⟨format, aspect, hview⟩ :=
    (hevident.isViewOf (Texture.mem_images_of_sampledImage? hi)).view
  obtain rfl : i.image = image := Object.any_inj (Option.some.inj
    ((hfair.image?_eq_some (hl.subset hview)).symm.trans himage))
  rw [Texture.sampledImage?] at hi
  split at hi
  · cases hi
  · split at hi
    · next hsamples =>
      refine ⟨id, x, i, hx, ?_, hi, rfl⟩
      rw [Texture.isSampleable, Bool.and_eq_true, Bool.or_eq_true] at hsampleable
      refine hsampleable.2.resolve_left fun hone ↦ ?_
      rw [eq_of_beq hone] at hsamples
      exact absurd hsamples (by decide)
    · obtain rfl := Option.some.inj hi
      have hcall := hfair.call_unique (hl.subset hevident.color.image) hmade rfl rfl rfl
      obtain ⟨-, rfl⟩ := Call.createImage.inj hcall
      exact (Texture.colorUsage_ne husage).elim

namespace Binds

variable {info : ImageInfo} {w : DescriptorWrite} {p : Progress}

theorem suffix (h : Binds s b layout set past) : s.2.driver.calls <:+ past := by
  cases h with
  | @intro _ f _ p m _ _ _ _ _ _ _ _ hpast =>
    exact hpast ▸ (List.suffix_append _ _).trans
      ((List.suffix_cons _ _).trans (List.suffix_cons _ _))

/-- What the buffer held is there still when the set is bound. -/
theorem contents_suffix (h : Binds s b layout set past) :
    contents b s.2.driver.calls <:+ contents b past := by
  cases h with
  | @intro _ f _ p m _ _ _ _ hb _ _ _ hpast =>
    subst hb hpast
    show contents f.commands s.2.driver.calls <:+
      contents f.commands (f.binds p m ++ s.2.driver.calls)
    rw [FrameSlot.contents_binds]
    exact (List.suffix_cons _ _).trans (List.suffix_append _ _)

/-- No buffer of a slot is open but the one that the set is bound in. -/
theorem commands_eq (h : Binds s b layout set past) (hs : Reached l s) (hf : f ∈ s.1.slots)
    (hp : Progress.after s.1.context.uploadPool f s.2.driver.calls = some p)
    (hopen : p.phase.IsOpen) : f.commands = b := by
  cases h with
  | @intro _ g _ _ _ _ active recording slot hb _ _ _ _ =>
    obtain ⟨uploads, slots, -, hturn⟩ := hs.inTurn
    have hslots := InTurn.hasSlots (d := s.1) (k := s.2) hturn
    obtain ⟨g', x, -, hg', -, hstands⟩ := InTurn.inside (d := s.1) (k := s.2) hturn active recording
    rw [hslots.slots] at slot hf
    rw [hslots.uploads, hstands.phases f hf] at hp
    obtain rfl := Option.some.inj (slot.symm.trans hg')
    by_cases hfg : f = g
    · exact hfg ▸ hb
    · rw [if_neg hfg] at hp
      obtain rfl := Option.some.inj hp
      exact hopen.elim

/-- The image to resolve into that the set shows is that of a texture with the mark. -/
theorem marked (h : Binds s b layout set past) (hs : Reached l s) (hl : past <:+ calls)
    (hserves : Serves calls) (hfair : Fair frames calls) (hw : w.IsIn set calls)
    (hmade : .createImage image info ∈ calls) (husage : info.usage = usageColor ||| usageSampled)
    (himage : w.view.image? calls = some image.any) : s.1.Marked image := by
  have hsuffix := h.suffix.trans hl
  cases h with
  | @intro a f state p m views _ _ _ _ fits _ needs hpast =>
    have hwritten : .updateSets (p.writes s.1.sampler set views) ∈ calls :=
      hl.subset (hpast ▸ List.mem_cons_self)
    obtain ⟨id, -, hsamples⟩ :=
      exists_samples_of_isIn hserves hfair needs fits.enough fits.sampled hwritten hw
    exact hsamples.marked hs.evident hsuffix hfair hmade husage himage

end Binds

/-- **What a draw samples was resolved before**, or an instance that resolves into it was lost. -/
theorem Reached.resolved_of_submit {id : TextureId} {x : Texture} {i : Image}
    {queue : Object .queue} {work : Submission} {fence : Object .fence} {r : Recorded}
    {pre post : List Recorded} {w : DescriptorWrite} (hu : Reached l u)
    (ht : GraphicsDevice.Reached (· = u) Happens l' t) (hreuse : NoReuse (l ++ l'))
    (hx : u.1.textures.get? id = some x) (hi : x.resolve = some i)
    (hcalls : t.2.driver.calls = later ++ .submit queue work fence :: past)
    (hheld : contents work.commands past = post ++ r :: pre)
    (hset : setOf pre = some (layout, set)) (hw : w.IsIn set past)
    (himage : w.view.image? past = some i.image.any) :
    (∃ info ∈ instancesOf pre ++ executedInstances past, info.ResolvesInto i.image past) ∨
      ∃ f ∈ t.1.slots, ∃ held, Loses t.1.context.uploadPool f held past ∧
        ∃ info ∈ instancesOf held, info.ResolvesInto i.image past := by
  have htrans : Reached (l ++ l') t := hu.trans ht
  have hserves : Serves t.2.driver.calls := htrans.serves
  have hfair : Fair t.1.framePool.any t.2.driver.calls := Books.fair htrans.sound.2
  have honward : Onward u t := Reached.onward ht
  have hpast : past <:+ t.2.driver.calls := ⟨later ++ [.submit queue work fence], by simp [hcalls]⟩
  -- The set was bound when the buffer held what is there before the binding.
  obtain ⟨since, before, rfl⟩ := exists_bindSet_of_setOf hset
  have hbefore : contents work.commands past =
      (post ++ r :: since) ++ .bindSet layout set :: before := by
    rw [hheld, List.append_assoc, List.cons_append]
  obtain ⟨between, earlier, rfl, hearlier⟩ := exists_record_of_contents hbefore
  have hrecorded : t.2.driver.calls = (later ++ .submit queue work fence :: between) ++
      .record work.commands (.bindSet layout set) :: earlier := by
    rw [hcalls, List.append_assoc, List.cons_append]
  obtain ⟨l₁, after, s, hl, hs, hon, hbinds⟩ := htrans.exists_binding hrecorded
  have hsub : earlier <:+ between ++ .record work.commands (.bindSet layout set) :: earlier :=
    ⟨between ++ [.record work.commands (.bindSet layout set)], by simp⟩
  have hmarked : s.1.Marked i.image :=
    hbinds.marked hs (hsub.trans hpast) hserves hfair
      ⟨hw.set, hw.written.imp fun _ h ↦ ⟨hpast.subset h.1, h.2⟩⟩
      (honward.calls.subset ((hu.evident.textures hx).1.resolve i hi).image) rfl
      (hfair.image?_of_subset hpast.subset himage)
  obtain ⟨f, hf, info, hresolves, hfate⟩ := hs.fated (hl ▸ hreuse).of_append hmarked
  have hearly := hbinds.suffix.trans hsub
  have hlater := info.lasts_resolvesInto i.image hearly.subset hresolves
  obtain ⟨new, hnew⟩ := hearly
  cases hfate with
  | executed handed =>
    refine .inl ⟨info, List.mem_append_right _ ?_, hlater⟩
    rw [← hnew]
    exact (executedInstances_append new _).subset handed
  | @lost held loses ended =>
    refine .inr ⟨f, hon.slots ▸ hf, held, ?_, info, ended, hlater⟩
    rw [← hnew, hon.context]
    exact loses.append new
  | waits progress isOpen ended =>
    -- The buffer is the one that the draw is in.
    rw [hbinds.commands_eq hs hf progress isOpen] at ended
    refine .inl ⟨info, List.mem_append_left _ ?_, hlater⟩
    obtain ⟨added, hadded⟩ := hearlier ▸ hbinds.contents_suffix
    rw [← List.singleton_append, ← hadded, ← List.append_assoc, ← List.append_assoc]
    exact (instancesOf_append _ _).subset ended

/-! ### A texture of four samples -/

/-- What happens when such a texture is resolved, and drawn on the screen after what is `between`.
-/
def showResolved (between : List GraphicsDevice.Command) : List GraphicsDevice.Command :=
  [.createMesh (.fullScreenQuad true), .createShader GraphicsDevice.samplingShader,
   .createPipeline (plainPipeline ⟨1, .bgra8Unorm, some screenDepthFormat, 1⟩),
   .createTexture ⟨"target", 4, 4, .rgba8Unorm, .sampledAndRenderTarget, 4, none⟩,
   .createPass ⟨"pass", [⟨⟨1, 1⟩, .black⟩], none, .one, 0, .resolve⟩,
   .beginPass (some ⟨1, 1⟩) {}, .endPass] ++ between ++
  [.beginPass none {}, .applyDrawState ⟨⟨1, 1⟩, ⟨1, 1⟩, [⟨1, 1⟩]⟩, .draw 0, .endPass, .commitFrame]

/-- The draw, with what its buffer holds before it and what was done before the buffer was handed
over.
-/
theorem exists_showResolved (script : List Failure) (between : List GraphicsDevice.Command)
    (signal : Object .semaphore) (check : List Recorded → List Call → Bool)
    (h : (match create plainWindow ⟨640, 480⟩ {} false (plainHost plainSurface script) with
      | .ok d k => decide (NoReuse (accepted (showResolved between) (d, k))) &&
          (settleAll ((showResolved between).map GraphicsDevice.Command.answer) (d, k)).any fun t ↦
            -- The frame was presented.
            let past := t.2.driver.calls.drop 2
            let pre := (contents ⟨1⟩ past).drop 2
            t.2.driver.calls[1]? == some (.submit ⟨1⟩ ⟨[(⟨1⟩, 1024)], ⟨1⟩, [signal]⟩ ⟨1⟩) &&
            ((contents ⟨1⟩ past)[1]? == some (.drawIndexed 6 0) &&
            ((t.1.textures.get? ⟨1, 1⟩).any
              (fun x ↦ x.samples == 4 && x.resolve == some ⟨⟨3⟩, ⟨6⟩, ⟨5⟩⟩) &&
            (decide (.updateSets [⟨⟨1⟩, 0, ⟨1⟩, ⟨6⟩⟩] ∈ past) && (setOf pre == some (⟨1⟩, ⟨1⟩) &&
            ((⟨6⟩ : Object .view).image? past == some (⟨3⟩ : Object .image).any &&
              check pre past)))))
      | .error _ _ => false) = true) :
    ∃ l later queue work fence past post pre, ∃ t : Device × Host, Reached l t ∧ NoReuse l ∧
      t.2.driver.calls = later ++ .submit queue work fence :: past ∧
      contents work.commands past = post ++ .drawIndexed 6 0 :: pre ∧
      ∃ id x i, t.1.textures.get? id = some x ∧ x.samples = 4 ∧ x.resolve = some i ∧
        ∃ layout, ∃ w : DescriptorWrite, setOf pre = some (layout, w.set) ∧ w.IsIn w.set past ∧
          w.view.image? past = some i.image.any ∧ check pre past = true := by
  obtain ⟨s, hs, hcheck⟩ := exists_new plainSurface script
    (fun s ↦ decide (NoReuse (accepted (showResolved between) s)) &&
      (settleAll ((showResolved between).map GraphicsDevice.Command.answer) s).any _) h
  obtain ⟨hreuse, hcheck⟩ := Bool.and_eq_true_iff.1 hcheck
  obtain ⟨t, ht, hcheck⟩ := GraphicsDevice.exists_accepted IsNew Happens hs hcheck
  simp only [Bool.and_eq_true, beq_iff_eq, decide_eq_true_eq] at hcheck
  obtain ⟨hsubmit, hdraw, htexture, hwritten, hset, himage, hcheck⟩ := hcheck
  obtain ⟨x, hx, hresolve⟩ := (Option.any_eq_true _ _).1 htexture
  obtain ⟨hsamples, hresolve⟩ := Bool.and_eq_true_iff.1 hresolve
  exact ⟨_, _, _, ⟨[(⟨1⟩, 1024)], ⟨1⟩, [signal]⟩, _, _, _, _, t, ht, of_decide_eq_true hreuse,
    eq_append_of_getElem? hsubmit, eq_append_of_getElem? hdraw, _, x, _, hx, eq_of_beq hsamples,
    eq_of_beq hresolve, _, ⟨⟨1⟩, 0, ⟨1⟩, ⟨6⟩⟩, hset,
    ⟨rfl, _, hwritten, List.mem_singleton_self _⟩, himage, hcheck⟩

/-- A texture that is resolved and drawn in one frame. -/
theorem resolved_of_showResolved :
    ∃ l later queue work fence past post pre, ∃ t : Device × Host, Reached l t ∧ NoReuse l ∧
      t.2.driver.calls = later ++ .submit queue work fence :: past ∧
      contents work.commands past = post ++ .drawIndexed 6 0 :: pre ∧
      ∃ id x i, t.1.textures.get? id = some x ∧ x.samples = 4 ∧ x.resolve = some i ∧
        ∃ layout, ∃ w : DescriptorWrite, setOf pre = some (layout, w.set) ∧ w.IsIn w.set past ∧
          w.view.image? past = some i.image.any ∧
          ∃ info ∈ instancesOf pre ++ executedInstances past, info.ResolvesInto i.image past := by
  obtain ⟨l, later, queue, work, fence, past, post, pre, t, ht, hreuse, hcalls, hheld, id, x, i, hx,
    hsamples, hi, layout, w, hset, hw, himage, hcheck⟩ :=
    exists_showResolved [] [] ⟨3⟩ (fun _ past ↦ past.all (!·.isFailedStep)) (by decide +kernel)
  refine ⟨l, later, queue, work, fence, past, post, pre, t, ht, hreuse, hcalls, hheld, id, x, i, hx,
    hsamples, hi, layout, w, hset, hw, himage, ?_⟩
  have hresolved := Reached.resolved_of_submit ht (.start rfl)
    ((List.append_nil l).symm ▸ hreuse) hx
    hi hcalls hheld hset hw himage
  refine hresolved.resolve_right ?_
  rintro ⟨f, -, held, hloses, -⟩
  obtain ⟨c, hc, hfailed⟩ := hloses.exists_failed
  simpa [hfailed] using List.all_eq_true.1 hcheck c hc

/-- The frame in which the texture is resolved cannot be handed over. In the next one the texture is
drawn, although nothing was resolved into its image. -/
theorem unresolved_of_lost :
    ∃ l later queue work fence past post pre, ∃ t : Device × Host, Reached l t ∧ NoReuse l ∧
      t.2.driver.calls = later ++ .submit queue work fence :: past ∧
      contents work.commands past = post ++ .drawIndexed 6 0 :: pre ∧
      ∃ id x i, t.1.textures.get? id = some x ∧ x.samples = 4 ∧ x.resolve = some i ∧
        ∃ layout, ∃ w : DescriptorWrite, setOf pre = some (layout, w.set) ∧ w.IsIn w.set past ∧
          w.view.image? past = some i.image.any ∧
          ¬∃ info ∈ instancesOf pre ++ executedInstances past, info.ResolvesInto i.image past := by
  obtain ⟨l, later, queue, work, fence, past, post, pre, t, ht, hreuse, hcalls, hheld, id, x, i, hx,
    hsamples, hi, layout, w, hset, hw, himage, hcheck⟩ :=
    exists_showResolved [⟨.endCommandBuffer, 2, ⟨-1⟩⟩] [.commitFrame] ⟨4⟩
      (fun pre past ↦ (instancesOf pre ++ executedInstances past).isEmpty) (by decide +kernel)
  refine ⟨l, later, queue, work, fence, past, post, pre, t, ht, hreuse, hcalls, hheld, id, x, i, hx,
    hsamples, hi, layout, w, hset, hw, himage, ?_⟩
  rw [List.isEmpty_iff.1 hcheck]
  rintro ⟨info, hinfo, -⟩
  cases hinfo

end Device

end RenderTargets.Vulkan
