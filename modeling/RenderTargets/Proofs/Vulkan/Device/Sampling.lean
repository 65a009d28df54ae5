import RenderTargets.Proofs.Device.DrawStates
import RenderTargets.Proofs.Spirv.Interface
import RenderTargets.Proofs.Vulkan.Device.Evident
import RenderTargets.Proofs.Vulkan.Device.Serving
/-!
# The set of a draw state

A draw state names textures, and a pipeline has bindings for them. The first texture goes to the
smallest binding, and so on; textures that are left over are passed over. So the bindings have to be
the same list everywhere: in what reflection finds in the code of the shader (`Pipeline.Declares`),
in the layout of the set, and in what is written into it (`Fills`). Each draw state gets a set of
its own, which nothing was written into before (`IsUnused`).

A draw state that is taken binds such a set, and one with fewer textures than there are bindings is
refused (`sampledImages_inOrder`).
-/

namespace RenderTargets.Vulkan

open StepWith

/-- The bindings of the pipeline are those that reflection finds in the code of its second stage,
at the entry point that the stage starts with. -/
def Pipeline.Declares (p : Pipeline) (reflect : Spirv.Reflection) (calls : List Call) : Prop :=
  ∃ info code start words points e,
    .createPipeline p.pipeline info ∈ calls ∧ ⟨stageFlags .fragment, code, start⟩ ∈ info.stages ∧
      .createShaderModule code words ∈ calls ∧ reflect words = .ok points ∧
      Spirv.StartsWith start e points ∧
      p.bindings = (Spirv.Interface.ofEntryPoint e).sampledBindings

/-- The set was neither made nor written. -/
structure IsUnused (set : Object .descriptorSet) (calls : List Call) : Prop where
  /-- It was not made. -/
  made : ∀ pool layout, .allocateDescriptorSet set pool layout ∉ calls
  /-- It was not written. -/
  written : ∀ writes, .updateSets writes ∈ calls → ∀ w ∈ writes, w.set ≠ set

theorem Pipeline.Runs.declares {p : Pipeline} {s : Shader} {reflect : Spirv.Reflection}
    {calls : List Call} (h : p.Runs s calls) (hs : s.fragment.IsRead reflect calls) :
    p.Declares reflect calls := by
  obtain ⟨info, hinfo, hstages⟩ := h.stages
  obtain ⟨words, hcode, hread⟩ := hs
  obtain ⟨points, e, hpoints, he, hinterface⟩ := Spirv.Interface.exists_of_read hread
  refine ⟨info, s.fragment.code, s.fragment.entryPoint, words, points, e, hinfo, ?_, hcode,
    hpoints, he, ?_⟩
  · rw [hstages, stagesOf]
    simp
  · rw [h.bindings, hinterface]

namespace Device

variable {d : Device} {k : Host} {s t : Device × Host} {state : DrawState} {p : Pipeline}
  {l : List (GraphicsDevice.Command × Option ResourceId)}

/-- Each binding is written once, in order, with what the texture in its place is sampled by. -/
structure Fills (d : Device) (ids : List TextureId) (bindings : List UInt32)
    (set : Object .descriptorSet) (writes : List DescriptorWrite) : Prop where
  /-- All of it is written into the set. -/
  set : ∀ w ∈ writes, w.set = set
  /-- The bindings are written one after the other. -/
  bindings : writes.map (·.binding) = bindings
  /-- A binding gets the texture in its place. -/
  view : ∀ (i : ℕ) (w : DescriptorWrite), writes[i]? = some w →
    ∃ id : TextureId, ids[i]? = some id ∧ d.Samples id w.view

/-- The pipeline has its set: one that was not in use was made in the frame, from the pool of the
slot and in the shape of the bindings, then filled, and then bound. -/
structure BindsSet (s t : Device × Host) (ids : List TextureId) (p : Pipeline) (f : FrameSlot)
    (set : Object .descriptorSet) (writes : List DescriptorWrite) (binds : List Recorded) :
    Prop where
  /-- There is a frame. -/
  frame : s.1.frame.isSome = true
  /-- The slot is the one in use. -/
  slot : s.1.slots[s.1.slotIndex]? = some f
  /-- The shape of the set. -/
  layout : Making.setLayout.of? p.setLayout s.2.driver.calls = some p.bindings
  /-- The set is another one than all before. -/
  unused : IsUnused set s.2.driver.calls
  /-- What it is filled with. -/
  fills : s.1.Fills ids p.bindings set writes
  /-- What is called after pipeline and mesh are bound. -/
  calls : t.2.driver.calls = .record f.commands (.bindSet p.layout set) :: .updateSets writes ::
    .allocateDescriptorSet set f.pool p.setLayout ::
      (binds.map (.record f.commands) ++ s.2.driver.calls)

/-! ### What is written -/

theorem fills_writes {ids : List TextureId} {views : List (Object .view)}
    {sampler : Object .sampler} {set : Object .descriptorSet}
    (hviews : List.Forall₂ d.Samples ids views) (enough : p.bindings.length ≤ views.length) :
    d.Fills ids p.bindings set (p.writes sampler set views) where
  set w hw := by
    obtain ⟨⟨binding, view⟩, -, rfl⟩ := List.mem_map.1 hw
    rfl
  bindings := by
    rw [Pipeline.writes, List.map_map]
    exact List.map_fst_zip enough
  view i w hw := by
    rw [Pipeline.writes, List.getElem?_map] at hw
    obtain ⟨⟨binding, view⟩, hzip, rfl⟩ := Option.map_eq_some_iff.1 hw
    obtain ⟨-, hview⟩ := List.getElem?_zip_eq_some.1 hzip
    obtain ⟨hi, rfl⟩ := List.getElem?_eq_some_iff.1 hview
    have hlength := hviews.length_eq
    exact ⟨ids[i], List.getElem?_eq_getElem _, hviews.get (hlength ▸ hi) hi⟩

/-- A set that is made now is none that was there. -/
theorem isUnused_of_made {frames : AnyObject} {set : Object .descriptorSet}
    {pool : Object .descriptorPool} {layout : Object .setLayout} {past calls : List Call}
    (hfair : Fair frames (.allocateDescriptorSet set pool layout :: past))
    (hserves : Serves calls) (hcalls : calls ⊆ past) : IsUnused set calls := by
  have hnew : ¬Named past set.any := (hfair.2.made _ rfl).1
  refine ⟨fun pool' layout' hmem ↦ ?_, fun writes hwrites w hw hset ↦ ?_⟩
  · exact hnew ⟨_, hcalls hmem, _, rfl, rfl⟩
  · obtain ⟨c, hc, hmade⟩ := hserves.named hwrites hw
    exact hnew ⟨c, hcalls hc, hset ▸ hmade⟩

/-! ### Too few textures -/

/-- Textures can be sampled or they cannot, and nothing is done but to note it. -/
theorem sampledViews_cases (ids : List TextureId) :
    (∃ views, sampledViews ids s = .ok views s ∧ List.Forall₂ s.1.Samples ids views) ∨
      ∃ e j, sampledViews ids s = .error (.error e) (Log.HasJournal.journal.set j s) := by
  induction ids with
  | nil => exact .inl ⟨[], rfl, .nil⟩
  | cons id rest ih =>
    rw [sampledViews, RunOn.part_bind_apply]
    cases ht : s.1.textures.get? id with
    | none => exact .inr ⟨_, s.2.journal, rfl⟩
    | some t =>
      dsimp only
      by_cases hsample : t.isSampleable = true
      · rw [if_neg (by simp [hsample])]
        obtain ⟨v, hv⟩ : ∃ v, t.sampledView? = some v := by
          rw [Texture.isSampleable, Bool.and_eq_true] at hsample
          rw [Texture.sampledView?, ← Option.isSome_iff_exists, Option.isSome_map]
          exact hsample.1
        rcases ih with ⟨views, hrun, hviews⟩ | ⟨e, j, hrun⟩
        · refine .inl ⟨v :: views, (bind_ok hrun).trans ?_, .cons ⟨t, ht, hsample, hv⟩ hviews⟩
          rw [hv]
          rfl
        · exact .inr ⟨e, j, bind_error hrun⟩
      · rw [if_pos (by simp [hsample])]
        exact .inr ⟨_, _, rfl⟩

/-- With fewer textures than bindings a draw state is refused, and nothing is done. -/
theorem applyDrawState_tooFew (hp : s.1.pipelines.get? state.pipeline = some p)
    (hfew : state.textures.length < p.bindings.length) :
    ∃ e j, applyDrawState state s = .error (.error e) (Log.HasJournal.journal.set j s) := by
  rw [applyDrawState, RunOn.part_bind_apply, hp]
  rw [bind_ok (show StepWith.orFail _ (some p) s = .ok p s from rfl)]
  cases s.1.meshes.get? state.mesh with
  | none => exact ⟨_, s.2.journal, rfl⟩
  | some m =>
    rw [bind_ok (show StepWith.orFail _ (some m) s = .ok m s from rfl)]
    rcases sampledViews_cases state.textures with ⟨views, hrun, hviews⟩ | ⟨e, j, hrun⟩
    · rw [bind_ok hrun, if_pos (hviews.length_eq ▸ hfew)]
      exact ⟨_, _, rfl⟩
    · exact ⟨e, j, bind_error hrun⟩

/-! ### Draw states that are taken -/

theorem Reached.declares {id : PipelineId} (h : Reached l s) (hp : s.1.pipelines.get? id = some p) :
    p.Declares s.1.context.reflect s.2.driver.calls := by
  obtain ⟨shader, hread, hruns⟩ := h.sourced.pipelines hp
  exact hruns.declares hread

theorem Reached.exists_bindsSet (h : Reached l s) (hp : s.1.pipelines.get? state.pipeline = some p)
    (hrecording : s.1.active.any (·.recording)) (hneeds : p.bindings ≠ [])
    (took : GraphicsDevice.applyDrawState state s = .ok () t) :
    ∃ f set writes binds, BindsSet s t state.textures p f set writes binds := by
  obtain ⟨d, k⟩ := s
  have hmove : Move [.applyDrawState state] (d, k) t :=
    meets_applyDrawState_move.ok ⟨rfl, rfl⟩ took
  -- The device is reached also with the draw state taken, so its set is new.
  have hreached : Reached (l ++ [(.applyDrawState state, none)]) t := h.taken (by
    simp only [GraphicsDevice.Command.answer, GraphicsDevice.Command.perform, Functor.map,
      EStateM.map, took])
  cases hmove with
  | bindUntargeted active untargeted =>
    rw [active] at hrecording
    cases untargeted.symm.trans hrecording
  | @bind _ _ a _ q m views f made calls k' active _ slot fits fetches gains =>
    obtain rfl := Option.some.inj (hp.symm.trans fits.pipeline)
    cases fetches with
    | unneeded needs => exact (hneeds needs).elim
    | made =>
      have hcalls : k'.driver.calls = .record f.commands (.bindSet p.layout _) ::
          .updateSets (p.writes d.sampler _ views) :: .allocateDescriptorSet _ f.pool p.setLayout ::
            ((m.binds ++ [Recorded.bindPipeline p.pipeline]).map (.record f.commands) ++
              k.driver.calls) :=
        gains.calls
      have hfair := Books.fair hreached.sound.2
      rw [hcalls] at hfair
      have hbuilt := (h.evident.pipelines hp).bindings
      exact ⟨f, _, _, _,
        { frame := h.inPass.framed (Option.isSome_of_eq_some active)
          slot
          layout := (Books.fair h.sound.2).of?_eq_some_iff.2 hbuilt
          unused := isUnused_of_made hfair.1.1 h.serves (List.subset_append_right _ _)
          fills := fills_writes fits.sampled fits.enough
          calls := hcalls }⟩

/-- **Images are bound in the order of bindings.** Whatever reflection lists, the bindings of a
stage are strictly ascending, and are those of the listed images in the first set that are sampled,
with their samplers or without. The bindings of a pipeline are such bindings. A draw state that is
taken in a pass with a target gets a new set, in which each binding of the pipeline was written
once, with the texture in its place. A draw state with fewer textures is refused, and nothing is
done. -/
theorem sampledImages_inOrder :
    (∀ e : Spirv.EntryPoint,
      (Spirv.Interface.ofEntryPoint e).sampledBindings.Pairwise (· < ·) ∧
      ∀ b, b ∈ (Spirv.Interface.ofEntryPoint e).sampledBindings ↔
        .descriptor 0 b .combinedImageSampler ∈ e.resources ∨
          .descriptor 0 b .sampledImage ∈ e.resources) ∧
    ∀ l s state p, Reached l s → s.1.pipelines.get? state.pipeline = some p →
      p.Declares s.1.context.reflect s.2.driver.calls ∧
      (∀ t, GraphicsDevice.applyDrawState state s = .ok () t → s.1.active.any (·.recording) →
        p.bindings ≠ [] → ∃ f set writes binds,
          BindsSet s t state.textures p f set writes binds) ∧
      (state.textures.length < p.bindings.length → ∃ e t,
        GraphicsDevice.applyDrawState state s = .error (.error e) t ∧ t.1 = s.1 ∧
          t.2.driver = s.2.driver) := by
  refine ⟨fun e ↦ ⟨Spirv.Interface.pairwise_sampledBindings, fun _ ↦
    Spirv.Interface.mem_sampledBindings⟩, fun l s state p h hp ↦ ⟨h.declares hp, ?_, ?_⟩⟩
  · exact fun t took hrecording hneeds ↦ h.exists_bindsSet hp hrecording hneeds took
  · intro hfew
    obtain ⟨e, j, hrefused⟩ := applyDrawState_tooFew hp hfew
    exact ⟨e, _, hrefused, rfl, rfl⟩

/-- Everything for a draw state of a pipeline with two images, and three textures. The images are
declared out of order, and one of them twice. -/
def sparingSetting : List GraphicsDevice.Command :=
  [.createMesh (.fullScreenQuad true),
   .createShader (GraphicsDevice.imagesShader [(9, 3), (10, 1), (11, 3)]),
   .createPipeline (plainPipeline ⟨1, .bgra8Unorm, some screenDepthFormat, 1⟩),
   .createTexture ⟨"first", 4, 4, .rgba8Unorm, .sampledAndRenderTarget, 1, none⟩,
   .createTexture ⟨"second", 4, 4, .rgba8Unorm, .sampledAndRenderTarget, 1, none⟩,
   .createTexture ⟨"spare", 4, 4, .rgba8Unorm, .sampledAndRenderTarget, 1, none⟩,
   .beginPass none {}]

/-- Of three textures the first two are bound, the smaller binding gets the first, and the last is
passed over. One texture is too few. -/
theorem sampledImages_inOrder_spare :
    ∃ l s t p, Reached l s ∧ s.1.pipelines.get? ⟨1, 1⟩ = some p ∧ p.bindings = [1, 3] ∧
      p.Declares s.1.context.reflect s.2.driver.calls ∧ s.1.active.any (·.recording) ∧
      GraphicsDevice.applyDrawState ⟨⟨1, 1⟩, ⟨1, 1⟩, [⟨2, 1⟩, ⟨1, 1⟩, ⟨3, 1⟩]⟩ s = .ok () t ∧
      (∃ f set writes binds, BindsSet s t [⟨2, 1⟩, ⟨1, 1⟩, ⟨3, 1⟩] p f set writes binds) ∧
      ∃ e u, GraphicsDevice.applyDrawState ⟨⟨1, 1⟩, ⟨1, 1⟩, [⟨2, 1⟩]⟩ s = .error (.error e) u ∧
        u.1 = s.1 ∧ u.2.driver = s.2.driver := by
  obtain ⟨s₀, hs₀, hcheck⟩ := exists_new plainSurface []
    (fun s ↦ (settleAll (sparingSetting.map GraphicsDevice.Command.answer) s).any fun s ↦
      (s.1.pipelines.get? ⟨1, 1⟩).any (·.bindings == [1, 3]) && (s.1.active.any (·.recording) &&
        match GraphicsDevice.applyDrawState ⟨⟨1, 1⟩, ⟨1, 1⟩, [⟨2, 1⟩, ⟨1, 1⟩, ⟨3, 1⟩]⟩ s with
        | .ok _ _ => true
        | .error _ _ => false)) (by decide +kernel)
  obtain ⟨s, hs, hcheck⟩ := GraphicsDevice.exists_accepted IsNew Happens hs₀ hcheck
  simp only [Bool.and_eq_true] at hcheck
  obtain ⟨hpipeline, hrecording, hcheck⟩ := hcheck
  obtain ⟨p, hp, hbindings⟩ := (Option.any_eq_true _ _).1 hpipeline
  have hbindings : p.bindings = [1, 3] := eq_of_beq hbindings
  split at hcheck
  · next t took =>
    obtain ⟨hdeclares, hbinds, -⟩ := sampledImages_inOrder.2 _ s
      ⟨⟨1, 1⟩, ⟨1, 1⟩, [⟨2, 1⟩, ⟨1, 1⟩, ⟨3, 1⟩]⟩ p hs hp
    obtain ⟨-, -, hrefuses⟩ := sampledImages_inOrder.2 _ s ⟨⟨1, 1⟩, ⟨1, 1⟩, [⟨2, 1⟩]⟩ p hs hp
    exact ⟨_, s, t, p, hs, hp, hbindings, hdeclares, hrecording, took,
      hbinds t took hrecording (by simp [hbindings]), hrefuses (by simp [hbindings])⟩
  · cases hcheck

end Device

end RenderTargets.Vulkan
