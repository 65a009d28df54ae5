import RenderTargets.Proofs.Lists
import RenderTargets.Proofs.Vulkan.Device.Evident
import RenderTargets.Proofs.Vulkan.Layouts
/-!
# Devices that serve sampling

The trace of a device serves sampling (`Reached.serves`). Only two kinds of calls have a rule to
keep, and only two moves make such calls: a pass that begins, and a draw state that is bound. The
first rests on the final layouts that the shape of a pass declares, which follow what its textures
are for (`Pass.IsFormed.leavesReady`). The second rests on what every texture gets when it is made
(`Texture.IsMade.reads`).
-/

namespace RenderTargets.Vulkan

open StepWith Run

variable {ctx : Context} {calls : List Call} {t : Texture} {p : Pass} {info : PassBegin}
  {m : TextureMap} {d : PassDesc} {parts : Pass.Parts} {uploads : Object .commandPool}

/-! ### What images are for -/

/-- An image rendered into is read by shaders itself if it has one sample. -/
theorem sampled_colorUsage {usage : TextureUsage} {samples : UInt32}
    (hrendered : usage.isRendered) :
    Flags.contains (Texture.colorUsage usage samples) usageSampled =
      (usage.isSampled && decide (samples ≤ 1)) := by
  rw [Texture.colorUsage]
  generalize decide (samples ≤ 1) = single
  cases usage with
  | sampled => cases hrendered
  | renderTarget | sampledAndRenderTarget => cases single <;> decide

/-- So it is if it is not rendered into at all. -/
theorem sampled_colorUsage_one {usage : TextureUsage} (hsampled : usage ≠ .renderTarget) :
    Flags.contains (Texture.colorUsage usage 1) usageSampled = true := by
  cases usage with
  | renderTarget => exact (hsampled rfl).elim
  | sampled | sampledAndRenderTarget => decide

theorem le_of_mem_sampleCounts {n : UInt32} (h : n ∈ sampleCounts) : 1 ≤ n := by
  have hall : sampleCounts.all (1 ≤ ·) = true := by decide
  exact of_decide_eq_true (List.all_eq_true.1 hall n h)

namespace Texture

/-- The image that shaders read was made for them, and so was its view. -/
theorem IsMade.reads (h : t.IsMade ctx calls) (hp : t.IsPrepared calls) {v : Object .view}
    (hv : t.sampledView? = some v) : ∃ i, t.sampledImage? = some i ∧ i.view = v ∧
      v.Reads i.image calls := by
  obtain ⟨i, hi, rfl⟩ := Option.map_eq_some_iff.1 hv
  refine ⟨i, hi, rfl, ?_⟩
  have hprepared := hp i hi
  rw [sampledImage?] at hi
  split at hi
  · cases hi
  · next hsampled =>
    split at hi
    · have hmade := h.resolve i hi
      have husage : Flags.contains (usageColor ||| usageSampled) usageSampled = true := by decide
      exact ⟨⟨_, hmade.image, husage⟩, ⟨_, _, hmade.view⟩, hprepared⟩
    · next hsingle =>
      obtain rfl := Option.some.inj hi
      have hone : t.samples = 1 :=
        UInt32.le_antisymm (UInt32.not_lt.1 hsingle) (le_of_mem_sampleCounts h.samples)
      refine ⟨⟨_, h.color.image, ?_⟩, ⟨_, _, h.color.view⟩, hprepared⟩
      show Flags.contains (colorUsage t.usage t.samples) usageSampled = true
      rw [hone]
      exact sampled_colorUsage_one hsampled

end Texture

/-! ### What passes leave -/

namespace Pass

/-- Every texture to render into can be rendered into. -/
theorem isRendered_of_colorTextures {ids : List TextureId} {i : ℕ} {ts : List Texture}
    (h : colorTextures m i ids = .ok ts) : ∀ t ∈ ts, t.usage.isRendered := by
  induction ids generalizing i ts with
  | nil =>
    cases h
    exact List.forall_mem_nil _
  | cons id ids ih =>
    rw [colorTextures] at h
    split at h
    · cases h
    · next t ht =>
      split at h
      · cases h
      · next hrendered =>
        obtain ⟨rest, hrest, h⟩ := exists_ok_of_bind h
        cases h
        exact List.forall_mem_cons.2 ⟨by simpa using hrendered, ih hrest⟩

/-- An image rendered into is left ready, unless it is not to be read. -/
theorem ready_color (hfit : parts.Fit d m) (ht : t ∈ parts.colors) (hmade : t.IsMade ctx calls) :
    (if parts.resolves then layoutColorAttachment else finalLayout parts t) = layoutShaderRead ∨
      t.color.view.IsUnread calls := by
  have hrendered := isRendered_of_colorTextures hfit.colors t ht
  obtain ⟨-, hsamples, -⟩ := isLike_iff.1 (hfit.isLike t ht)
  have hunread (h : t.usage.isSampled = false ∨ 1 < t.samples) : t.color.view.IsUnread calls := by
    refine hmade.color.isUnread ?_
    show Flags.contains (Texture.colorUsage t.usage t.samples) usageSampled = false
    rw [sampled_colorUsage hrendered, Bool.and_eq_false_iff, decide_eq_false_iff_not,
      UInt32.not_le]
    exact h
  split
  · next hr => exact .inr (hunread (.inr (hsamples ▸ hfit.multisampled hr)))
  · next hr =>
    rw [finalLayout]
    split
    · exact .inl rfl
    · next hfinal =>
      -- It has several samples, or cannot be sampled.
      refine .inr (hunread ?_)
      by_cases hone : t.samples = 1
      · refine .inl ?_
        cases husage : t.usage with
        | renderTarget => rfl
        | _ =>
          refine (hfinal ?_).elim
          simp [hone, Texture.sampledView?, Texture.sampledImage?, husage]
      · have hle := le_of_mem_sampleCounts hmade.samples
        exact .inr (UInt32.lt_of_le_of_ne hle (Ne.symm hone))

/-- Every attachment of a new pass is left ready, or is not to be read. -/
theorem ready_viewsOf (hparts : partsOf d m = .ok parts)
    (hmade : ∀ t, t ∈ parts.colors ∨ parts.depth = some t → t.IsMade ctx calls) :
    List.Forall₂ (fun a v ↦ a.finalLayout = layoutShaderRead ∨ v.IsUnread calls)
      (layoutOf ctx d parts).attachmentSet.attachments (viewsOf parts) := by
  have hfit := fit_of_partsOf hparts
  -- Colors first, then what they are resolved into, then the depth buffer.
  refine List.rel_append (List.rel_append ?_ ?_) ?_
  · rw [PassLayout.colorAttachments, layoutOf, List.map_map, List.forall₂_map_left_iff,
      List.forall₂_map_right_iff, List.forall₂_same]
    exact fun t ht ↦ ready_color hfit ht (hmade t (.inl ht))
  · rw [PassLayout.resolveAttachments]
    by_cases hr : parts.resolves
    · rw [if_pos hr, if_pos (show (layoutOf ctx d parts).resolve from hr), layoutOf, List.map_map]
      refine forall₂_filterMap fun t ht ↦ ?_
      obtain ⟨i, hi⟩ := Option.isSome_iff_exists.1 ((full_of_partsOf hparts).2 hr t ht)
      refine ⟨i.view, by rw [hi, Option.map_some], .inl ?_⟩
      show finalLayout parts t = layoutShaderRead
      rw [finalLayout, hr, Bool.true_or, if_pos rfl]
    · rw [if_neg hr, if_neg (show ¬(layoutOf ctx d parts).resolve from hr)]
      exact .nil
  · rcases hdepth : parts.depth with _ | t
    · simp [layoutOf, hdepth]
    rcases hi : t.depth with _ | ⟨f, i⟩
    · simp [layoutOf, hdepth, Texture.depthFormat?, Texture.depthView?, hi]
    · have hunread : i.view.IsUnread calls :=
        ((hmade t (.inr hdepth)).depth f i hi).isUnread usageDepth_unread
      simp [layoutOf, hdepth, Texture.depthFormat?, Texture.depthView?, hi, hunread]

theorem IsFormed.leavesReady (h : p.IsFormed ctx calls) (hpass : info.pass = p.renderPass)
    (hframebuffer : info.framebuffer = p.framebuffer) : info.LeavesReady calls := by
  obtain ⟨d, parts, hformed⟩ := h
  obtain ⟨m, hparts⟩ := hformed.fit
  obtain ⟨-, hready⟩ := List.forall₂_iff_zip.1 (ready_viewsOf hparts hformed.images)
  exact ⟨_, _, hpass ▸ hformed.joined.renderPass, hframebuffer ▸ hformed.joined.framebuffer,
    fun _ hp ↦ hready hp⟩

end Pass

/-- Nothing is read from the images of the screen. -/
theorem Swapchain.IsFurnished.leavesReady {s : Swapchain} (h : s.IsFurnished ctx calls)
    (hpass : info.pass = s.renderPass) (hframebuffer : info.framebuffer ∈ s.framebuffers) :
    info.LeavesReady calls := by
  obtain ⟨views, extent, hmade, hunread⟩ := h.framebuffers _ hframebuffer
  exact ⟨_, _, hpass ▸ h.renderPass, hmade, fun _ hp ↦ .inr (hunread _ (List.of_mem_zip hp).2)⟩

/-! ### Traces that go on -/

/-- The call has no rule to keep. -/
def Call.IsFree : Call → Prop
  | record _ (.beginPass _) | updateSets _ => False
  | _ => True

theorem Call.IsFree.serves {c : Call} (h : c.IsFree) (past : List Call) : c.Serves past := by
  cases c with
  | record b r =>
    cases r with
    | beginPass => exact h.elim
    | _ => trivial
  | updateSets => exact h.elim
  | _ => trivial

theorem Recorded.IsPlain.isFree {r : Recorded} (h : r.IsPlain) (b : Object .commandBuffer) :
    (Call.record b r).IsFree := by
  cases r with
  | beginPass => exact h.elim
  | _ => trivial

theorem FrameSlot.isFree_binds (f : FrameSlot) (p : Pipeline) (m : Mesh) :
    ∀ c ∈ f.binds p m, c.IsFree := by
  rw [binds, Mesh.binds]
  cases m.indices <;> simp [Call.IsFree]

namespace Serves

variable {l : List Call} {k k' : Host} {made : List ObjectKind}

theorem append (h : Serves calls) (hl : ∀ c ∈ l, c.IsFree) : Serves (l ++ calls) := by
  induction l with
  | nil => exact h
  | cons c l ih =>
    obtain ⟨hc, hl⟩ := List.forall_mem_cons.1 hl
    exact ⟨ih hl, hc.serves _⟩

theorem gain (h : Serves k.driver.calls) (hk : k.Gains made l k') (hl : ∀ c ∈ l, c.IsFree) :
    Serves k'.driver.calls :=
  hk.calls ▸ h.append hl

/-- What is done outside frames has no rule to keep. -/
theorem grow (h : Serves k.driver.calls) (hk : k.driver.Grows uploads k'.driver) :
    Serves k'.driver.calls := by
  obtain ⟨l, hl, houtside⟩ := hk.calls
  rw [hl]
  refine h.append fun c hc ↦ ?_
  cases c with
  | record b r =>
    have hprepares := (houtside.of_record hc).2
    cases r with
    | beginPass => exact hprepares.elim
    | _ => trivial
  | updateSets writes => exact (houtside.not_mem_updateSets writes hc).elim
  | _ => trivial

end Serves

namespace Device

variable {d : Device} {s t : Device × Host} {a : ActivePass} {cs : List GraphicsDevice.Command}
  {f : FrameSlot} {p : Pipeline} {mesh : Mesh} {k : Host} {views : List (Object .view)}

/-- A pass that a device begins leaves its images ready. -/
theorem Targets.leavesReady (h : d.Targets a info) (hd : d.Evident calls) :
    info.LeavesReady calls := by
  cases h with
  | offscreen found _ _ _ _ pass framebuffer => exact (hd.passes found).leavesReady pass framebuffer
  | screen _ _ pass framebuffer => exact hd.screen.leavesReady pass framebuffer

/-- A texture that can be sampled has an image that is ready. -/
theorem Samples.reads {id : TextureId} {v : Object .view} (h : d.Samples id v)
    (hd : d.Evident calls) : ∃ t i, d.textures.get? id = some t ∧ t.sampledImage? = some i ∧
      i.view = v ∧ v.Reads i.image calls := by
  obtain ⟨t, ht, -, hv⟩ := h
  obtain ⟨hmade, hprepared⟩ := hd.textures ht
  obtain ⟨i, hi, hiv, hreads⟩ := hmade.reads hprepared hv
  exact ⟨t, i, ht, hi, hiv, hreads⟩

/-! ### Moves -/

/-- A set that is written shows images that are ready. -/
theorem Fits.serves {state : DrawState} {made : List ObjectKind} {l : List Call} {n : ℕ}
    (h : d.Fits a state p mesh views) (hd : d.Evident calls)
    (hl : f.Fetches p d.sampler views n made l) (hs : Serves calls) :
    Serves (l ++ (f.binds p mesh ++ calls)) := by
  have hbound : Serves (f.binds p mesh ++ calls) := hs.append (f.isFree_binds p mesh)
  cases hl with
  | unneeded => exact hbound
  | made =>
    have hset : ∀ w ∈ p.writes d.sampler ⟨n + 1⟩ views, w.set = ⟨n + 1⟩ := by
      intro w hw
      obtain ⟨_, -, rfl⟩ := List.mem_map.1 hw
      rfl
    refine ⟨⟨⟨hbound, trivial⟩, ⟨_, _, _, _, rfl, hset⟩, fun w hw ↦ ?_⟩, trivial⟩
    obtain ⟨⟨binding, v⟩, hzip, rfl⟩ := List.mem_map.1 hw
    obtain ⟨id, -, hsamples⟩ := exists_of_forall₂ h.sampled (List.of_mem_zip hzip).2
    obtain ⟨_, i, -, -, -, hreads⟩ := hsamples.reads hd
    exact ⟨i.image, hreads.suffix ⟨_ :: f.binds p mesh, rfl⟩⟩

/-- **Every move serves sampling.** -/
theorem Move.serves (h : Move cs s t) (hd : s.1.Evident s.2.driver.calls)
    (hs : Serves s.2.driver.calls) : Serves t.2.driver.calls := by
  cases h with
  | outsideFrames grows | release _ _ grows => exact hs.grow grows
  | note | next | enterUntargeted | leaveUntargeted => exact hs
  | make stores => exact hs.grow stores.grows
  | screen _ works =>
    have hgrows : Driver.Grows .null _ _ := works.grows
    exact hs.grow hgrows
  | begin _ _ _ gains | submit _ _ _ gains | leave _ _ _ gains =>
    exact hs.gain gains (by simp [Call.IsFree])
  | stall _ _ gains steps =>
    refine hs.gain gains fun c hc ↦ ?_
    have hstep := steps c hc
    cases c with
    | record | updateSets => exact hstep.elim
    | _ => trivial
  | record _ _ _ records gains =>
    exact hs.gain gains (List.forall_mem_singleton.2 (records.isPlain.isFree _))
  -- The two moves that the rules are about: a pass begins, and a set is written and bound.
  | enter _ _ _ enters gains =>
    show Serves _
    rw [gains.calls]
    exact ⟨⟨⟨hs, (enters.targets _).leavesReady hd⟩, trivial⟩, trivial⟩
  | bind _ _ _ fits fetches gains =>
    show Serves _
    rw [gains.calls, List.append_assoc]
    exact fits.serves hd fetches hs
  | misbind _ _ _ _ _ gains =>
    exact hs.gain gains (List.forall_mem_cons.2 ⟨trivial, FrameSlot.isFree_binds _ _ _⟩)
  | bindUntargeted _ _ _ rests => exact rests ▸ hs

/-- A new device was set up outside frames. -/
theorem IsNew.exists_grows (h : IsNew s) :
    ∃ k : Host, k.driver.calls = [] ∧ k.driver.Grows s.1.context.uploadPool s.2.driver := by
  obtain ⟨w, size, config, builtIn, k, hfresh, hcreate⟩ := h
  have hsound : Sound True False s := Meets.ok meets_create ⟨hfresh, False.elim⟩ hcreate
  obtain ⟨-, hsince⟩ := meets_create_since.ok (.refl k.driver) hcreate
  exact ⟨k, hfresh.calls, (hsince (framePool_ne hsound)).toGrows⟩

theorem IsNew.serves (h : IsNew s) : Serves s.2.driver.calls := by
  obtain ⟨k, hempty, hgrows⟩ := h.exists_grows
  have hnothing : Serves k.driver.calls := hempty ▸ trivial
  exact hnothing.grow hgrows

/-- **The trace of every device that is reached serves sampling.** -/
theorem Reached.serves {l : List (GraphicsDevice.Command × Option ResourceId)} (h : Reached l t) :
    Serves t.2.driver.calls := by
  obtain ⟨s, cs, hnew, hmoves⟩ := Reached.moves h
  have hs : s.1.Evident s.2.driver.calls ∧ Serves s.2.driver.calls := ⟨hnew.evident, hnew.serves⟩
  exact (hmoves.keeps (I := fun p ↦ p.1.Evident p.2.driver.calls ∧ Serves p.2.driver.calls)
    (fun hmove hp ↦ ⟨hmove.evident hp.1, hmove.serves hp.1 hp.2⟩) hs).2

end Device

end RenderTargets.Vulkan
