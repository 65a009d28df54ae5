import RenderTargets.Proofs.Vulkan.Instances
import RenderTargets.Proofs.Vulkan.Owners
import RenderTargets.Proofs.Vulkan.Positions
/-!
# What the mark of a texture stands for

A texture of several samples is sampled through an image that passes resolve it into, and only after
a pass did. The device keeps a **mark** of that with the texture. It is set as the pass ends, which
is when the commands are recorded and not when the GPU executes them, and nothing takes it back.

So what a mark stands for is an instance that was recorded, and of which anything may have become
since (`Fate`): it was handed over, or it waits in the buffer of its slot, or it was lost with that
buffer. A device has no way to tell these apart. That is `Device.Fated`, and every marked image has
it (`Reached.fated`).

The mark is set by the handles that a pass was made of, so all this holds as long as no such handle
is handed out again (`NoReuse`).
-/

namespace RenderTargets.Vulkan

open StepWith GraphicsDevice

variable {info : PassBegin} {image : Object .image} {calls calls' : List Call}

/-! ### Resolving -/

/-- The pass of the instance has the image as one that it resolves into. -/
inductive PassBegin.ResolvesInto (info : PassBegin) (image : Object .image) (calls : List Call) :
    Prop
  | intro {shape made r i v} (pass : .createRenderPass info.pass shape ∈ calls)
      (framebuffer : .createFramebuffer info.framebuffer made ∈ calls)
      (resolve : r ∈ shape.resolves) (index : r.index = .ofNat i)
      (view : made.views[i]? = some v) (image : v.IsViewOf image calls)

theorem PassBegin.lasts_resolvesInto (info : PassBegin) (image : Object .image) :
    Lasts (info.ResolvesInto image) := by
  rintro l l' hl ⟨hpass, hframebuffer, hresolve, hindex, hview, himage⟩
  exact ⟨hl hpass, hl hframebuffer, hresolve, hindex, hview, Object.lasts_isViewOf _ _ hl himage⟩

namespace Device

variable {d d' : Device} {k k' : Host} {s t : Device × Host} {cs : List GraphicsDevice.Command}
  {l l' : List (GraphicsDevice.Command × Option ResourceId)} {a : ActivePass} {i : Image}

/-- A pass resolves into the images of its textures that are alive. -/
theorem Reached.resolvesInto {q : PassId} {p : Pass} {id : TextureId} {x : Texture}
    (h : Reached l s) (hl : NoReuse l) (hp : s.1.passes.get? q = some p) (hr : p.resolves = true)
    (hid : id ∈ p.textures) (hx : s.1.textures.get? id = some x) (hi : x.resolve = some i)
    (hpass : info.pass = p.renderPass) (hframebuffer : info.framebuffer = p.framebuffer) :
    info.ResolvesInto i.image s.2.driver.calls := by
  obtain ⟨desc, m, ⟨ctx, parts, hparts, hof, hjoined⟩, hattached⟩ := h.lineage.passes q p hp
  rw [hof.textures] at hid
  obtain ⟨u, hu, mark, hmark⟩ := hattached.stays_of_noReuse hl hid (Option.isSome_of_eq_some hx)
  obtain rfl := Option.some.inj (hx.symm.trans hmark)
  -- The texture has a position in the description, and its image has one among those resolved into.
  obtain ⟨c, hc, rfl⟩ := List.mem_map.1 hid
  obtain ⟨j, hj⟩ := List.getElem?_of_mem hc
  obtain ⟨u', image, hu', himage, -, href, hview⟩ :=
    Pass.exists_resolve_of_partsOf hparts ctx (hof.resolves ▸ hr) hj
  obtain rfl := Option.some.inj (hu.symm.trans hu')
  obtain rfl : image = i := Option.some.inj (himage.symm.trans hi)
  exact .intro (hpass ▸ hjoined.renderPass) (hframebuffer ▸ hjoined.framebuffer)
    (List.mem_of_getElem? href) rfl hview
    ((h.evident.textures hx).1.isViewOf (Texture.resolve_mem_images hi))

/-! ### Marks -/

/-- The image is one that a texture is marked to have been resolved into. -/
def Marked (d : Device) (image : Object .image) : Prop :=
  ∃ id x i, d.textures.get? id = some x ∧ x.resolved = true ∧ x.resolve = some i ∧ i.image = image

/-- A new texture has no mark. -/
theorem Stores.marked (h : d.Stores k d' k') (hm : d'.Marked image) : d.Marked image := by
  cases h with
  | texture run stored =>
    obtain ⟨id, x, i, hx, hmark, hi⟩ := hm
    rcases Slot.Map.get?_of_get?_insert? stored hx with ⟨-, rfl⟩ | hold
    · have hnew : _ ∧ _ ∧ x.resolved = false := Texture.answers_create _ _ _ run
      cases hnew.2.2.symm.trans hmark
    · exact ⟨id, x, i, hold, hmark, hi⟩
  | mesh | shader | pipeline | pass => exact hm

theorem marked_of_remove {id : ResourceId} {drop : Run Unit} (hr : d.remove? id = some (d', drop))
    (hm : d'.Marked image) : d.Marked image := by
  cases id with
  | texture =>
    obtain ⟨⟨_, m⟩, hremove, he⟩ := Option.map_eq_some_iff.1 hr
    cases he
    obtain ⟨id, x, i, hx, h⟩ := hm
    exact ⟨id, x, i, Slot.Map.get?_of_remove hremove hx, h⟩
  | mesh | shader | pipeline | pass =>
    obtain ⟨⟨_, m⟩, -, he⟩ := Option.map_eq_some_iff.1 hr
    cases he
    exact hm

/-- As a pass ends, the textures that it resolves are marked. -/
theorem marked_afterPass (hm : (d.afterPass a).Marked image) :
    d.Marked image ∨ a.resolves = true ∧ ∃ id ∈ a.attachments, ∃ x i,
      d.textures.get? id = some x ∧ x.resolve = some i ∧ i.image = image := by
  obtain ⟨id, x, i, hx, hmark, hi⟩ := hm
  rw [afterPass] at hx
  dsimp only at hx
  split at hx
  · next hr =>
    rw [get?_foldl_markResolved] at hx
    obtain ⟨y, hy, rfl⟩ := Option.map_eq_some_iff.1 hx
    rcases Bool.or_eq_true_iff.1 hmark with hmark | hid
    · exact .inl ⟨id, y, i, hy, hmark, hi⟩
    · exact .inr ⟨hr, id, List.contains_iff_mem.1 hid, y, i, hy, hi⟩
  · exact .inl ⟨id, x, i, hx, hmark, hi⟩

/-! ### Moves -/

/-- The pass resolves nothing, if there is one. -/
def ResolvesNothing (d : Device) : Prop := ∀ a, d.active = some a → a.resolves = false

/-- **Only the end of a pass sets marks.** -/
theorem Move.marked (h : Move cs s t) (hend : .endPass ∈ cs → s.1.ResolvesNothing)
    (hm : t.1.Marked image) : s.1.Marked image := by
  cases h with
  | make stores => exact stores.marked hm
  | release _ removed => exact marked_of_remove removed hm
  | leave active | leaveUntargeted active =>
    have hnothing := hend (List.mem_singleton_self _) _ active
    exact (marked_afterPass hm).resolve_right fun hresolves ↦
      Bool.false_ne_true (hnothing.symm.trans hresolves.1)
  | _ => exact hm

/-- The pass that is active was so before, but for its draw state, or it began. -/
theorem Move.active_cases (h : Move cs s t) (ha : t.1.active = some a) :
    (∃ b, s.1.active = some b ∧ a.resolves = b.resolves ∧ a.recording = b.recording) ∨
      ∃ pass action target, cs = [.beginPass pass action] ∧ s.1.Enters action pass a target := by
  cases h with
  | outsideFrames | note | record | begin | stall | submit | next | screen =>
    exact .inl ⟨a, ha, rfl, rfl⟩
  | make stores => exact .inl ⟨a, stores.precedes.active ▸ ha, rfl, rfl⟩
  | release _ removed =>
    have ⟨_, _, _, _, hactive⟩ : Run.IsOutsideFrames .null _ ∧ _ := outsideFrames_remove? removed
    exact .inl ⟨a, hactive ▸ ha, rfl, rfl⟩
  | enter _ _ _ enters | enterUntargeted _ _ enters =>
    obtain rfl := Option.some.inj ha
    exact .inr ⟨_, _, _, rfl, enters⟩
  | bind active | misbind active | bindUntargeted active =>
    obtain rfl := Option.some.inj ha
    exact .inl ⟨_, active, rfl, rfl⟩
  | leave | leaveUntargeted => cases ha

theorem Enters.resolves {action : PassAction} {target : Option Target}
    (h : d.Enters action none a target) : a.resolves = false := by
  cases h <;> rfl

/-- Without a target nothing is resolved. -/
def UntargetedResolvesNothing (d : Device) : Prop :=
  ∀ a, d.active = some a → a.recording = false → a.resolves = false

theorem Move.resolvesNothing (h : Move cs s t) (hs : s.1.UntargetedResolvesNothing) :
    t.1.UntargetedResolvesNothing := by
  intro a ha hnot
  rcases h.active_cases ha with ⟨b, hb, hresolves, hrecording⟩ | ⟨pass, action, target, -, henters⟩
  · exact hresolves.trans (hs b hb (hrecording ▸ hnot))
  · cases henters with
    | offscreen htarget =>
      rw [offscreenTarget] at htarget
      split at htarget
      · split at htarget
        · cases htarget
        · cases htarget
          cases hnot
      · cases htarget
    | screen | untargeted => rfl

theorem Moves.marked (h : Moves s cs t) (hend : .endPass ∉ cs) (hm : t.1.Marked image) :
    s.1.Marked image := by
  induction h with
  | refl => exact hm
  | step _ move ih =>
    rw [List.mem_append, not_or] at hend
    exact ih hend.1 (move.marked (fun hmem ↦ (hend.2 hmem).elim) hm)

/-- If only passes into the screen begin, nothing is marked. -/
theorem Moves.marked_of_screen (h : Moves s cs t) (hs : s.1.ResolvesNothing)
    (hbegin : ∀ pass action, .beginPass (some pass) action ∉ cs) :
    t.1.ResolvesNothing ∧ (t.1.Marked image → s.1.Marked image) := by
  induction h with
  | refl => exact ⟨hs, id⟩
  | step _ move ih =>
    obtain ⟨hnothing, hmarked⟩ := ih fun pass action hmem ↦
      hbegin pass action (List.mem_append_left _ hmem)
    refine ⟨fun a ha ↦ ?_, fun hm ↦ hmarked (move.marked (fun _ ↦ hnothing) hm)⟩
    rcases move.active_cases ha with ⟨b, hb, hresolves, -⟩ | ⟨pass, action, target, rfl, henters⟩
    · exact hresolves.trans (hnothing b hb)
    · cases pass with
      | none => exact henters.resolves
      | some pass =>
        exact (hbegin pass action (List.mem_append_right _ (List.mem_singleton_self _))).elim

/-- A command sets no marks unless it ends a pass. -/
theorem Labelled.marked {c : GraphicsDevice.Command} {labels : List GraphicsDevice.Command}
    (h : Labelled s [] s.1 c labels t) (hend : .endPass ∉ labels) (hm : t.1.Marked image) :
    s.1.Marked image := by
  obtain ⟨cs, hmoves, rfl | ⟨-, hnone, rfl⟩⟩ := h
  · exact hmoves.marked hend hm
  · refine (hmoves.marked_of_screen (fun a ha ↦ ?_) (by simp)).2 hm
    cases hnone.symm.trans ha

theorem not_mem_labelsOf {c : GraphicsDevice.Command} (h : c ≠ .endPass) :
    .endPass ∉ labelsOf c := by
  cases c with
  | endPass => exact (h rfl).elim
  | _ => simp [labelsOf]

/-! ### Fates -/

/-- An instance was recorded that resolves into the image, and something became of it. -/
def Fated (d : Device) (calls : List Call) (image : Object .image) : Prop :=
  ∃ f ∈ d.slots, ∃ info : PassBegin, info.ResolvesInto image calls ∧
    Fate d.context.uploadPool f info calls

/-- The steps of a slot come in turn. -/
theorem Reached.progress {f : FrameSlot} (h : Reached l t) (hf : f ∈ t.1.slots) :
    ∃ p, Progress.after t.1.context.uploadPool f t.2.driver.calls = some ⟨false, p⟩ := by
  obtain ⟨uploads, slots, -, hturn⟩ := h.inTurn
  have hslots := InTurn.hasSlots (d := t.1) (k := t.2) hturn
  rw [hslots.uploads]
  exact InTurn.progress (d := t.1) (k := t.2) hturn (hslots.slots ▸ hf)

/-- What becomes of an instance later. -/
theorem Fated.onward (h : s.1.Fated s.2.driver.calls image) (ho : Onward s t) (ht : Reached l t) :
    t.1.Fated t.2.driver.calls image := by
  obtain ⟨f, hf, info, hinfo, hfate⟩ := h
  have hf' : f ∈ t.1.slots := ho.slots ▸ hf
  obtain ⟨p, hp⟩ := ht.progress hf'
  refine ⟨f, hf', info, info.lasts_resolvesInto image ho.calls.subset hinfo, ?_⟩
  obtain ⟨later, hlater⟩ := ho.calls
  rw [← hlater] at hp ⊢
  rw [ho.context]
  exact hfate.append (Option.isSome_of_eq_some (ho.context ▸ hp))

theorem Reached.resolvesNothing (h : Reached l t) : t.1.UntargetedResolvesNothing := by
  obtain ⟨s, cs, hnew, hmoves⟩ := Reached.moves h
  refine hmoves.keeps (I := fun s ↦ s.1.UntargetedResolvesNothing) Move.resolvesNothing
    fun a ha ↦ ?_
  obtain ⟨w, size, config, builtIn, k, hfresh, hcreate⟩ := hnew
  obtain ⟨⟨-, hactive⟩, -⟩ := stands_of_create hfresh hcreate
  cases hactive.symm.trans ha

/-- The textures that a pass marks as it ends were resolved by an instance that ends with it. -/
theorem Reached.fated_of_endPass (h : Reached l s) (hl : NoReuse l) (ht : Reached l' t)
    (hmove : Move [.endPass] s t) (ha : s.1.active = some a) (hr : a.resolves = true)
    {id : TextureId} {x : Texture} (hid : id ∈ a.attachments) (hx : s.1.textures.get? id = some x)
    (hi : x.resolve = some i) : t.1.Fated t.2.driver.calls i.image := by
  have honward := hmove.onward
  cases hmove with
  | leaveUntargeted active untargeted =>
    obtain rfl := Option.some.inj (active.symm.trans ha)
    exact (Bool.false_ne_true ((h.resolvesNothing _ ha untargeted).symm.trans hr)).elim
  | @leave d k b f k' active recording slot gains =>
    obtain rfl := Option.some.inj (active.symm.trans ha)
    obtain ⟨g, hg, hholds⟩ := h.inPass.holds b active recording
    obtain rfl := Option.some.inj (slot.symm.trans hg)
    obtain ⟨info, hinfo, htarget⟩ := hholds.target
    have hf : f ∈ d.slots := List.mem_of_getElem? slot
    cases htarget with
    | screen attachments => cases attachments ▸ hid
    | offscreen found _ attachments resolves _ pass framebuffer =>
      have hresolves := h.resolvesInto hl found (resolves ▸ hr) (attachments ▸ hid) hx hi pass
        framebuffer
      refine ⟨f, hf, info, info.lasts_resolvesInto _ honward.calls.subset hresolves, ?_⟩
      obtain ⟨p, hp⟩ := ht.progress hf
      have hcalls : k'.driver.calls = .record f.commands .endPass :: k.driver.calls := gains.calls
      rw [hcalls] at hp ⊢
      exact .of_endPass hinfo (Option.isSome_of_eq_some hp)

/-- A new device has no textures. -/
theorem IsNew.not_marked (h : IsNew s) : ¬s.1.Marked image := by
  rintro ⟨id, x, i, hx, -⟩
  cases (h.get?_textures id).symm.trans hx

/-- An end of a pass that is taken ends the pass there was. -/
theorem exists_move_of_endPass {answer : Option ResourceId}
    (took : GraphicsDevice.Command.endPass.answer s = .ok answer t) :
    ∃ b, s.1.active = some b ∧ t.1 = s.1.afterPass b ∧ Move [.endPass] s t := by
  rcases ha : s.1.active with _ | b
  · have hends : Meets (RunOn.At s.1 (MovedOn s [] s.1)) GraphicsDevice.Command.endPass.answer
        (fun _ _ ↦ False) fun _ ↦ Moves s [] := .map (refuses_endPass ha)
    exact (hends.ok ⟨rfl, .refl⟩ took).elim
  · have hends : Meets (RunOn.At s.1 (· = s.2)) GraphicsDevice.Command.endPass.answer
        (fun _ t ↦ t.1 = s.1.afterPass b ∧ Move [.endPass] s t) fun _ _ ↦ True :=
      .map (meets_endPass_move ha)
    exact ⟨b, rfl, hends.ok ⟨rfl, rfl⟩ took⟩

/-- **Behind every mark there is an instance that was recorded.** -/
theorem Reached.fated (h : Reached l s) (hl : NoReuse l) (hm : s.1.Marked image) :
    s.1.Fated s.2.driver.calls image := by
  induction h with
  | start hs => exact (hs.not_marked hm).elim
  | @taken l s a t c hs took ih =>
    have ht : Reached (l ++ [(c, a)]) t := .taken hs took
    have hlabelled := labelled_of_taken took
    by_cases hc : c = .endPass
    · -- A mark is new only if the pass that ends here resolved its textures.
      subst hc
      obtain ⟨b, hb, hafter, hmove⟩ := exists_move_of_endPass took
      rcases marked_afterPass (hafter ▸ hm) with hold | ⟨hr, id, hid, x, i, hx, hi, rfl⟩
      · exact (ih hl.of_append hold).onward hlabelled.onward ht
      · exact fated_of_endPass hs hl.of_append ht hmove hb hr hid hx hi
    · exact (ih hl.of_append (hlabelled.marked (not_mem_labelsOf hc) hm)).onward hlabelled.onward
        ht
  | @refused l s e t c hs hrefused ih =>
    have hlabelled := labelled_of_refused hrefused
    exact (ih hl (hlabelled.marked List.not_mem_nil hm)).onward hlabelled.onward
      (.refused hs hrefused)
  | between _ done ih =>
    cases done with
    | resize size => exact ih hl hm
    | surround around => exact ih hl hm

end Device

end RenderTargets.Vulkan
