import RenderTargets.Proofs.Vulkan.Backing
import RenderTargets.Proofs.Vulkan.Contents
import RenderTargets.Proofs.Vulkan.Lives
/-!
# The layouts of images

A device does not keep the layouts of its images. What they are follows from the commands that the
GPU executes: `layoutAfter` is the layout of an image after some of them, which is undefined at
first, and then what the latest preparation says, or the latest render pass instance that had the
image as an attachment.

A trace **serves** sampling if it keeps two rules at every call (`Serves`). What is written into a
set is ready by then, and a pass leaves all images ready that shaders may read. An image that is
ready is ready for good then (`Serves.layoutAfter_eq`): there is no need to look at layouts again.
-/

namespace RenderTargets.Vulkan

variable {frames : AnyObject} {calls calls' l : List Call} {v w : Object .view}
  {image : Object .image} {info : PassBegin} {rs : List Recorded} {b : Object .commandBuffer}

/-! ### What passes render into -/

/-- The image behind a view. -/
def Object.image? (v : Object .view) (calls : List Call) : Option AnyObject :=
  (Making.view.of? v calls).map (·.image)

/-- The attachments of a render pass instance, each with its view. -/
def PassBegin.attachments (info : PassBegin) (calls : List Call) :
    List (Attachment × Object .view) :=
  match Making.renderPass.of? info.pass calls, Making.framebuffer.of? info.framebuffer calls with
  | some shape, some framebuffer => shape.attachments.zip framebuffer.views
  | _, _ => []

/-- The layout in which a render pass instance leaves an image, if it is an attachment. -/
def PassBegin.leaves? (info : PassBegin) (image : Object .image) (calls : List Call) :
    Option Code :=
  (info.attachments calls).findSome? fun (a, v) ↦
    if v.image? calls = some image.any then some a.finalLayout else none

/-- The layout of an image after the commands, the latest of which comes first. -/
def layoutAfter (image : Object .image) (calls : List Call) : List Recorded → Code
  | [] => layoutUndefined
  | .prepareForSampling i :: past =>
    if i = image then layoutShaderRead else layoutAfter image calls past
  | .endPass :: past =>
    ((passOf past).bind (·.leaves? image calls)).getD (layoutAfter image calls past)
  | _ :: past => layoutAfter image calls past

/-! ### What is ready -/

/-- The view shows the image, which was made to be read by shaders and got ready for it. -/
structure Object.Reads (v : Object .view) (image : Object .image) (calls : List Call) : Prop where
  /-- The image. -/
  made : ∃ info, .createImage image info ∈ calls ∧ Flags.contains info.usage usageSampled = true
  /-- The view. -/
  view : ∃ format aspect, .createView v ⟨image.any, format, aspect⟩ ∈ calls
  /-- It was got ready. -/
  prepared : .prepareForSampling image ∈ executed calls

/-- The pass leaves all its images ready for sampling, but for those that no shader reads. -/
def PassBegin.LeavesReady (info : PassBegin) (calls : List Call) : Prop :=
  ∃ shape framebuffer, .createRenderPass info.pass shape ∈ calls ∧
    .createFramebuffer info.framebuffer framebuffer ∈ calls ∧
    ∀ p ∈ shape.attachments.zip framebuffer.views,
      p.1.finalLayout = layoutShaderRead ∨ p.2.IsUnread calls

theorem Object.Reads.suffix (h : v.Reads image calls) (hl : calls <:+ calls') :
    v.Reads image calls' := by
  obtain ⟨info, hmade, husage⟩ := h.made
  obtain ⟨format, aspect, hview⟩ := h.view
  obtain ⟨later, rfl⟩ := hl
  exact ⟨⟨info, List.mem_append_right _ hmade, husage⟩,
    ⟨format, aspect, List.mem_append_right _ hview⟩,
      (executed_suffix later calls).subset h.prepared⟩

theorem PassBegin.lasts_leavesReady (info : PassBegin) : Lasts info.LeavesReady := by
  rintro l l' hl ⟨shape, framebuffer, hshape, hframebuffer, hready⟩
  exact ⟨shape, framebuffer, hl hshape, hl hframebuffer, fun p hp ↦
    (hready p hp).imp_right (p.2.lasts_isUnread hl)⟩

theorem Fair.image?_eq_some (h : Fair frames calls) {o : AnyObject} {format : Code} {aspect : Flags}
    (hv : .createView v ⟨o, format, aspect⟩ ∈ calls) : v.image? calls = some o := by
  have hview : Making.view.of? v calls = some ⟨o, format, aspect⟩ := h.of?_eq_some_iff.2 hv
  rw [Object.image?, hview]
  rfl

/-- An image that is read is not behind a view that is not. -/
theorem Object.IsUnread.image?_ne (h : v.IsUnread calls) (hfair : Fair frames calls)
    (hw : w.Reads image calls) : v.image? calls ≠ some image.any := by
  obtain ⟨info, hmade, husage⟩ := hw.made
  intro he
  cases h with
  | screen view =>
    rw [hfair.image?_eq_some view] at he
    cases he
  | @unsampled image' info' _ _ made unread view =>
    rw [hfair.image?_eq_some view] at he
    -- It is the same image, which was made once.
    have hcall := hfair.call_unique made hmade rfl rfl (Option.some.inj he)
    obtain ⟨-, rfl⟩ := Call.createImage.inj hcall
    cases unread.symm.trans husage

/-! ### Images stay ready -/

theorem mem_of_passOf (h : passOf rs = some info) : .beginPass info ∈ rs := by
  fun_induction passOf rs with
  | case1 => cases h
  | case2 =>
    cases h
    exact List.mem_cons_self
  | case3 => cases h
  | case4 r past _ _ ih => exact List.mem_cons_of_mem r (ih h)

/-- A pass that leaves images ready leaves an image ready that is read. -/
theorem PassBegin.LeavesReady.leaves?_eq (h : info.LeavesReady calls) (hfair : Fair frames calls)
    (hw : w.Reads image calls) {layout : Code} (hl : info.leaves? image calls = some layout) :
    layout = layoutShaderRead := by
  obtain ⟨shape, framebuffer, hshape, hframebuffer, hready⟩ := h
  have hattachments : info.attachments calls = shape.attachments.zip framebuffer.views := by
    have hshape : Making.renderPass.of? info.pass calls = some shape :=
      hfair.of?_eq_some_iff.2 hshape
    have hframebuffer : Making.framebuffer.of? info.framebuffer calls = some framebuffer :=
      hfair.of?_eq_some_iff.2 hframebuffer
    rw [PassBegin.attachments, hshape, hframebuffer]
  rw [leaves?, hattachments] at hl
  obtain ⟨⟨a, v⟩, hp, hlayout⟩ := List.exists_of_findSome?_eq_some hl
  dsimp only at hlayout
  split at hlayout
  · next himage =>
    obtain rfl := Option.some.inj hlayout
    exact (hready _ hp).resolve_right fun hunread ↦ hunread.image?_ne hfair hw himage
  · cases hlayout

/-- An image that was got ready stays so. -/
theorem layoutAfter_eq (hfair : Fair frames calls) (hw : w.Reads image calls)
    (hpasses : ∀ info, .beginPass info ∈ rs → info.LeavesReady calls)
    (hprepared : .prepareForSampling image ∈ rs) :
    layoutAfter image calls rs = layoutShaderRead := by
  -- The induction is on what was recorded, from the latest on. After the barrier only passes that
  -- end change the layout, and those leave the image ready.
  induction rs with
  | nil => cases hprepared
  | cons r rs ih =>
    have hrest (hr : .prepareForSampling image ∈ rs) :
        layoutAfter image calls rs = layoutShaderRead :=
      ih (fun info hinfo ↦ hpasses info (List.mem_cons_of_mem r hinfo)) hr
    cases r with
    | prepareForSampling i =>
      rw [layoutAfter]
      split
      · rfl
      · next hi =>
        refine hrest ((List.mem_cons.1 hprepared).resolve_left fun he ↦ hi ?_)
        cases he
        rfl
    | endPass =>
      have hbefore := hrest ((List.mem_cons.1 hprepared).resolve_left nofun)
      rw [layoutAfter, hbefore]
      rcases hleaves : (passOf rs).bind (·.leaves? image calls) with _ | layout
      · rfl
      · obtain ⟨info, hinfo, hlayout⟩ := Option.bind_eq_some_iff.1 hleaves
        have hready := hpasses info (List.mem_cons_of_mem _ (mem_of_passOf hinfo))
        exact hready.leaves?_eq hfair hw hlayout
    | _ => exact hrest ((List.mem_cons.1 hprepared).resolve_left nofun)

/-! ### Traces that serve sampling -/

/-- The call keeps the rules. -/
def Call.Serves (past : List Call) : Call → Prop
  | record _ (.beginPass info) => info.LeavesReady past
  | updateSets writes =>
    (∃ set pool layout earlier, past = .allocateDescriptorSet set pool layout :: earlier ∧
      ∀ w ∈ writes, w.set = set) ∧ ∀ w ∈ writes, ∃ image, w.view.Reads image past
  | _ => True

/-- Every call keeps the rules. -/
def Serves : List Call → Prop
  | [] => True
  | c :: past => Serves past ∧ c.Serves past

namespace Serves

theorem of_append (h : Serves (l ++ calls)) : Serves calls := by
  induction l with
  | nil => exact h
  | cons c l ih => exact ih h.1

/-- A pass that was begun leaves its images ready. -/
theorem leavesReady (h : Serves calls) (hc : .record b (.beginPass info) ∈ calls) :
    info.LeavesReady calls := by
  obtain ⟨later, past, rfl⟩ := List.append_of_mem hc
  have hserves : info.LeavesReady past := h.of_append.2
  exact info.lasts_leavesReady (fun c hc ↦ List.mem_append_right _ (List.mem_cons_of_mem _ hc))
    hserves

/-- What was written is ready. -/
theorem reads (h : Serves calls) {writes : List DescriptorWrite} {w : DescriptorWrite}
    (hc : .updateSets writes ∈ calls) (hw : w ∈ writes) : ∃ image, w.view.Reads image calls := by
  obtain ⟨later, past, rfl⟩ := List.append_of_mem hc
  obtain ⟨-, hreads⟩ : _ ∧ ∀ w ∈ writes, ∃ image, w.view.Reads image past := h.of_append.2
  obtain ⟨image, himage⟩ := hreads w hw
  exact ⟨image, himage.suffix ⟨later ++ [.updateSets writes], by simp⟩⟩

/-- A set that is written was made. -/
theorem named (h : Serves calls) {writes : List DescriptorWrite} {w : DescriptorWrite}
    (hc : .updateSets writes ∈ calls) (hw : w ∈ writes) : Named calls w.set.any := by
  obtain ⟨later, past, rfl⟩ := List.append_of_mem hc
  obtain ⟨⟨set, pool, layout, earlier, rfl, hsets⟩, -⟩ := h.of_append.2
  exact ⟨.allocateDescriptorSet set pool layout, by simp, _, rfl, by rw [hsets w hw]⟩

/-- A set is written once, because it was made just before. -/
theorem writes_unique (h : Serves calls) (hfair : Fair frames calls)
    {writes writes' : List DescriptorWrite} {w w' : DescriptorWrite}
    (hc : .updateSets writes ∈ calls) (hw : w ∈ writes)
    (hc' : .updateSets writes' ∈ calls) (hw' : w' ∈ writes') (hset : w.set = w'.set) :
    writes = writes' := by
  induction calls with
  | nil => cases hc
  | cons c past ih =>
    -- Nothing was written earlier into the set that is written now.
    have hfirst {writes writes' : List DescriptorWrite} {w w' : DescriptorWrite}
        (hserves : (Call.updateSets writes).Serves past) (hw : w ∈ writes)
        (hc' : .updateSets writes' ∈ past) (hw' : w' ∈ writes') : w.set ≠ w'.set := by
      obtain ⟨⟨set, pool, layout, earlier, rfl, hsets⟩, -⟩ := hserves
      have hearlier : .updateSets writes' ∈ earlier := (List.mem_cons.1 hc').resolve_left nofun
      have hnamed : Named earlier w'.set.any := named h.1.1 hearlier hw'
      have hnew : ¬Named earlier set.any := (hfair.1.2.made _ rfl).1
      rw [hsets w hw]
      rintro rfl
      exact hnew hnamed
    rcases List.mem_cons.1 hc with rfl | hpast <;> rcases List.mem_cons.1 hc' with hc' | hpast'
    · exact (Call.updateSets.inj hc').symm
    · exact (hfirst h.2 hw hpast' hw' hset).elim
    · subst hc'
      exact (hfirst h.2 hw' hpast hw hset.symm).elim
    · exact ih h.1 hfair.1 hpast hpast'

/-- **An image that is read is in the layout for reading**, whatever was executed since it was got
ready, up to any command of a buffer that was recorded. -/
theorem layoutAfter_eq (h : Serves calls) (hfair : Fair frames calls) (hw : w.Reads image calls)
    {pre post : List Recorded} (hheld : contents b calls = post ++ pre) :
    layoutAfter image calls (pre ++ executed calls) = layoutShaderRead := by
  refine Vulkan.layoutAfter_eq hfair hw (fun info hinfo ↦ ?_)
    (List.mem_append_right _ hw.prepared)
  rcases List.mem_append.1 hinfo with hinfo | hinfo
  · refine h.leavesReady (b := b) (mem_of_mem_contents ?_)
    rw [hheld]
    exact List.mem_append_right _ hinfo
  · obtain ⟨b, hb⟩ := exists_record_of_executed hinfo
    exact h.leavesReady hb

end Serves

end RenderTargets.Vulkan
