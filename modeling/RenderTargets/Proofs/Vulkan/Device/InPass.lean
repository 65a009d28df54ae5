import RenderTargets.Proofs.Vulkan.Device.CommandMoves
/-!
# What the buffer of a frame holds inside a pass

While a pass is recorded, the buffer of the slot in use **holds** what the active pass says
(`Device.Holds`): it is in a render pass instance of that target, and the pipeline of the active
pass is bound. If the pipeline takes images, so is a set of its own, with the views of the textures
of the draw state that was taken last, unless that set could not be made (`Device.SetFor`).

What is in use is read off the commands that were taken, as `GraphicsDevice.inUse`. The active pass
names what is in use, unless a set is lacking.

All this is `Device.InPass`. Every move keeps it (`Move.inPass`), so that every device that is
reached has it (`Reached.inPass`). Nothing that is bound goes away inside a pass, because a frame is
recorded then, and nothing is released.

## What stays bound

A draw state names things that are bound in the buffer of the frame, and the active pass keeps their
handles. Such a kind of thing is `Bindable` if it is bound as it should be where a pass begins and
where a draw state is bound, and if neither sets nor commands that bind nothing get in its way.

Then it is there and bound while the pass is recorded (`Bindable.IsBound`), as no other move binds
anything. Every move keeps this (`Move.isBound`), so that every device that is reached has it
(`Reached.isBound`).
-/

namespace RenderTargets.Vulkan

open StepWith GraphicsDevice

variable {uploads : Object .commandPool} {k k' : Host} {made : List ObjectKind}
  {l calls : List Call} {r : Recorded} {held held' : List Recorded} {f : FrameSlot} {p : Pipeline}
  {m : Mesh}

/-! ### Hosts -/

theorem Driver.Grows.suffix {d d' : Driver} (h : d.Grows uploads d') : d.calls <:+ d'.calls := by
  obtain ⟨l, hl, -⟩ := h.calls
  exact ⟨l, hl.symm⟩

theorem Host.Gains.suffix (h : k.Gains made l k') : k.driver.calls <:+ k'.driver.calls :=
  ⟨l, h.calls.symm⟩

theorem Host.Gains.count_le (h : k.Gains made l k') (kind : ObjectKind) :
    k.driver.made.count kind ≤ k'.driver.made.count kind := by
  rw [h.made, List.count_append]
  omega

theorem Swapchain.Works.grows {ctx : Context} {size : Extent} {s t : Swapchain × Host}
    (h : Swapchain.Works ctx size s t) : s.2.driver.Grows uploads t.2.driver := by
  have houtside {α : Type} {x : RunOn Swapchain α} (hx : RunOn.IsOutsideFrames uploads x)
      (hrun : x.settle s = some t) : s.2.driver.Grows uploads t.2.driver :=
    ((hx s.2.driver).settle (Driver.Adds.refl _) hrun).toGrows
  cases h with
  | rebuild run => exact houtside outsideFrames_rebuild run
  | acquire run => exact houtside outsideFrames_acquire run
  | present run => exact houtside outsideFrames_present run

theorem Run.IsOutsideFrames.grows {α : Type} {x : Run α} {a : α}
    (hx : Run.IsOutsideFrames uploads x)
    (hrun : x k = .ok a k') : k.driver.Grows uploads k'.driver :=
  ((hx k.driver).ok (Driver.Adds.refl _) hrun).toGrows

/-! ### What is held -/

/-- The same pass, pipeline and set of it are held. -/
structure HoldsAlike (held held' : List Recorded) : Prop where
  /-- The pass. -/
  pass : passOf held' = passOf held
  /-- The pipeline. -/
  pipeline : pipelineOf held' = pipelineOf held
  /-- The set. -/
  set : ownSetOf held' = ownSetOf held

theorem HoldsAlike.refl (held : List Recorded) : HoldsAlike held held := ⟨rfl, rfl, rfl⟩

theorem Recorded.IsPlain.holdsAlike (h : r.IsPlain) : HoldsAlike held (r :: held) := by
  cases r with
  | viewport | scissor | pushConstants | draw | drawIndexed | clearAttachments =>
    exact ⟨rfl, rfl, rfl⟩
  | _ => exact h.elim

/-- It does not matter into which buffer the command is recorded. -/
theorem Recorded.IsPlain.contents (h : r.IsPlain) {b b' : Object .commandBuffer} :
    HoldsAlike (contents b calls) (contents b (.record b' r :: calls)) := by
  rw [RenderTargets.Vulkan.contents, Call.contents]
  split
  · exact h.holdsAlike
  · exact .refl _

theorem Recorded.IsPlain.lacksSet_iff (h : r.IsPlain) {b : Object .commandBuffer} :
    LacksSet (.record b r :: calls) ↔ LacksSet calls := by
  cases r with
  | viewport | scissor | pushConstants | draw | drawIndexed | clearAttachments => exact Iff.rfl
  | _ => exact h.elim

section Binds

/-- What a buffer holds after a pipeline and a mesh were bound. -/
theorem FrameSlot.contents_binds :
    contents f.commands (f.binds p m ++ calls) =
      m.binds ++ .bindPipeline p.pipeline :: contents f.commands calls := by
  rw [binds, contents_records, List.append_assoc, List.singleton_append]

theorem passOf_binds : passOf (m.binds ++ .bindPipeline p.pipeline :: held) = passOf held := by
  rw [Mesh.binds]
  cases m.indices <;> rfl

theorem pipelineOf_binds :
    pipelineOf (m.binds ++ .bindPipeline p.pipeline :: held) = some p.pipeline := by
  rw [Mesh.binds]
  cases m.indices <;> rfl

end Binds

/-- The pipeline and the mesh of the pass are those of what is in use. -/
def ActivePass.Uses (a : ActivePass) (u : Option DrawState) : Prop :=
  a.pipeline = u.map (·.pipeline) ∧ a.mesh = u.map (·.mesh)

namespace Device

variable {d d' : Device} {s t : Device × Host} {a : ActivePass} {u : Option DrawState}
  {info : PassBegin} {cs : List GraphicsDevice.Command}

/-! ### What stays -/

/-- A device that has what a pass of another one relies on. -/
structure Retains (d d' : Device) : Prop where
  /-- Pipelines are found as before. -/
  pipeline : ∀ {id p}, d.pipelines.get? id = some p → d'.pipelines.get? id = some p
  /-- Passes are found as before. -/
  pass : ∀ {id p}, d.passes.get? id = some p → d'.passes.get? id = some p
  /-- Textures are found as before. -/
  texture : ∀ {id t}, d.textures.get? id = some t → d'.textures.get? id = some t
  /-- The pass into the screen is the same. -/
  renderPass : d'.screen.renderPass = d.screen.renderPass
  /-- The format of the screen is the same. -/
  colorFormat : d'.screen.colorFormat = d.screen.colorFormat
  /-- The images of the screen are the same. -/
  framebuffers : d'.screen.framebuffers = d.screen.framebuffers
  /-- The sampler is the same. -/
  sampler : d'.sampler = d.sampler

theorem Retains.refl (d : Device) : d.Retains d := ⟨id, id, id, rfl, rfl, rfl, rfl⟩

/-- A device that notes something retains what there is. -/
theorem retains_note {g : FrameState → FrameState} {windowSize : Extent} {screen : Swapchain}
    {quit : Bool} (h : screen = d.screen ∨ screen = d.screen.mark) :
    d.Retains { d with frame := d.frame.map g, windowSize, screen, quit } := by
  rcases h with rfl | rfl <;> exact ⟨id, id, id, rfl, rfl, rfl, rfl⟩

/-- Nothing goes away when something is made. -/
theorem Stores.retains (h : d.Stores k d' k') : d.Retains d' := by
  cases h with
  | texture _ stored => exact ⟨id, id, Slot.Map.get?_insert?_of_get? stored, rfl, rfl, rfl, rfl⟩
  | mesh | shader => exact ⟨id, id, id, rfl, rfl, rfl, rfl⟩
  | pipeline _ _ stored =>
    exact ⟨Slot.Map.get?_insert?_of_get? stored, id, id, rfl, rfl, rfl, rfl⟩
  | pass _ stored => exact ⟨id, Slot.Map.get?_insert?_of_get? stored, id, rfl, rfl, rfl, rfl⟩

/-- Making something is no part of recording. -/
theorem Stores.precedes (h : d.Stores k d' k') : d.Precedes d' := by
  cases h with
  | mesh _ stored => exact ⟨rfl, rfl, rfl, rfl, rfl, Slot.Map.get?_insert?_of_get? stored, id⟩
  | pipeline _ _ stored =>
    exact ⟨rfl, rfl, rfl, rfl, rfl, id, Slot.Map.get?_insert?_of_get? stored⟩
  | texture | shader | pass => exact ⟨rfl, rfl, rfl, rfl, rfl, id, id⟩

theorem Stores.grows (h : d.Stores k d' k') : k.driver.Grows d.context.uploadPool k'.driver := by
  cases h with
  | texture run => exact Texture.outsideFrames_create.grows run
  | mesh run => exact Mesh.outsideFrames_create.grows run
  | shader run => exact Shader.outsideFrames_create.grows run
  | pipeline _ run => exact Pipeline.outsideFrames_create.grows run
  | pass run => exact Pass.outsideFrames_create.grows run

/-- A device that is the same at bottom, after more calls. -/
structure Onward (s t : Device × Host) : Prop where
  /-- The context is the same. -/
  context : t.1.context = s.1.context
  /-- The slots are the same. -/
  slots : t.1.slots = s.1.slots
  /-- Objects may have been made. -/
  count_le : ∀ kind, s.2.driver.made.count kind ≤ t.2.driver.made.count kind
  /-- Calls may have been made. -/
  calls : s.2.driver.calls <:+ t.2.driver.calls

theorem Onward.refl (s : Device × Host) : Onward s s :=
  ⟨rfl, rfl, fun _ ↦ le_rfl, List.suffix_refl _⟩

theorem Onward.trans {v : Device × Host} (h : Onward s t) (h' : Onward t v) : Onward s v where
  context := h'.context.trans h.context
  slots := h'.slots.trans h.slots
  count_le kind := (h.count_le kind).trans (h'.count_le kind)
  calls := h.calls.trans h'.calls

theorem Move.onward (h : Move cs s t) : Onward s t := by
  have hgrows {d d' : Device} {k k' : Host} (hg : k.driver.Grows d.context.uploadPool k'.driver)
      (hc : d'.context = d.context) (hs : d'.slots = d.slots) : Onward (d, k) (d', k') :=
    ⟨hc, hs, hg.count_le, hg.suffix⟩
  have hgains {d d' : Device} {k k' : Host} {made : List ObjectKind} {l : List Call}
      (hg : k.Gains made l k') (hc : d'.context = d.context) (hs : d'.slots = d.slots) :
      Onward (d, k) (d', k') :=
    ⟨hc, hs, hg.count_le, hg.suffix⟩
  have hsame {d d' : Device} {k : Host} (hc : d'.context = d.context) (hs : d'.slots = d.slots) :
      Onward (d, k) (d', k) :=
    hgains (.refl k) hc hs
  cases h with
  | outsideFrames grows => exact hgrows grows rfl rfl
  | note => exact hsame rfl rfl
  | make stores => exact hgrows stores.grows stores.precedes.context stores.precedes.slots
  | release _ removed grows =>
    have ⟨_, hcontext, hslots, _⟩ : Run.IsOutsideFrames .null _ ∧ _ := outsideFrames_remove? removed
    exact hgrows grows hcontext hslots
  | screen _ works => exact hgrows works.grows rfl rfl
  | next => exact hsame rfl rfl
  | enterUntargeted | leaveUntargeted => exact hsame rfl rfl
  | bindUntargeted _ _ _ rests =>
    exact hgains ((Host.Gains.refl _).congr (congrArg _ rests) (congrArg _ rests)) rfl rfl
  | begin _ _ _ gains | stall _ _ gains | submit _ _ _ gains | enter _ _ _ _ gains
  | record _ _ _ _ gains | bind _ _ _ _ _ gains | misbind _ _ _ _ _ gains | leave _ _ _ gains =>
    exact hgains gains rfl rfl

theorem Moves.onward (h : Moves s cs t) : Onward s t :=
  h.keeps (I := Onward s) (fun hmove hs ↦ hs.trans hmove.onward) (.refl s)

theorem Labelled.onward {c : GraphicsDevice.Command} {labels : List GraphicsDevice.Command}
    (h : Labelled s [] d c labels t) : Onward s t := by
  obtain ⟨cs, hmoves, -⟩ := h
  exact hmoves.onward

theorem Reached.onward {l : List (GraphicsDevice.Command × Option ResourceId)}
    (h : GraphicsDevice.Reached (· = s) Happens l t) : Onward s t := by
  obtain ⟨_, cs, rfl, hmoves⟩ := Reached.moves h
  exact hmoves.onward

/-! ### Inside a pass -/

/-- The pass is one of the device, and begins so. -/
inductive Targets (d : Device) (a : ActivePass) (info : PassBegin) : Prop
  /-- It is a pass into textures that are alive. -/
  | offscreen {id p} (found : d.passes.get? id = some p)
      (live : ∀ x ∈ p.textures, ∃ t, d.textures.get? x = some t)
      (attachments : a.attachments = p.textures) (resolves : a.resolves = p.resolves)
      (signature : a.signature = p.signature) (pass : info.pass = p.renderPass)
      (framebuffer : info.framebuffer = p.framebuffer)
  /-- It is the pass into the screen. -/
  | screen (attachments : a.attachments = [])
      (signature : a.signature = ⟨1, d.screen.colorFormat, some screenDepthFormat, 1⟩)
      (pass : info.pass = d.screen.renderPass)
      (framebuffer : info.framebuffer ∈ d.screen.framebuffers)

/-- How a pipeline that is bound gets its images. -/
inductive SetFor (d : Device) (u : Option DrawState) (a : ActivePass) (p : Pipeline)
    (held : List Recorded) (calls : List Call) : Prop
  /-- It takes none. -/
  | unneeded (needs : p.bindings = [])
  /-- Its set could not be made. -/
  | lacking (lacks : LacksSet calls)
  /-- A set of its own is bound, with the views of the textures in use. -/
  | own {state set views} (used : u = some state) (bound : ownSetOf held = some (p.layout, set))
      (written : .updateSets (p.writes d.sampler set views) ∈ calls)
      (enough : p.bindings.length ≤ views.length)
      (sampled : List.Forall₂ d.Samples state.textures views)
      (apart : ∀ id ∈ state.textures, id ∉ a.attachments)

/-- The buffer of the slot holds what the active pass says. -/
structure Holds (d : Device) (u : Option DrawState) (a : ActivePass) (f : FrameSlot)
    (calls : List Call) : Prop where
  /-- It is in a render pass instance of the target. -/
  target : ∃ info, passOf (contents f.commands calls) = some info ∧ d.Targets a info
  /-- The instance has all of the target for its area. -/
  area : ∀ info, passOf (contents f.commands calls) = some info → info.area = a.extent.rect
  /-- The pipeline is bound, with its images. -/
  bound : ∀ id, a.pipeline = some id → ∃ p, d.pipelines.get? id = some p ∧
    p.signature = a.signature ∧ pipelineOf (contents f.commands calls) = some p.pipeline ∧
    d.SetFor u a p (contents f.commands calls) calls

/-- What is true of a device with what is in use. -/
structure InPass (u : Option DrawState) (s : Device × Host) : Prop where
  /-- No buffer made later has the number of one of the slots. -/
  numbered : ∀ f ∈ s.1.slots, f.commands.number ≤ s.2.driver.made.count .commandBuffer
  /-- A pass is part of a frame. -/
  framed : s.1.active.isSome = true → s.1.frame.isSome = true
  /-- Nothing is in use outside of a pass. -/
  outside : s.1.active = none → u = none
  /-- The pass uses what is in use, unless a set is lacking. -/
  used : ∀ a, s.1.active = some a → a.Uses u ∨ a.recording = true ∧ LacksSet s.2.driver.calls
  /-- The buffer holds what the pass says. -/
  holds : ∀ a, s.1.active = some a → a.recording = true → ∃ f,
    s.1.slots[s.1.slotIndex]? = some f ∧ s.1.Holds u a f s.2.driver.calls

/-! ### What is retained -/

theorem Samples.retain {id : TextureId} {v : Object .view} (h : d.Samples id v)
    (hr : d.Retains d') : d'.Samples id v := by
  obtain ⟨t, ht, hsampleable, hv⟩ := h
  exact ⟨t, hr.texture ht, hsampleable, hv⟩

theorem Targets.retain (h : d.Targets a info) (hr : d.Retains d') : d'.Targets a info := by
  cases h with
  | offscreen found live attachments resolves signature pass framebuffer =>
    refine .offscreen (hr.pass found) (fun x hx ↦ ?_)
      attachments resolves signature pass framebuffer
    obtain ⟨t, ht⟩ := live x hx
    exact ⟨t, hr.texture ht⟩
  | screen attachments signature pass framebuffer =>
    exact .screen attachments (hr.colorFormat.symm ▸ signature) (hr.renderPass.symm ▸ pass)
      (hr.framebuffers.symm ▸ framebuffer)

theorem SetFor.retain {calls calls' : List Call} (h : d.SetFor u a p held calls)
    (hr : d.Retains d') (hheld : HoldsAlike held held')
    (hlacks : LacksSet calls → LacksSet calls') (hcalls : calls <:+ calls') :
    d'.SetFor u a p held' calls' := by
  cases h with
  | unneeded needs => exact .unneeded needs
  | lacking lacks => exact .lacking (hlacks lacks)
  | own used bound written enough sampled apart =>
    refine .own used (hheld.set.trans bound) (hr.sampler.symm ▸ hcalls.subset written) enough ?_
      apart
    exact sampled.imp fun _ _ hs ↦ hs.retain hr

theorem Holds.retain {calls calls' : List Call} (h : d.Holds u a f calls) (hr : d.Retains d')
    (hheld : HoldsAlike (contents f.commands calls) (contents f.commands calls'))
    (hlacks : LacksSet calls → LacksSet calls') (hcalls : calls <:+ calls') :
    d'.Holds u a f calls' where
  target := by
    obtain ⟨info, hinfo, htarget⟩ := h.target
    exact ⟨info, hheld.pass.trans hinfo, htarget.retain hr⟩
  area info hinfo := h.area info (hheld.pass.symm.trans hinfo)
  bound id hid := by
    obtain ⟨p, hp, hsignature, hpipeline, hset⟩ := h.bound id hid
    exact ⟨p, hr.pipeline hp, hsignature, hheld.pipeline.trans hpipeline,
      hset.retain hr hheld hlacks hcalls⟩

/-- Which pass is active does not matter to what is held. -/
theorem Holds.activate (h : d.Holds u a f calls) (active : Option ActivePass) :
    { d with active }.Holds u a f calls :=
  h.retain ⟨id, id, id, rfl, rfl, rfl, rfl⟩ (.refl _) id (List.suffix_refl _)

namespace Enters

variable {pass : Option PassId} {action : PassAction} {target : Option Target} {t : Target}

/-- Nothing is in use when a pass begins. -/
theorem uses_none (h : d.Enters action pass a target) : a.Uses none := by
  cases h with
  | offscreen htarget =>
    rw [offscreenTarget] at htarget
    split at htarget
    · split at htarget
      · cases htarget
      · cases htarget
        exact ⟨rfl, rfl⟩
    · cases htarget
  | screen | untargeted => exact ⟨rfl, rfl⟩

theorem not_recording (h : d.Enters action pass a none) : a.recording = false := by
  cases h
  rfl

/-- The target is that of a pass of the device. -/
theorem targets (h : d.Enters action pass a (some t)) (area : Rect) :
    d.Targets a ⟨t.pass, t.framebuffer, area, t.clears⟩ := by
  cases h with
  | offscreen htarget =>
    rw [offscreenTarget] at htarget
    split at htarget
    · next p hp =>
      split at htarget
      · cases htarget
      · next hlive =>
        cases htarget
        refine .offscreen hp (fun x hx ↦ ?_) rfl rfl rfl rfl rfl
        by_contra hno
        refine hlive (List.any_eq_true.2 ⟨x, hx, ?_⟩)
        simpa [Slot.Map.contains, Option.eq_none_iff_forall_not_mem] using hno
    · cases htarget
  | screen listed => exact .screen rfl rfl rfl listed

end Enters

namespace InPass

/-- Without a pass, there is little to know. -/
theorem of_none (hn : ∀ f ∈ d.slots, f.commands.number ≤ k.driver.made.count .commandBuffer)
    (ha : d.active = none) : InPass none (d, k) where
  numbered := hn
  framed h := by cases ha ▸ h
  outside _ := rfl
  used a h := by cases ha.symm.trans h
  holds a h := by cases ha.symm.trans h

theorem numbered_of_onward (h : InPass u s) (ho : Onward s t) :
    ∀ f ∈ t.1.slots, f.commands.number ≤ t.2.driver.made.count .commandBuffer :=
  fun f hf ↦ (h.numbered f (ho.slots ▸ hf)).trans (ho.count_le _)

/-- What is done outside of a pass. -/
theorem beside (h : InPass u s) (ho : Onward s t) (ha : s.1.active = none)
    (ha' : t.1.active = none) : InPass u t :=
  h.outside ha ▸ .of_none (h.numbered_of_onward ho) ha'

/-- What is done to a device that retains what its pass relies on. -/
theorem retain (h : InPass u (d, k)) (ho : Onward (d, k) (d', k')) (hp : d.Precedes d')
    (hr : d.Retains d')
    (hheld : ∀ f ∈ d.slots,
      HoldsAlike (contents f.commands k.driver.calls) (contents f.commands k'.driver.calls))
    (hlacks : LacksSet k.driver.calls → LacksSet k'.driver.calls) : InPass u (d', k') where
  numbered := h.numbered_of_onward ho
  framed ha := hp.frame.trans (h.framed (hp.active ▸ ha))
  outside ha := h.outside (hp.active ▸ ha)
  used a ha := (h.used a (hp.active ▸ ha)).imp_right (And.imp_right hlacks)
  holds a ha hrecording := by
    obtain ⟨f, hslot, hholds⟩ := h.holds a (hp.active ▸ ha) hrecording
    refine ⟨f, by rw [hp.slots, hp.slotIndex]; exact hslot, ?_⟩
    exact hholds.retain hr (hheld f (List.mem_of_getElem? hslot)) hlacks ho.calls

/-- What is done outside frames is no part of the pass. -/
theorem retain_grows (h : InPass u (d, k)) (hp : d.Precedes d') (hr : d.Retains d')
    (hg : k.driver.Grows d.context.uploadPool k'.driver) : InPass u (d', k') := by
  obtain ⟨l, hl, houtside⟩ := hg.calls
  refine h.retain ⟨hp.context, hp.slots, hg.count_le, hg.suffix⟩ hp hr (fun f hf ↦ ?_)
    fun hlacks ↦ ?_
  · rw [hl, houtside.contents_eq (h.numbered f hf)]
    exact .refl _
  · rw [hl]
    exact houtside.lacksSet_iff.2 hlacks

end InPass

/-! ### Moves inside a pass -/

namespace InPass

/-- A pass begins. -/
theorem enter {pass : Option PassId} {action : PassAction} {t : Target} {viewport : Viewport}
    (h : InPass u (d, k)) (hf : d.frame.isSome = true) (hslot : d.slots[d.slotIndex]? = some f)
    (henters : d.Enters action pass a (some t))
    (hgains : k.Gains [] ((beginsOf a t viewport).map (.record f.commands)) k') :
    InPass none ({ d with active := some a }, k') where
  numbered g hg := (h.numbered g hg).trans (hgains.count_le _)
  framed _ := hf
  outside := nofun
  used b hb := .inl (Option.some.inj hb ▸ henters.uses_none)
  holds b hb _ := by
    obtain rfl : a = b := Option.some.inj hb
    have hholds : d.Holds none a f k'.driver.calls := by
      have hpass : passOf (contents f.commands k'.driver.calls) =
          some ⟨t.pass, t.framebuffer, a.extent.rect, t.clears⟩ := by
        rw [hgains.calls, contents_records]
        rfl
      refine ⟨⟨_, hpass, henters.targets a.extent.rect⟩, fun info hinfo ↦ ?_, fun id hid ↦ ?_⟩
      · rw [← Option.some.inj (hpass.symm.trans hinfo)]
      · cases hid.symm.trans henters.uses_none.1
    exact ⟨f, hslot, hholds.activate _⟩

/-- What a draw state binds is held, with its set or without it. -/
theorem holds_of_binds {state : DrawState} {views : List (Object .view)} {calls' : List Call}
    (h : d.Holds u a f calls) (hfits : d.Fits a state p m views) {v : Option DrawState}
    (hpass : passOf (contents f.commands calls') = passOf (contents f.commands calls))
    (hpipeline : pipelineOf (contents f.commands calls') = some p.pipeline)
    (hset : d.SetFor v (a.use state) p (contents f.commands calls') calls') :
    d.Holds v (a.use state) f calls' := by
  obtain ⟨info, hinfo, htarget⟩ := h.target
  refine ⟨⟨info, hpass.trans hinfo, ?_⟩, fun info hinfo ↦ h.area info (hpass.symm.trans hinfo),
    fun id hid ↦ ?_⟩
  · cases htarget with
    | offscreen found live attachments resolves signature pass framebuffer =>
      exact .offscreen found live attachments resolves signature pass framebuffer
    | screen attachments signature pass framebuffer =>
      exact .screen attachments signature pass framebuffer
  · obtain rfl : state.pipeline = id := Option.some.inj hid
    exact ⟨p, hfits.pipeline, hfits.signature, hpipeline, hset⟩

/-- A draw state is bound. -/
theorem bind {state : DrawState} {views : List (Object .view)} (h : InPass u (d, k))
    (ha : d.active = some a) (hrecording : a.recording = true)
    (hslot : d.slots[d.slotIndex]? = some f) (hfits : d.Fits a state p m views)
    (hfetches : f.Fetches p d.sampler views (k.driver.made.count .descriptorSet) made l)
    (hgains : k.Gains made (l ++ f.binds p m) k') :
    InPass (some state) ({ d with active := some (a.use state) }, k') where
  numbered g hg := (h.numbered g hg).trans (hgains.count_le _)
  framed _ := h.framed (ha ▸ rfl)
  outside := nofun
  used b hb := .inl (Option.some.inj hb ▸ ⟨rfl, rfl⟩)
  holds b hb _ := by
    obtain rfl : a.use state = b := Option.some.inj hb
    obtain ⟨g, hg, hholds⟩ := h.holds a ha hrecording
    obtain rfl := Option.some.inj (hslot.symm.trans hg)
    refine ⟨f, hslot, Holds.activate ?_ _⟩
    rw [hgains.calls, List.append_assoc]
    cases hfetches with
    | unneeded needs =>
      refine holds_of_binds hholds hfits ?_ ?_ (.unneeded needs)
      · rw [List.nil_append, FrameSlot.contents_binds, passOf_binds]
      · rw [List.nil_append, FrameSlot.contents_binds, pipelineOf_binds]
    | made needs =>
      -- The set is bound last, and written just before.
      generalize (⟨k.driver.made.count .descriptorSet + 1⟩ : Object .descriptorSet) = set
      have hheld : contents f.commands ([.record f.commands (.bindSet p.layout set),
          .updateSets (p.writes d.sampler set views),
          .allocateDescriptorSet set f.pool p.setLayout] ++
            (f.binds p m ++ k.driver.calls)) = .bindSet p.layout set ::
          (m.binds ++ .bindPipeline p.pipeline :: contents f.commands k.driver.calls) := by
        rw [← FrameSlot.contents_binds]
        exact contents_record_self
      refine holds_of_binds hholds hfits ?_ ?_ ?_
      · rw [hheld]
        exact passOf_binds
      · rw [hheld]
        exact pipelineOf_binds
      · rw [hheld]
        exact .own rfl rfl (List.mem_cons_of_mem _ List.mem_cons_self) hfits.enough hfits.sampled
          hfits.apart

/-- A draw state is bound, but for its set. -/
theorem misbind {state : DrawState} {views : List (Object .view)} {wanted : Call}
    {code : ResultCode}
    (h : InPass u (d, k)) (ha : d.active = some a) (hrecording : a.recording = true)
    (hslot : d.slots[d.slotIndex]? = some f) (hfits : d.Fits a state p m views)
    (hgains : k.Gains [] (.failed .allocateDescriptorSets wanted code :: f.binds p m) k') :
    InPass u ({ d with active := some (a.use state) }, k') := by
  have hlacks : LacksSet k'.driver.calls := by
    rw [hgains.calls]
    trivial
  have hheld : contents f.commands k'.driver.calls =
      m.binds ++ .bindPipeline p.pipeline :: contents f.commands k.driver.calls := by
    rw [← FrameSlot.contents_binds, hgains.calls]
    rfl
  exact {
    numbered := fun g hg ↦ (h.numbered g hg).trans (hgains.count_le _)
    framed := fun _ ↦ h.framed (ha ▸ rfl)
    outside := nofun
    used := fun b hb ↦ .inr ⟨Option.some.inj hb ▸ hrecording, hlacks⟩
    holds := fun b hb _ ↦ by
      obtain rfl : a.use state = b := Option.some.inj hb
      obtain ⟨g, hg, hholds⟩ := h.holds a ha hrecording
      obtain rfl := Option.some.inj (hslot.symm.trans hg)
      refine ⟨f, hslot, (holds_of_binds hholds hfits ?_ ?_ (.lacking hlacks)).activate _⟩
      · rw [hheld, passOf_binds]
      · rw [hheld, pipelineOf_binds] }

end InPass

/-- **Every move keeps a device with what is in use.** -/
theorem Move.inPass (h : Move cs s t) (hs : InPass u s) :
    InPass (cs.foldl GraphicsDevice.Command.use u) t := by
  have honward := h.onward
  cases h with
  | outsideFrames grows => exact hs.retain_grows (.refl _) (.refl _) grows
  | note marked =>
    exact hs.retain honward ⟨rfl, rfl, rfl, by simp, rfl, id, id⟩ (retains_note marked)
      (fun _ _ ↦ .refl _) id
  | make stores => exact hs.retain_grows stores.precedes stores.retains stores.grows
  | release idle removed =>
    -- Resources are only released between frames, so no pass was active.
    have ⟨_, _, _, _, hactive⟩ : Run.IsOutsideFrames .null _ ∧ _ := outsideFrames_remove? removed
    have ha : _ = none := Option.not_isSome_iff_eq_none.1 fun ha ↦ by
      cases idle ▸ hs.framed ha
    exact hs.beside honward ha (hactive.trans ha)
  | screen outside | begin outside | stall outside | submit outside | next outside =>
    exact hs.beside honward outside outside
  | enter outside frame slot enters gains => exact hs.enter frame slot enters gains
  | enterUntargeted outside frame enters =>
    refine ⟨hs.numbered_of_onward honward, fun _ ↦ frame, nofun, fun b hb ↦ ?_, fun b hb hr ↦ ?_⟩
    · exact .inl (Option.some.inj hb ▸ enters.uses_none)
    · cases (Option.some.inj hb ▸ enters.not_recording).symm.trans hr
  | record active recording slot records gains =>
    refine hs.retain honward (.refl _) (.refl _) (fun g _ ↦ ?_) fun hlacks ↦ ?_
    · rw [gains.calls]
      exact records.isPlain.contents
    · rw [gains.calls]
      exact records.isPlain.lacksSet_iff.2 hlacks
  | bind active recording slot fits fetches gains =>
    exact hs.bind active recording slot fits fetches gains
  | misbind active recording slot fits needs gains =>
    exact hs.misbind active recording slot fits gains
  | bindUntargeted active untargeted fits =>
    refine ⟨hs.numbered_of_onward honward, fun _ ↦ hs.framed (active ▸ rfl), nofun,
      fun b hb ↦ ?_, fun b hb hr ↦ ?_⟩
    · exact .inl (Option.some.inj hb ▸ ⟨rfl, rfl⟩)
    · obtain rfl := Option.some.inj hb
      cases untargeted.symm.trans hr
  | leave | leaveUntargeted => exact .of_none (hs.numbered_of_onward honward) rfl

/-! ### Devices that are reached -/

theorem Moves.inPass (h : Moves s cs t) (hs : InPass u s) :
    InPass (cs.foldl GraphicsDevice.Command.use u) t := by
  induction h with
  | refl => exact hs
  | step _ move ih =>
    rw [List.foldl_append]
    exact move.inPass ih

/-- A new device has no pass. -/
theorem IsNew.inPass (h : IsNew s) : InPass none s := by
  obtain ⟨w, size, config, builtIn, h, hfresh, hcreate⟩ := h
  obtain ⟨⟨-, hactive⟩, -, hrest⟩ := stands_of_create hfresh hcreate
  exact .of_none (hrest default).numbered hactive

/-- The labels of a command say what is in use after it. -/
theorem foldl_use_labelsOf (c : GraphicsDevice.Command) :
    (labelsOf c).foldl GraphicsDevice.Command.use u = c.use u := by
  cases c <;> rfl

/-- What a command does with its labels, or with a pass that it adds. -/
theorem InPass.of_labelled {c : GraphicsDevice.Command} {labels : List GraphicsDevice.Command}
    (h : InPass u s) (hl : Labelled s [] s.1 c labels t) :
    InPass (labels.foldl GraphicsDevice.Command.use u) t ∨
      c = .commitFrame ∧ u = none ∧ InPass none t := by
  obtain ⟨cs, hmoves, hcs⟩ := hl
  have ht : InPass (cs.foldl GraphicsDevice.Command.use u) t := hmoves.inPass h
  rcases hcs with rfl | ⟨hc, ha, rfl⟩
  · exact .inl ht
  · exact .inr ⟨hc, h.outside ha, ht⟩

/-- **Every device that is reached** records what is in use. -/
theorem Reached.inPass {l : List (GraphicsDevice.Command × Option ResourceId)} (h : Reached l t) :
    InPass (inUse (l.map Prod.fst)) t := by
  induction h with
  | start hs => exact hs.inPass
  | @taken l s a t c _ took ih =>
    rw [inUse, List.map_append, List.foldl_append]
    show InPass (c.use (inUse (l.map Prod.fst))) t
    rcases ih.of_labelled (labelled_of_taken took) with ht | ⟨rfl, hnone, ht⟩
    · rwa [foldl_use_labelsOf] at ht
    · rwa [hnone]
  | @refused l s e t c _ hrefused ih =>
    rcases ih.of_labelled (labelled_of_refused hrefused) with ht | ⟨-, hnone, ht⟩
    · exact ht
    · rwa [hnone]
  | between _ done ih => exact (Moves.refl.happens done).inPass ih

end Device

end RenderTargets.Vulkan

/-! ### What stays bound -/

namespace RenderTargets.Vulkan.Device

open GraphicsDevice

/-- A kind of thing that the draw states of a pass bind. -/
structure Bindable (ι β : Type) where
  /-- What the pass uses. -/
  used : ActivePass → Option ι
  /-- What is meant by that. -/
  found : Device → ι → Option β
  /-- It is bound in a buffer that holds these commands. -/
  bound : β → List Recorded → Prop
  /-- It is still there if all meshes and pipelines are. -/
  stays {d d' : Device} {id x} :
    (∀ {i m}, d.meshes.get? i = some m → d'.meshes.get? i = some m) →
    (∀ {i p}, d.pipelines.get? i = some p → d'.pipelines.get? i = some p) →
    found d id = some x → found d' id = some x
  /-- A command that binds nothing leaves it bound. -/
  plain {x r held} : r.IsPlain → bound x held → bound x (r :: held)
  /-- So does a set. -/
  set {x layout set held} : bound x held → bound x (.bindSet layout set :: held)
  /-- It is bound as it should be when a pass begins. -/
  begins {d : Device} {a id t viewport held} : a.Uses none → used a = some id →
    ∃ x, found d id = some x ∧ bound x (beginsOf a t viewport ++ held)
  /-- It is bound with a draw state. -/
  binds {d : Device} {a state p m views id held} : d.Fits a state p m views →
    used (a.use state) = some id →
    ∃ x, found d id = some x ∧ bound x (m.binds ++ .bindPipeline p.pipeline :: held)

variable {ι β : Type} {B : Bindable ι β} {d d' : Device} {k k' : Host} {s t : Device × Host}
  {u : Option DrawState} {cs : List GraphicsDevice.Command} {a : ActivePass} {f : FrameSlot}

/-- What a pass with a target uses is there, and bound in the buffer of the slot in use. -/
def Bindable.IsBound (B : Bindable ι β) (s : Device × Host) : Prop :=
  ∀ a id, s.1.active = some a → a.recording = true → B.used a = some id → ∃ f x,
    s.1.slots[s.1.slotIndex]? = some f ∧ B.found s.1 id = some x ∧
      B.bound x (contents f.commands s.2.driver.calls)

namespace Bindable.IsBound

theorem of_none (h : s.1.active = none) : B.IsBound s := fun _ _ ha ↦ by cases h.symm.trans ha

theorem of_not_recording (h : s.1.active = some a) (hnot : a.recording = false) : B.IsBound s :=
  fun a' _ ha hrecording ↦ by
    obtain rfl := Option.some.inj (h.symm.trans ha)
    cases hnot.symm.trans hrecording

/-- The pass uses what is bound now. -/
theorem of_active (hslot : d.slots[d.slotIndex]? = some f)
    (h : ∀ id, B.used a = some id → ∃ x, B.found d id = some x ∧
      B.bound x (contents f.commands k.driver.calls)) :
    B.IsBound ({ d with active := some a }, k) := by
  intro a' id ha _ hid
  obtain rfl : a = a' := Option.some.inj ha
  obtain ⟨x, hx, hbound⟩ := h id hid
  exact ⟨f, x, hslot, B.stays (d := d) (fun h ↦ h) (fun h ↦ h) hx, hbound⟩

/-- What is done to a device that precedes another one, if all that is bound stays so. -/
theorem of_precedes (h : B.IsBound (d, k)) (hp : d.Precedes d')
    (hbound : ∀ f ∈ d.slots, ∀ x, B.bound x (contents f.commands k.driver.calls) →
      B.bound x (contents f.commands k'.driver.calls)) : B.IsBound (d', k') := by
  intro a id ha hrecording hid
  obtain ⟨f, x, hslot, hx, hheld⟩ := h a id (hp.active ▸ ha) hrecording hid
  refine ⟨f, x, ?_, B.stays hp.mesh hp.pipeline hx, hbound f (List.mem_of_getElem? hslot) x hheld⟩
  rw [hp.slots, hp.slotIndex]
  exact hslot

/-- What is done outside frames. -/
theorem of_grows (h : B.IsBound (d, k)) (hin : InPass u (d, k)) (hp : d.Precedes d')
    (hg : k.driver.Grows d.context.uploadPool k'.driver) : B.IsBound (d', k') := by
  obtain ⟨l, hl, houtside⟩ := hg.calls
  refine h.of_precedes hp fun f hf x hx ↦ ?_
  rwa [hl, houtside.contents_eq (hin.numbered f hf)]

end Bindable.IsBound

/-- **Every move keeps bound what the pass uses.** -/
theorem Move.isBound (h : Move cs s t) (hin : InPass u s) (hs : B.IsBound s) : B.IsBound t := by
  cases h with
  | outsideFrames grows => exact hs.of_grows hin (.refl _) grows
  | note => exact hs.of_precedes ⟨rfl, rfl, rfl, by simp, rfl, id, id⟩ fun _ _ _ hx ↦ hx
  | make stores => exact hs.of_grows hin stores.precedes stores.grows
  | release idle removed =>
    -- Resources are only released between frames, so no pass was active.
    have ⟨_, _, _, _, hactive⟩ : Run.IsOutsideFrames .null _ ∧ _ := outsideFrames_remove? removed
    refine .of_none (hactive.trans (Option.not_isSome_iff_eq_none.1 fun ha ↦ ?_))
    cases idle ▸ hin.framed ha
  | screen outside | begin outside | stall outside | submit outside | next outside =>
    exact .of_none outside
  | enter _ _ slot enters gains =>
    refine .of_active slot fun id hid ↦ ?_
    rw [gains.calls, contents_records]
    exact B.begins enters.uses_none hid
  | enterUntargeted _ _ enters => exact .of_not_recording rfl enters.not_recording
  | record _ _ _ records gains =>
    refine hs.of_precedes (.refl _) fun g _ x hx ↦ ?_
    rw [gains.calls, List.singleton_append, contents, Call.contents]
    split
    · exact B.plain records.isPlain hx
    · exact hx
  | bind _ _ slot fits fetches gains =>
    refine .of_active slot fun id hid ↦ ?_
    obtain ⟨x, hx, hbound⟩ := B.binds fits hid
    refine ⟨x, hx, ?_⟩
    rw [gains.calls, List.append_assoc]
    cases fetches with
    | unneeded =>
      rw [List.nil_append, FrameSlot.contents_binds]
      exact hbound
    | made =>
      rw [List.cons_append, contents_record_self]
      refine B.set ?_
      show B.bound x (contents _ (FrameSlot.binds _ _ _ ++ _))
      rw [FrameSlot.contents_binds]
      exact hbound
  | misbind _ _ slot fits _ gains =>
    refine .of_active slot fun id hid ↦ ?_
    obtain ⟨x, hx, hbound⟩ := B.binds fits hid
    refine ⟨x, hx, ?_⟩
    rw [gains.calls]
    show B.bound x (contents _ (FrameSlot.binds _ _ _ ++ _))
    rw [FrameSlot.contents_binds]
    exact hbound
  | bindUntargeted _ untargeted => exact .of_not_recording rfl untargeted
  | leave | leaveUntargeted => exact .of_none rfl

/-- **What the pass uses is bound in every device that is reached.** -/
theorem Reached.isBound {l : List (GraphicsDevice.Command × Option ResourceId)} (B : Bindable ι β)
    (h : Reached l t) : B.IsBound t := by
  obtain ⟨s, cs, hnew, hmoves⟩ := Reached.moves h
  have hnone : s.1.active = none := by
    obtain ⟨w, size, config, builtIn, h, hfresh, hcreate⟩ := hnew
    obtain ⟨⟨-, hactive⟩, -⟩ := stands_of_create hfresh hcreate
    exact hactive
  have hboth : (∃ u, InPass u t) ∧ B.IsBound t :=
    hmoves.keeps (I := fun s ↦ (∃ u, InPass u s) ∧ B.IsBound s)
      (fun hmove ⟨⟨_, hin⟩, hbound⟩ ↦ ⟨⟨_, hmove.inPass hin⟩, hmove.isBound hin hbound⟩)
      ⟨⟨_, hnew.inPass⟩, .of_none hnone⟩
  exact hboth.2

end RenderTargets.Vulkan.Device
