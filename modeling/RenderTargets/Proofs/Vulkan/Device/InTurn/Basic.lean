import RenderTargets.Proofs.Vulkan.Device.Commands
import RenderTargets.Proofs.Vulkan.Phases
/-!
# Devices that record in turn

A device records **in turn** if it is idle, with all its slots at rest, or busy with one frame,
whose buffer is recorded into (`InTurn`). What was set in the render pass instance of a busy device
is what its active pass says (`Inside`). Every command leaves a device recording in turn, however it
ends.

Few commands change the frame, the pass or the stores at all. What comes of a device by all others
is a device that it `Precedes`, and `Came` is how those are composed.

## Destroying

Resources that were bound stay, because none is destroyed while a frame is recorded.
-/

namespace RenderTargets.Vulkan

open StepWith Run

/-- Everything is set to draw a mesh with a pipeline. -/
structure Instance.Has (x : Instance) (p : Pipeline) (m : Mesh) : Prop where
  /-- There is a viewport. -/
  viewport : x.viewport = true
  /-- There is a scissor. -/
  scissor : x.scissor = true
  /-- The pipeline. -/
  pipeline : x.pipeline = some p.pipeline
  /-- The vertices of the mesh. -/
  vertices : x.vertices = some m.vertices.buffer
  /-- The indices of the mesh. -/
  indices : ∀ u code, m.indices = some (u, code) → x.indices = some u.buffer

namespace Device

/-- What the active pass says was set. -/
structure Shows (d : Device) (a : ActivePass) (x : Instance) : Prop where
  /-- There is a viewport. -/
  viewport : x.viewport = true
  /-- There is a scissor. -/
  scissor : x.scissor = true
  /-- What is drawn with. -/
  bound : ∀ id, a.mesh = some id → ∃ m pid p, d.meshes.get? id = some m ∧
    a.pipeline = some pid ∧ d.pipelines.get? pid = some p ∧ x.Has p m

/-- The render pass instance that is recorded into. -/
inductive Inside (d : Device) : Option Instance → Prop
  /-- There is none, because no pass has a target. -/
  | outside (h : ∀ a, d.active = some a → a.recording = false) : Inside d none
  /-- It is that of the active pass. -/
  | inside {a x} (ha : d.active = some a) (hr : a.recording = true) (hx : d.Shows a x) :
      Inside d (some x)

/-- The device has these slots, and uploads take their buffers from this pool. -/
structure HasSlots (uploads : Object .commandPool) (slots : List FrameSlot) (d : Device) :
    Prop where
  /-- The pool. -/
  uploads : d.context.uploadPool = uploads
  /-- The slots. -/
  slots : d.slots = slots

/-- Nothing but drawing went on since the trace was `base`, and the slots are where the device takes
them to be. -/
inductive InTurn (uploads : Object .commandPool) (slots : List FrameSlot) (base : List Call) :
    Device × Host → Prop
  /-- No frame is recorded. -/
  | idle {d k} (hd : d.HasSlots uploads slots) (hf : d.frame.isSome = false) (ha : d.active = none)
      (hk : ∀ f, Stands uploads slots base f .rest k) : InTurn uploads slots base (d, k)
  /-- A frame is recorded. -/
  | busy {d k f i} (hd : d.HasSlots uploads slots) (hf : d.frame.isSome = true)
      (hslot : slots[d.slotIndex]? = some f) (hi : d.Inside i)
      (hk : Stands uploads slots base f (.recording i) k) : InTurn uploads slots base (d, k)

/-- A device that records the same. -/
structure Precedes (d d' : Device) : Prop where
  /-- The context is the same. -/
  context : d'.context = d.context
  /-- The slots are the same. -/
  slots : d'.slots = d.slots
  /-- The slot in use is the same. -/
  slotIndex : d'.slotIndex = d.slotIndex
  /-- There is a frame if there was one. -/
  frame : d'.frame.isSome = d.frame.isSome
  /-- The pass is the same. -/
  active : d'.active = d.active
  /-- Meshes are found as before. -/
  mesh : ∀ {id m}, d.meshes.get? id = some m → d'.meshes.get? id = some m
  /-- Pipelines are found as before. -/
  pipeline : ∀ {id p}, d.pipelines.get? id = some p → d'.pipelines.get? id = some p

variable {uploads : Object .commandPool} {slots : List FrameSlot} {base : List Call}
  {d d' d'' : Device} {k k' : Host} {a : ActivePass} {x : Instance} {i : Option Instance}
  {f : FrameSlot} {c : Recorded} {s t : Device × Host} {α β : Type}
  {E : EngineError → Device × Host → Prop}

theorem Inside.of_none (h : d.active = none) : d.Inside none :=
  .outside fun _ ha ↦ by cases ha.symm.trans h

namespace Precedes

theorem refl (d : Device) : d.Precedes d := ⟨rfl, rfl, rfl, rfl, rfl, id, id⟩

theorem trans (h : d.Precedes d') (h' : d'.Precedes d'') : d.Precedes d'' where
  context := h'.context.trans h.context
  slots := h'.slots.trans h.slots
  slotIndex := h'.slotIndex.trans h.slotIndex
  frame := h'.frame.trans h.frame
  active := h'.active.trans h.active
  mesh := h'.mesh ∘ h.mesh
  pipeline := h'.pipeline ∘ h.pipeline

theorem shows (h : d.Precedes d') (hx : d.Shows a x) : d'.Shows a x where
  viewport := hx.viewport
  scissor := hx.scissor
  bound id hid := by
    obtain ⟨m, pid, p, hm, hpid, hp, hhas⟩ := hx.bound id hid
    exact ⟨m, pid, p, h.mesh hm, hpid, h.pipeline hp, hhas⟩

theorem inside (h : d.Precedes d') (hi : d.Inside i) : d'.Inside i := by
  cases hi with
  | outside hno => exact .outside fun a ha ↦ hno a (h.active ▸ ha)
  | inside ha hr hx => exact .inside (h.active ▸ ha) hr (h.shows hx)

theorem hasSlots (h : d.Precedes d') (hd : d.HasSlots uploads slots) :
    d'.HasSlots uploads slots where
  uploads := h.context ▸ hd.uploads
  slots := h.slots ▸ hd.slots

end Precedes

namespace InTurn

theorem of_precedes (h : InTurn uploads slots base (d, k)) (hp : d.Precedes d') :
    InTurn uploads slots base (d', k) := by
  cases h with
  | idle hd hf ha hk => exact .idle (hp.hasSlots hd) (hp.frame ▸ hf) (hp.active ▸ ha) hk
  | busy hd hf hslot hi hk =>
    exact .busy (hp.hasSlots hd) (hp.frame ▸ hf) (hp.slotIndex ▸ hslot) (hp.inside hi) hk

theorem hasSlots (h : InTurn uploads slots base (d, k)) : d.HasSlots uploads slots := by
  cases h <;> assumption

theorem congr (h : InTurn uploads slots base (d, k)) (hc : k'.driver.calls = k.driver.calls)
    (hm : k'.driver.made = k.driver.made) : InTurn uploads slots base (d, k') := by
  cases h with
  | idle hd hf ha hk => exact .idle hd hf ha fun f ↦ (hk f).congr hc hm
  | busy hd hf hslot hi hk => exact .busy hd hf hslot hi (hk.congr hc hm)

theorem adds (h : InTurn uploads slots base (d, k)) (ha : k.driver.Grows uploads k'.driver) :
    InTurn uploads slots base (d, k') := by
  cases h with
  | idle hd hf hactive hk => exact .idle hd hf hactive fun f ↦ (hk f).adds ha
  | busy hd hf hslot hi hk => exact .busy hd hf hslot hi (hk.adds ha)

/-- A call that is a step of no slot. -/
theorem pass (h : InTurn uploads slots base (d, k)) {c : Call}
    (hc : ∀ g q, Progress.next? uploads g ⟨false, q⟩ c = some ⟨false, q⟩)
    (hr : ∀ b r, c ≠ .record b r) :
    InTurn uploads slots base (d, { k with driver := k.driver.push c }) := by
  cases h with
  | idle hd hf hactive hk => exact .idle hd hf hactive fun f ↦ (hk f).pass hc hr
  | busy hd hf hslot hi hk => exact .busy hd hf hslot hi (hk.pass hc hr)

theorem quiet (h : InTurn uploads slots base (d, k)) : Quiet base k.driver.calls := by
  cases h with
  | idle _ _ _ hk => exact (hk default).quiet
  | busy _ _ _ _ hk => exact hk.quiet

/-- What was drawn so far may be passed over. -/
theorem rebase (h : InTurn uploads slots base (d, k)) :
    InTurn uploads slots k.driver.calls (d, k) := by
  cases h with
  | idle hd hf ha hk => exact .idle hd hf ha fun f ↦ { hk f with quiet := .refl _ }
  | busy hd hf hslot hi hk => exact .busy hd hf hslot hi { hk with quiet := .refl _ }

/-- The buffers of the slots were used in turn. -/
theorem progress (h : InTurn uploads slots base (d, k)) (hf : f ∈ slots) :
    ∃ p, Progress.after uploads f k.driver.calls = some ⟨false, p⟩ := by
  cases h with
  | idle _ _ _ hk => exact ⟨_, (hk f).phases f hf⟩
  | busy _ _ _ _ hk => exact ⟨_, hk.phases f hf⟩

theorem others (h : InTurn uploads slots base (d, k)) {b : Object .commandBuffer}
    (hc : .record b c ∈ k.driver.calls) : (∃ g ∈ slots, g.commands = b) ∨ c.IsPreparation := by
  cases h with
  | idle _ _ _ hk => exact (hk default).others b c hc
  | busy _ _ _ _ hk => exact hk.others b c hc

/-- In a pass with a target, what was set is recorded. -/
theorem inside (h : InTurn uploads slots base (d, k)) (ha : d.active = some a)
    (hr : a.recording = true) : ∃ f x, d.frame.isSome = true ∧ slots[d.slotIndex]? = some f ∧
      d.Shows a x ∧ Stands uploads slots base f (.recording (some x)) k := by
  cases h with
  | idle _ _ hno _ => cases ha.symm.trans hno
  | busy hd hf hslot hi hk =>
    cases hi with
    | outside hno => cases hr.symm.trans (hno a ha)
    | inside ha' _ hx =>
      obtain rfl := Option.some.inj (ha.symm.trans ha')
      exact ⟨_, _, hf, hslot, hx, hk⟩

/-- Outside of a pass with a target nothing is. -/
theorem outside (h : InTurn uploads slots base (d, k)) (hf : d.frame.isSome = true)
    (hno : ∀ a, d.active = some a → a.recording = false) :
    ∃ f, slots[d.slotIndex]? = some f ∧ Stands uploads slots base f (.recording none) k := by
  cases h with
  | idle _ hf' _ _ => cases hf.symm.trans hf'
  | busy hd hf hslot hi hk =>
    cases hi with
    | outside => exact ⟨_, hslot, hk⟩
    | inside ha hr _ => cases hr.symm.trans (hno _ ha)

end InTurn

/-! ### Steps that record nothing -/

/-- The host of a device that records in turn. -/
abbrev InTurnOn (uploads : Object .commandPool) (slots : List FrameSlot) (base : List Call)
    (d : Device) : Host → Prop :=
  fun k ↦ InTurn uploads slots base (d, k)

/-- A device that came of another one and records in turn. -/
def Came (uploads : Object .commandPool) (slots : List FrameSlot) (base : List Call) (d : Device)
    (s : Device × Host) : Prop :=
  d.Precedes s.1 ∧ InTurn uploads slots base s

theorem inTurn_of_at (h : RunOn.At d (InTurnOn uploads slots base d) s) :
    InTurn uploads slots base s := by
  obtain ⟨t, k⟩ := s
  obtain ⟨rfl, hk⟩ := h
  exact hk

theorem came_of_at (h : RunOn.At d (InTurnOn uploads slots base d) s) :
    Came uploads slots base d s :=
  ⟨h.1 ▸ .refl d, inTurn_of_at h⟩

/-- The journal may be another one. -/
theorem InTurn.note (j : Log.Journal) (h : InTurn uploads slots base s) :
    InTurn uploads slots base (Log.HasJournal.journal.set j s) :=
  congr h rfl rfl

theorem at_of_note (j : Log.Journal) (h : RunOn.At d (InTurnOn uploads slots base d) s) :
    RunOn.At d (InTurnOn uploads slots base d) (Log.HasJournal.journal.set j s) :=
  ⟨h.1, h.2.congr rfl rfl⟩

/-- What holds from each device that records in turn holds from all of them. -/
theorem meets_inTurn {x : DeviceStep α} {R : α → Device × Host → Prop}
    (h : ∀ d : Device, d.HasSlots uploads slots →
      Meets (RunOn.At d (InTurnOn uploads slots base d)) x R E) :
    Meets (InTurn uploads slots base) x R E := by
  rintro ⟨d, k⟩ hs
  exact h d hs.hasSlots (d, k) ⟨rfl, hs⟩

/-- What comes of all that came of a device comes of the device. -/
theorem meets_came {x : DeviceStep α} {R : α → Device × Host → Prop}
    (h : ∀ d', d.Precedes d' → Meets (RunOn.At d' (InTurnOn uploads slots base d')) x R E) :
    Meets (Came uploads slots base d) x R E := by
  rintro ⟨d', k⟩ ⟨hp, hs⟩
  exact h d' hp (d', k) ⟨rfl, hs⟩

/-- A step whose device comes of the one before keeps what came of any other one. -/
theorem keeps_came {x : DeviceStep α}
    (h : ∀ d' : Device, Meets (RunOn.At d' (InTurnOn uploads slots base d')) x
      (fun _ ↦ Came uploads slots base d') fun _ ↦ Came uploads slots base d') :
    Keeps (Came uploads slots base d) x :=
  meets_came fun d' hp ↦ (h d').mono (fun _ hs ↦ hs) (fun _ _ hs ↦ ⟨hp.trans hs.1, hs.2⟩)
    fun _ _ hs ↦ ⟨hp.trans hs.1, hs.2⟩

theorem keeps_of_came {x : DeviceStep α}
    (h : ∀ d : Device, d.HasSlots uploads slots →
      Meets (RunOn.At d (InTurnOn uploads slots base d)) x (fun _ ↦ Came uploads slots base d)
        fun _ ↦ Came uploads slots base d) :
    Keeps (InTurn uploads slots base) x :=
  meets_inTurn fun d hd ↦ (h d hd).mono (fun _ hs ↦ hs) (fun _ _ hs ↦ hs.2) fun _ _ hs ↦ hs.2

theorem keeps_outsideFrames {x : Run α} (hx : Run.IsOutsideFrames uploads x) :
    Keeps (InTurnOn uploads slots base d) x := by
  intro k hk
  exact (hx k.driver k (.refl _)).mono (fun _ _ ha ↦ hk.adds ha.toGrows)
    fun _ _ ha ↦ hk.adds ha.toGrows

theorem meets_outsideFrames_bind {x : Run α} {y : α → DeviceStep β} {R : β → Device × Host → Prop}
    (hx : Run.IsOutsideFrames uploads x)
    (hE : ∀ e s, RunOn.At d (InTurnOn uploads slots base d) s → E e s)
    (hy : ∀ a, Meets (RunOn.At d (InTurnOn uploads slots base d)) (y a) R E) :
    Meets (RunOn.At d (InTurnOn uploads slots base d)) ((liftM x : DeviceStep α) >>= y) R E :=
  RunOn.meets_lift_bind (keeps_outsideFrames hx) (fun e k hk ↦ hE e (d, k) ⟨rfl, hk⟩) hy

/-- A change that the device precedes. -/
theorem meets_changeCame {g : Device → Device} (hg : d.Precedes (g d)) :
    Meets (RunOn.At d (InTurnOn uploads slots base d)) (RunOn.change g)
      (fun _ ↦ Came uploads slots base d) E := by
  rintro ⟨_, k⟩ ⟨rfl, hk⟩
  exact ⟨hg, hk.of_precedes hg⟩

/-! ### Resources -/

/-- What was made is put into the device. -/
theorem meets_storeCame {g : Device → Device} (hg : d.Precedes (g d)) {a : α} :
    Meets (RunOn.At d (InTurnOn uploads slots base d)) (do RunOn.change g; return a)
      (fun _ ↦ Came uploads slots base d) E :=
  .bind (meets_changeCame hg) fun _ ↦ .pure fun _ hs ↦ hs

theorem keeps_createTexture_inTurn {t : TextureDesc} :
    Keeps (InTurn uploads slots base) (createTexture t) := by
  refine keeps_of_came fun d hd ↦ RunOn.meets_part_bind ?_
  obtain ⟨rfl, -⟩ := hd
  refine .ite (fun _ ↦ .fail_bind fun _ ↦ came_of_at) fun _ ↦ ?_
  refine meets_outsideFrames_bind Texture.outsideFrames_create (fun _ _ ↦ came_of_at)
    fun texture ↦ ?_
  refine .bind (Meets.note (Q := fun _ ↦ RunOn.At d (InTurnOn _ slots base d)) fun _ j ↦ at_of_note
    j) fun _ ↦ ?_
  refine .orTrap_bind fun _ _ ↦ ?_
  exact meets_storeCame ⟨rfl, rfl, rfl, rfl, rfl, id, id⟩

theorem keeps_createMesh_inTurn {m : MeshDesc} :
    Keeps (InTurn uploads slots base) (createMesh m) := by
  refine keeps_of_came fun d _ ↦ ?_
  refine meets_outsideFrames_bind Mesh.outsideFrames_create (fun _ _ ↦ came_of_at) fun mesh ↦ ?_
  refine RunOn.meets_part_bind (.orTrap_bind fun _ hi ↦ ?_)
  exact meets_storeCame ⟨rfl, rfl, rfl, rfl, rfl, Slot.Map.get?_insert?_of_get? hi, id⟩

theorem keeps_createShader_inTurn {s : ShaderDesc} :
    Keeps (InTurn uploads slots base) (createShader s) := by
  refine keeps_of_came fun d _ ↦ RunOn.meets_part_bind ?_
  refine meets_outsideFrames_bind Shader.outsideFrames_create (fun _ _ ↦ came_of_at) fun shader ↦ ?_
  refine .orTrap_bind fun _ _ ↦ ?_
  exact meets_storeCame ⟨rfl, rfl, rfl, rfl, rfl, id, id⟩

theorem keeps_createPipeline_inTurn {p : PipelineDesc} :
    Keeps (InTurn uploads slots base) (createPipeline p) := by
  refine keeps_of_came fun d _ ↦ RunOn.meets_part_bind ?_
  refine .orFail_bind (fun shader _ ↦ ?_) fun _ ↦ came_of_at
  refine meets_outsideFrames_bind Pipeline.outsideFrames_create (fun _ _ ↦ came_of_at)
    fun pipeline ↦ ?_
  refine .orTrap_bind fun _ hi ↦ ?_
  exact meets_storeCame ⟨rfl, rfl, rfl, rfl, rfl, id, Slot.Map.get?_insert?_of_get? hi⟩

theorem keeps_createPass_inTurn {p : PassDesc} :
    Keeps (InTurn uploads slots base) (createPass p) := by
  refine keeps_of_came fun d _ ↦ RunOn.meets_part_bind ?_
  refine meets_outsideFrames_bind Pass.outsideFrames_create (fun _ _ ↦ came_of_at) fun pass ↦ ?_
  refine .bind (Meets.note (Q := fun _ ↦ RunOn.At d (InTurnOn _ slots base d)) fun _ j ↦ at_of_note
    j) fun _ ↦ ?_
  refine .orTrap_bind fun _ _ ↦ ?_
  exact meets_storeCame ⟨rfl, rfl, rfl, rfl, rfl, id, id⟩

/-- A resource is given up outside frames. -/
theorem outsideFrames_remove? {id : ResourceId} {drop : Run Unit}
    (h : d.remove? id = some (d', drop)) :
    Run.IsOutsideFrames uploads drop ∧ d'.context = d.context ∧ d'.slots = d.slots ∧
      d'.frame = d.frame ∧ d'.active = d.active := by
  cases id <;> obtain ⟨⟨x, m⟩, hr, he⟩ := Option.map_eq_some_iff.1 h <;> cases he <;>
    exact ⟨x.outsideFrames_drop, rfl, rfl, rfl, rfl⟩

/-- Nothing is destroyed but by an idle device. -/
theorem keeps_destroy_inTurn {id : ResourceId} :
    Keeps (InTurn uploads slots base) (destroy id) := by
  refine meets_inTurn fun d hd ↦ RunOn.meets_part_bind ?_
  refine .ite (fun _ ↦ .refuse_bind fun _ j hs ↦ inTurn_of_at (at_of_note j hs)) fun hidle ↦ ?_
  refine meets_outsideFrames_bind (.work fun _ ↦ Driver.adds_perform rfl trivial)
    (fun _ _ ↦ inTurn_of_at)
    fun _ ↦ ?_
  split
  · exact .fail fun _ ↦ inTurn_of_at
  · next d' drop hr =>
    obtain ⟨houtside, hcontext, hslots, hframe, hactive⟩ := outsideFrames_remove? hr
    refine .bind (Q := fun _ ↦ RunOn.At d' (InTurnOn uploads slots base d')) ?_ fun _ ↦ ?_
    · rintro ⟨_, k⟩ ⟨rfl, hk⟩
      refine ⟨rfl, ?_⟩
      cases hk with
      | idle _ hf ha hk =>
        exact .idle ⟨hcontext ▸ hd.uploads, hslots ▸ hd.slots⟩ (hframe ▸ hf) (hactive ▸ ha) hk
      | busy _ hf _ _ _ => exact (hidle hf).elim
    · exact (RunOn.meets_lift (keeps_outsideFrames houtside)).mono (fun _ hs ↦ hs)
        (fun _ _ ↦ inTurn_of_at)
        fun _ _ ↦ inTurn_of_at

end Device

end RenderTargets.Vulkan
