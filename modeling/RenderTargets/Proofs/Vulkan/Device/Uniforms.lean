import RenderTargets.Proofs.Vulkan.Device.Attribution
import RenderTargets.Proofs.Vulkan.Device.Clears
import RenderTargets.Proofs.Vulkan.Device.Evident
import RenderTargets.Proofs.Vulkan.Device.InPass
/-!
# Uniforms

A pipeline takes uniforms if a stage of its shader has a block of them, and then its layout has a
range with those stages and with room for the larger block (`Pipeline.Takes`). This is shown where
pipelines are made, and holds of every pipeline of a device from then on
(`Reached.eachPipeline`), also when its shader is released.

A device pushes what the pipeline of its active pass admits. That pipeline is the one that was
bound in the render pass instance (`Reached.passPipelineOf_iff`), and so what is admitted is what
the trace says that fits (`Reached.fitting_iff`). Whatever is pushed was given to the device by a
command that it took (`Reached.exists_applyUniforms`).

Push constants of no bytes are not allowed, but no byte is a whole number of words and fits into
every block. It is pushed like other data (`pushConstants_empty`).
-/

namespace RenderTargets.Vulkan

open StepWith Run GraphicsDevice

variable {calls past : List Call} {stage : ShaderStage} {data : List UInt8}

/-! ### What pipelines take -/

namespace Pipeline

variable {p : Pipeline} {s : Shader} {ctx : Context} {d : PipelineDesc}

/-- The pipeline takes the uniforms of a shader, and so its layout says. -/
structure Takes (p : Pipeline) (s : Shader) (calls : List Call) : Prop where
  /-- Its layout. -/
  layout : .createPipelineLayout p.layout p.setLayout (pushRangeOf s) ∈ calls
  /-- The stages that take uniforms. -/
  stages : p.uniformStages = uniformStagesOf s
  /-- The bytes that they take. -/
  size : p.uniformSize = uniformSizeOf s

theorem lasts_takes (p : Pipeline) : Lasts fun calls ↦ ∃ s, p.Takes s calls :=
  fun _ _ hl ⟨s, h⟩ ↦ ⟨s, hl h.layout, h.stages, h.size⟩

theorem takes_createWith {samples : Flags} {setLayout : Object .setLayout} :
    Meets (fun _ ↦ True) (createWith ctx d s samples setLayout)
      (fun p h ↦ p.Takes s h.driver.calls) fun _ _ ↦ True := by
  refine .bind meets_called fun layout ↦ ?_
  have hbuild : IsOutsideFrames .null (buildForStandIn ctx d s samples layout) :=
    outsideFrames_buildForStandIn
  have hmade := lasts_mem (.createPipelineLayout layout setLayout (pushRangeOf s))
  exact .bind (meets_undone (hbuild.keeps_of_lasts hmade).lax) fun _ ↦ .pure fun _ h ↦
    ⟨h, rfl, rfl⟩

theorem takes_create :
    Meets (fun _ ↦ True) (create ctx d s) (fun p h ↦ p.Takes s h.driver.calls)
      fun _ _ ↦ True := by
  refine .bind (Keeps.ofChecked).lax fun _ ↦ ?_
  split
  · exact .refuse fun _ _ _ ↦ trivial
  · refine .bind .any fun _ ↦ ?_
    refine .bind .any fun _ ↦ ?_
    refine .bind (meets_undone takes_createWith) fun p ↦ ?_
    exact .bind (Meets.note (Q := fun _ h ↦ p.Takes s h.driver.calls) fun _ _ h ↦ h) fun _ ↦
      .pure fun _ h ↦ h

/-- If some stage takes uniforms, there are bytes to take. -/
theorem uniformSizeOf_pos (h : Flags.contains (uniformStagesOf s) (stageFlags stage) = true) :
    uniformSizeOf s > 0 := by
  have hmax : uniformSizeOf s =
      if s.vertex.interface.uniformSize ≤ s.fragment.interface.uniformSize
      then s.fragment.interface.uniformSize else s.vertex.interface.uniformSize := rfl
  by_contra hnone
  have hstages : ¬s.vertex.interface.uniformSize > 0 ∧ ¬s.fragment.interface.uniformSize > 0 := by
    grind
  rw [uniformStagesOf, if_neg hstages.1, if_neg hstages.2] at h
  cases stage <;> exact absurd h (by decide)

/-- The layout of a pipeline with a stage that takes uniforms has a range for them. -/
theorem Takes.range (h : p.Takes s calls)
    (hstage : Flags.contains p.uniformStages (stageFlags stage) = true) :
    .createPipelineLayout p.layout p.setLayout (some ⟨p.uniformStages, p.uniformSize⟩) ∈ calls := by
  have hmade := h.layout
  rw [pushRangeOf, if_pos (uniformSizeOf_pos (h.stages ▸ hstage)), ← h.stages, ← h.size] at hmade
  exact hmade

theorem Takes.eq_of_range {stages : Flags} {size : UInt32} (h : p.Takes s calls)
    (hrange : pushRangeOf s = some ⟨stages, size⟩) :
    p.uniformStages = stages ∧ p.uniformSize = size := by
  rw [pushRangeOf] at hrange
  split at hrange
  · obtain ⟨rfl, rfl⟩ := PushRange.mk.inj (Option.some.inj hrange)
    exact ⟨h.stages, h.size⟩
  · cases hrange

/-- The pipeline takes the data as uniforms of the stage. -/
structure Admits (p : Pipeline) (stage : ShaderStage) (data : List UInt8) : Prop where
  /-- The stage takes uniforms. -/
  declared : Flags.contains p.uniformStages (stageFlags stage) = true
  /-- There is room for the data. -/
  room : data.length ≤ p.uniformSize.toNat
  /-- The data is words. -/
  whole : data.length % 4 = 0

end Pipeline

/-! ### The pipeline of a pass -/

/-- The pipeline that was bound last in the render pass instance that the commands end in. -/
def passPipelineOf : List Recorded → Option (Object .pipeline)
  | [] => none
  | .bindPipeline p :: _ => some p
  | .beginPass _ :: _ | .endPass :: _ => none
  | _ :: past => passPipelineOf past

namespace Device

variable {l : List (GraphicsDevice.Command × Option ResourceId)} {s t : Device × Host}
  {cs : List GraphicsDevice.Command} {a : ActivePass} {f : FrameSlot} {p : Pipeline}
  {id : PipelineId}

/-- The pipelines of draw states. There is none before the first draw state of a pass. -/
def boundPipeline : Bindable (Option PipelineId) (Option Pipeline) where
  used a := some a.pipeline
  found d
    | none => some none
    | some id => (d.pipelines.get? id).map some
  bound p held := passPipelineOf held = p.map (·.pipeline)
  stays {_ _ id _} _ hpipelines h := by
    cases id with
    | none => exact h
    | some id =>
      obtain ⟨p, hp, rfl⟩ := Option.map_eq_some_iff.1 h
      exact Option.map_eq_some_iff.2 ⟨p, hpipelines hp, rfl⟩
  plain {_ r _} hr h := by
    cases r with
    | viewport | scissor | pushConstants | draw | drawIndexed | clearAttachments => exact h
    | _ => exact hr.elim
  set h := h
  begins hunused hid := by
    obtain rfl := Option.some.inj hid
    rw [hunused.1]
    exact ⟨none, rfl, rfl⟩
  binds {_ _ _ p m _ _ _} hfits hid := by
    obtain rfl := Option.some.inj hid
    refine ⟨some p, Option.map_eq_some_iff.2 ⟨p, hfits.pipeline, rfl⟩, ?_⟩
    rw [Mesh.binds]
    cases m.indices <;> rfl

section EachPipeline

variable {P : Pipeline → List Call → Prop}

/-- The trace says this of every pipeline of the device. -/
def EachPipeline (P : Pipeline → List Call → Prop) (s : Device × Host) : Prop :=
  ∀ id p, s.1.pipelines.get? id = some p → P p s.2.driver.calls

variable (hlasts : ∀ p, Lasts (P p))
  (hmade : ∀ {ctx d sh}, Meets (fun _ ↦ True) (Pipeline.create ctx d sh)
    (fun p h ↦ P p h.driver.calls) fun _ _ ↦ True)
include hlasts hmade

theorem Move.eachPipeline (h : Move cs s t) (hs : EachPipeline P s) : EachPipeline P t := by
  have hlater (id : PipelineId) (p : Pipeline) (hp : s.1.pipelines.get? id = some p) :
      P p t.2.driver.calls := hlasts p h.onward.calls.subset (hs id p hp)
  cases h with
  | make stores =>
    cases stores with
    | pipeline found run stored =>
      intro id p hp
      rcases Slot.Map.get?_of_get?_insert? stored hp with ⟨-, rfl⟩ | hold
      · exact hmade.ok trivial run
      · exact hlater id p hold
    | _ => exact hlater
  | @release _ _ id _ _ _ _ removed =>
    cases id with
    | pipeline =>
      obtain ⟨⟨x, m⟩, hremove, he⟩ := Option.map_eq_some_iff.1 removed
      cases he
      exact fun id p hp ↦ hlater id p (Slot.Map.get?_of_remove hremove hp)
    | _ =>
      obtain ⟨⟨x, m⟩, -, he⟩ := Option.map_eq_some_iff.1 removed
      cases he
      exact hlater
  | _ => exact hlater

/-- **What is true of every new pipeline, and lasts, is true of the pipelines of every device.** -/
theorem Reached.eachPipeline (h : Reached l t) : EachPipeline P t := by
  obtain ⟨s, cs, hnew, hmoves⟩ := Reached.moves h
  refine hmoves.keeps (fun hmove ↦ hmove.eachPipeline hlasts hmade) fun id p hp ↦ ?_
  have hempty : s.1.pipelines = .empty := congrArg (·.pipelines) hnew.outline_eq
  rw [hempty, Slot.Map.get?_empty] at hp
  cases hp

end EachPipeline

theorem Reached.takes (h : Reached l t) (hp : t.1.pipelines.get? id = some p) :
    ∃ sh, p.Takes sh t.2.driver.calls :=
  h.eachPipeline (P := fun p calls ↦ ∃ sh, p.Takes sh calls) Pipeline.lasts_takes
    (Pipeline.takes_create.post fun _ _ h ↦ ⟨_, h⟩) id p hp

/-! ### What is pushed -/

/-- What is pushed is for a pipeline that is bound: the buffer is in a render pass instance, and the
pipeline that was bound in it has this layout, and in that a range with these stages, one of which
the data is for. -/
structure Fitting (b : Object .commandBuffer) (calls : List Call) (layout : Object .pipelineLayout)
    (stages : Flags) (stage : ShaderStage) (data : List UInt8) : Prop where
  /-- The buffer is in a render pass instance. -/
  pass : (passOf (contents b calls)).isSome = true
  /-- The layout is that of the pipeline. -/
  pipeline : ((passPipelineOf (contents b calls)).bind (Making.pipeline.of? · calls)).map
    (·.layout) = some layout
  /-- The layout has a range with room for the data. -/
  range : ∃ set size, Making.pipelineLayout.of? layout calls = some (set, some ⟨stages, size⟩) ∧
    data.length ≤ size.toNat
  /-- The stage is one of those. -/
  declared : Flags.contains stages (stageFlags stage) = true
  /-- The data is words. -/
  whole : data.length % 4 = 0

section Recording

variable (h : Reached l s) (ha : s.1.active = some a) (hr : a.recording = true)
  (hslot : s.1.slots[s.1.slotIndex]? = some f)
include h ha hr hslot

/-- The pipeline of the pass is the one that was bound in it. -/
theorem Reached.passPipelineOf_iff {o : Object .pipeline} :
    passPipelineOf (contents f.commands s.2.driver.calls) = some o ↔
      ∃ id p, a.pipeline = some id ∧ s.1.pipelines.get? id = some p ∧ p.pipeline = o := by
  obtain ⟨g, x, hg, hx, hbound⟩ := h.isBound boundPipeline a a.pipeline ha hr rfl
  obtain rfl := Option.some.inj (hslot.symm.trans hg)
  have hbound : passPipelineOf (contents f.commands s.2.driver.calls) = x.map (·.pipeline) := hbound
  rw [hbound, Option.map_eq_some_iff]
  cases hid : a.pipeline with
  | none =>
    rw [hid] at hx
    cases hx
    simp
  | some id =>
    rw [hid] at hx
    obtain ⟨p, hp, rfl⟩ := Option.map_eq_some_iff.1 hx
    simp [hp]

/-- What fits is what the pipeline of the pass admits, with its own layout and stages. -/
theorem Reached.fitting_iff {layout : Object .pipelineLayout} {stages : Flags} :
    Fitting f.commands s.2.driver.calls layout stages stage data ↔
      ∃ id p, a.pipeline = some id ∧ s.1.pipelines.get? id = some p ∧ p.Admits stage data ∧
        p.layout = layout ∧ p.uniformStages = stages := by
  have hfair := Books.fair h.sound.2
  constructor
  · rintro ⟨-, hlayout, ⟨set, size, hrange, hroom⟩, hdeclared, hwhole⟩
    obtain ⟨info, hinfo, rfl⟩ := Option.map_eq_some_iff.1 hlayout
    obtain ⟨o, ho, hmade⟩ := Option.bind_eq_some_iff.1 hinfo
    obtain ⟨id, p, hid, hp, rfl⟩ := (h.passPipelineOf_iff ha hr hslot).1 ho
    obtain ⟨info', hinfo', hlayout', -⟩ := (h.evident.pipelines hp).made
    obtain rfl := Option.some.inj (hmade.symm.trans (hfair.of?_eq_some_iff.2 hinfo'))
    obtain ⟨sh, htakes⟩ := h.takes hp
    have hown : Making.pipelineLayout.of? p.layout s.2.driver.calls =
        some (p.setLayout, Pipeline.pushRangeOf sh) := hfair.of?_eq_some_iff.2 htakes.layout
    rw [hlayout', hown] at hrange
    obtain ⟨hstages, hsize⟩ := htakes.eq_of_range (Prod.mk.inj (Option.some.inj hrange)).2
    exact ⟨id, p, hid, hp, ⟨hstages ▸ hdeclared, hsize ▸ hroom, hwhole⟩, hlayout'.symm, hstages⟩
  · rintro ⟨id, p, hid, hp, hadmits, rfl, rfl⟩
    obtain ⟨info, hinfo, hlayout, -⟩ := (h.evident.pipelines hp).made
    obtain ⟨sh, htakes⟩ := h.takes hp
    obtain ⟨g, hg, hholds⟩ := h.inPass.holds a ha hr
    obtain rfl := Option.some.inj (hslot.symm.trans hg)
    obtain ⟨begun, hbegun, -⟩ := hholds.target
    refine ⟨Option.isSome_of_eq_some hbegun, ?_, ⟨p.setLayout, p.uniformSize, ?_, hadmits.room⟩,
      hadmits.declared, hadmits.whole⟩
    · rw [(h.passPipelineOf_iff ha hr hslot).2 ⟨id, p, hid, hp, rfl⟩, Option.bind_some,
        hfair.of?_eq_some_iff.2 hinfo, Option.map_some, hlayout]
    · exact hfair.of?_eq_some_iff.2 (htakes.range hadmits.declared)

end Recording

/-! ### Commands that push -/

/-- In a pass, uniforms that its pipeline admits are recorded if the pass has a target, and all
others are refused. -/
theorem applyUniforms_cases (ha : s.1.active = some a) (stage : ShaderStage) (data : List UInt8) :
    (∃ id p, a.pipeline = some id ∧ s.1.pipelines.get? id = some p ∧ p.Admits stage data ∧
      applyUniforms stage data s =
        (if a.recording then record (.pushConstants p.layout p.uniformStages data)
          else pure ()) s) ∨
    (∀ id p, a.pipeline = some id → s.1.pipelines.get? id = some p → ¬p.Admits stage data) ∧
      ∃ e j, applyUniforms stage data s = .error (.error e) (Log.HasJournal.journal.set j s) := by
  rw [applyUniforms, bind_ok (activePass_of_some ha)]
  cases hid : a.pipeline with
  | none => exact .inr ⟨nofun, _, _, rfl⟩
  | some id =>
    dsimp only
    rw [RunOn.part_bind_apply]
    cases hp : s.1.pipelines.get? id with
    | none => exact .inr ⟨fun _ _ hid' ↦ by cases hid'; simp [hp], _, s.2.journal, rfl⟩
    | some p =>
      rw [bind_ok (show StepWith.orFail _ (some p) s = .ok p s from rfl)]
      by_cases hadmits : p.Admits stage data
      · refine .inl ⟨id, p, rfl, hp, hadmits, ?_⟩
        rw [if_neg (by simp [hadmits.declared]), if_neg]
        simp [hadmits.room, hadmits.whole]
      · refine .inr ⟨fun _ _ hid' hp' ↦ ?_, ?_⟩
        · cases hid'
          rwa [Option.some.inj (hp.symm.trans hp')] at hadmits
        · by_cases hdeclared : Flags.contains p.uniformStages (stageFlags stage) = true
          · rw [if_neg (by simp [hdeclared]), if_pos]
            · exact ⟨_, _, rfl⟩
            · by_contra hfits
              rw [not_or, not_not, Nat.not_lt] at hfits
              exact hadmits ⟨hdeclared, hfits.1, hfits.2⟩
          · rw [if_pos (by simp [hdeclared])]
            exact ⟨_, _, rfl⟩

/-- In a pass with a target the data was pushed for its pipeline. -/
inductive Pushes (stage : ShaderStage) (data : List UInt8) (s : Device × Host) :
    Device × Host → Prop
  | intro {a : ActivePass} {f : FrameSlot} {id : PipelineId} {p : Pipeline}
      (active : s.1.active = some a) (recording : a.recording = true)
      (slot : s.1.slots[s.1.slotIndex]? = some f) (used : a.pipeline = some id)
      (found : s.1.pipelines.get? id = some p) (admits : p.Admits stage data) :
      Pushes stage data s (recorded s f (.pushConstants p.layout p.uniformStages data))

/-- Uniforms are pushed, or nothing is called. -/
theorem Reached.applyUniforms_settle (h : Reached l s)
    (ht : (applyUniforms stage data).settle s = some t) :
    t.2.driver.calls = s.2.driver.calls ∨
      applyUniforms stage data s = .ok () t ∧ Pushes stage data s t := by
  rw [settle] at ht
  cases ha : s.1.active with
  | none =>
    rw [applyUniforms, bind_error ((activePass_of_none ha).trans rfl)] at ht
    cases ht
    exact .inl rfl
  | some a =>
    rcases applyUniforms_cases ha stage data with ⟨id, p, hid, hp, hadmits, hrun⟩ | ⟨-, e, j, hrun⟩
    · by_cases hr : a.recording = true
      · obtain ⟨f, hslot, -⟩ := h.inPass.holds a ha hr
        rw [if_pos hr, record_of_slot hslot] at hrun
        rw [hrun] at ht
        cases ht
        exact .inr ⟨hrun, .intro ha hr hslot hid hp hadmits⟩
      · rw [if_neg hr] at hrun
        rw [hrun] at ht
        cases ht
        exact .inl rfl
    · rw [hrun] at ht
      cases ht
      exact .inl rfl

/-- The command answers no handle. -/
theorem answer_applyUniforms (h : applyUniforms stage data s = .ok () t) :
    (GraphicsDevice.Command.applyUniforms stage data).answer s = .ok none t := by
  have h : GraphicsDevice.applyUniforms stage data s = .ok () t := h
  simp only [Command.answer, Command.perform, Functor.map, EStateM.map, h]

/-- What was pushed last fits what was bound. -/
theorem Reached.fitting_of_pushes {later : List Call} {b : Object .commandBuffer}
    {layout : Object .pipelineLayout} {stages : Flags} (h : Reached l s)
    (hpush : Pushes stage data s t) (hpast : s.2.driver.calls <:+ past)
    (hcalls : t.2.driver.calls =
      later ++ .record b (.pushConstants layout stages data) :: past) :
    s.2.driver.calls = past ∧ Fitting b past layout stages stage data := by
  obtain ⟨ha, hr, hslot, hid, hp, hadmits⟩ := hpush
  cases later with
  | nil =>
    obtain ⟨hrecord, rfl⟩ := List.cons.inj hcalls
    obtain ⟨rfl, hsame⟩ := Call.record.inj hrecord
    obtain ⟨rfl, rfl, -⟩ := Recorded.pushConstants.inj hsame
    exact ⟨rfl, (h.fitting_iff ha hr hslot).2 ⟨_, _, hid, hp, hadmits, rfl, rfl⟩⟩
  | cons c later =>
    -- Only one call was made, so the trace before was no longer than the past.
    have hlength := hpast.length_le
    have hbefore := congrArg List.length (List.cons.inj hcalls).2
    simp at hbefore
    omega

/-- **What is pushed was given to a command that was taken**, and fits what is bound. -/
theorem Reached.exists_applyUniforms {later : List Call} {b : Object .commandBuffer}
    {layout : Object .pipelineLayout} {stages : Flags} (h : Reached l t)
    (hcalls : t.2.driver.calls =
      later ++ .record b (.pushConstants layout stages data) :: past) :
    ∃ before after s stage, l = before ++ (.applyUniforms stage data, none) :: after ∧
      Reached before s ∧ s.2.driver.calls = past ∧ Fitting b past layout stages stage data := by
  obtain ⟨c, s, u, earlier, hgiven, ⟨stage, rfl⟩, hpast, hu⟩ := h.exists_given hcalls id
  have hpushes {before : List (GraphicsDevice.Command × Option ResourceId)}
      (hs : Reached before s)
      (hset : (GraphicsDevice.Command.applyUniforms stage data).answer.settle s = some u) :
      (GraphicsDevice.Command.applyUniforms stage data).answer s = .ok none u ∧
        s.2.driver.calls = past ∧ Fitting b past layout stages stage data := by
    rcases hs.applyUniforms_settle (settle_map.symm.trans hset) with hsame | ⟨hrun, hpush⟩
    · have hlength := hpast.length_le
      rw [← hsame, hu] at hlength
      simp at hlength
      omega
    · exact ⟨answer_applyUniforms hrun, hs.fitting_of_pushes hpush hpast hu⟩
  cases hgiven with
  | @taken before a after reached took =>
    obtain ⟨hrun, hfitting⟩ := hpushes reached (settle_of_ok took)
    cases took.symm.trans hrun
    exact ⟨before, after, s, stage, rfl, reached, hfitting⟩
  | refused reached refused =>
    obtain ⟨hrun, -⟩ := hpushes reached (settle_of_error refused)
    cases refused.symm.trans hrun

/-- What is pushed may be pushed: it fits, and it is not empty. -/
structure IsValidPush (b : Object .commandBuffer) (calls : List Call)
    (layout : Object .pipelineLayout) (stages : Flags) (stage : ShaderStage) (data : List UInt8) :
    Prop extends Fitting b calls layout stages stage data where
  /-- There is something to push. -/
  size : 0 < data.length

/-- **Uniforms are pushed as the pipeline of the pass takes them.** Whatever is pushed was given to
a command that was taken, all of it and nothing else, and starts at the first byte of the range. It
is pushed in the render pass instance in which the pipeline was bound, with the layout of that, for
the stages of the range of the layout, in words and with no more bytes than the range has. In a pass
with a target, data that is not empty is pushed if that may be done. Otherwise it is refused, and
nothing is called. -/
theorem pushConstants_valid (h : Reached l t) :
    (∀ later b layout stages data past,
      t.2.driver.calls = later ++ .record b (.pushConstants layout stages data) :: past →
      ∃ before after s stage, l = before ++ (.applyUniforms stage data, none) :: after ∧
        Reached before s ∧ s.2.driver.calls = past ∧ Fitting b past layout stages stage data ∧
        (data ≠ [] → IsValidPush b past layout stages stage data)) ∧
    ∀ a, t.1.active = some a → a.recording = true → ∃ f,
      t.1.slots[t.1.slotIndex]? = some f ∧ ∀ stage data, data ≠ [] →
        (∃ layout stages, IsValidPush f.commands t.2.driver.calls layout stages stage data ∧
          GraphicsDevice.applyUniforms stage data t =
            .ok () (recorded t f (.pushConstants layout stages data))) ∨
        (∀ layout stages, ¬IsValidPush f.commands t.2.driver.calls layout stages stage data) ∧
          ∃ e u, GraphicsDevice.applyUniforms stage data t = .error (.error e) u ∧ u.1 = t.1 ∧
            u.2.driver = t.2.driver := by
  constructor
  · intro later b layout stages data past hcalls
    obtain ⟨before, after, s, stage, hl, hs, hpast, hfits⟩ := h.exists_applyUniforms hcalls
    exact ⟨before, after, s, stage, hl, hs, hpast, hfits, fun hdata ↦
      ⟨hfits, List.length_pos_of_ne_nil hdata⟩⟩
  · intro a ha hr
    obtain ⟨f, hslot, -⟩ := h.inPass.holds a ha hr
    refine ⟨f, hslot, fun stage data hdata ↦ ?_⟩
    rcases applyUniforms_cases ha stage data with
      ⟨id, p, hid, hp, hadmits, hrun⟩ | ⟨hno, e, j, hrun⟩
    · rw [if_pos hr, record_of_slot hslot] at hrun
      have hfits := (h.fitting_iff ha hr hslot).2 ⟨id, p, hid, hp, hadmits, rfl, rfl⟩
      exact .inl ⟨_, _, ⟨hfits, List.length_pos_of_ne_nil hdata⟩, hrun⟩
    · refine .inr ⟨fun layout stages hvalid ↦ ?_, e, _, hrun, rfl, rfl⟩
      obtain ⟨id, p, hid, hp, hadmits, -⟩ := (h.fitting_iff ha hr hslot).1 hvalid.toFitting
      exact hno id p hid hp hadmits

/-- A shader whose first stage takes 16 bytes of uniforms. -/
def blockShader : ShaderDesc :=
  -- The header, and where a stage starts.
  let plain : List UInt32 := [0x07230203, 0x10000, 0, 8, 0, 0x4000f, 0, 1, 0]
  -- Variable 7 is a block of push constants, with a vector of four numbers in it.
  let block : List UInt32 :=
    [0x50048, 5, 0, 35, 0, 0x30047, 5, 2, 0x30016, 3, 32, 0x40017, 4, 3, 4, 0x3001e, 5, 4,
     0x40020, 6, 9, 5, 0x4003b, 6, 7, 9]
  .ofCode "block" ((plain ++ block).flatMap Word.bytes) (plain.flatMap Word.bytes)

/-- Everything for uniforms of a pipeline of that shader. -/
def blockSetting : List GraphicsDevice.Command :=
  [.createMesh (.fullScreenQuad true), .createShader blockShader,
   .createPipeline (plainPipeline ⟨1, .bgra8Unorm, some screenDepthFormat, 1⟩),
   .beginPass none {}, .applyDrawState ⟨⟨1, 1⟩, ⟨1, 1⟩, []⟩]

/-- In a pass with such a pipeline 16 bytes are not refused, nor is no byte, but 20 bytes are. -/
theorem exists_blockPass :
    ∃ l s a, Reached l s ∧ s.1.active = some a ∧ a.recording = true ∧
      refuses (applyUniforms .vertex []) s = false ∧
      refuses (applyUniforms .vertex (List.replicate 16 1)) s = false ∧
      refuses (applyUniforms .vertex (List.replicate 20 1)) s = true := by
  obtain ⟨s₀, hnew, hcheck⟩ := exists_new plainSurface []
    (fun s ↦ (settleAll (blockSetting.map GraphicsDevice.Command.answer) s).any fun s ↦
      s.1.active.any (·.recording) && (!refuses (applyUniforms .vertex []) s &&
        (!refuses (applyUniforms .vertex (List.replicate 16 1)) s &&
          refuses (applyUniforms .vertex (List.replicate 20 1)) s))) (by decide +kernel)
  obtain ⟨s, hs, hcheck⟩ := GraphicsDevice.exists_accepted IsNew Happens hnew hcheck
  simp only [Bool.and_eq_true, Bool.not_eq_true'] at hcheck
  obtain ⟨hpass, hempty, hfull, hover⟩ := hcheck
  obtain ⟨a, ha, hr⟩ := (Option.any_eq_true _ _).1 hpass
  exact ⟨_, s, a, hs, ha, hr, hempty, hfull, hover⟩

/-- A block that is full is pushed, and four bytes more are refused. -/
theorem pushConstants_valid_full :
    ∃ l s f layout stages e u, Reached l s ∧
      IsValidPush f.commands s.2.driver.calls layout stages .vertex (List.replicate 16 1) ∧
      GraphicsDevice.applyUniforms .vertex (List.replicate 16 1) s =
        .ok () (recorded s f (.pushConstants layout stages (List.replicate 16 1))) ∧
      (∃ before after v stage, l ++ [(.applyUniforms .vertex (List.replicate 16 1), none)] =
          before ++ (.applyUniforms stage (List.replicate 16 1), none) :: after ∧
        Reached before v ∧ v.2.driver.calls = s.2.driver.calls ∧
        IsValidPush f.commands s.2.driver.calls layout stages stage (List.replicate 16 1)) ∧
      GraphicsDevice.applyUniforms .vertex (List.replicate 20 1) s = .error (.error e) u ∧
      u.1 = s.1 ∧ u.2.driver = s.2.driver := by
  obtain ⟨l, s, a, h, ha, hr, -, hfull, hover⟩ := exists_blockPass
  obtain ⟨f, -, hpush⟩ := (pushConstants_valid h).2 a ha hr
  rcases hpush .vertex (List.replicate 16 1) (by decide) with
    ⟨layout, stages, hvalid, hrun⟩ | ⟨-, e, t, hrun, -⟩
  · obtain ⟨e, t, hrefused⟩ := refuses_iff.1 hover
    rcases hpush .vertex (List.replicate 20 1) (by decide) with
      ⟨_, _, -, hrun'⟩ | ⟨-, e, u, hrun', hsame⟩
    · cases hrun'.symm.trans hrefused
    · have ht := h.taken (answer_applyUniforms hrun)
      obtain ⟨before, after, v, stage, hl, hv, hpast, -, hvalid'⟩ :=
        (pushConstants_valid ht).1 [] _ _ _ _ _ rfl
      exact ⟨l, s, f, layout, stages, e, u, h, hvalid, hrun,
        ⟨before, after, v, stage, hl, hv, hpast, hvalid' (by decide)⟩, hrun', hsame⟩
  · cases hfull.symm.trans (refuses_iff.2 ⟨e, t, hrun⟩)

/-- Data without a byte is pushed like any other, although nothing may be pushed then. -/
theorem pushConstants_empty :
    ∃ l s a f layout stages, Reached l s ∧ s.1.active = some a ∧ a.recording = true ∧
      GraphicsDevice.applyUniforms .vertex [] s =
        .ok () (recorded s f (.pushConstants layout stages [])) ∧
      Reached (l ++ [(.applyUniforms .vertex [], none)])
        (recorded s f (.pushConstants layout stages [])) ∧
      ∀ layout stages, ¬IsValidPush f.commands s.2.driver.calls layout stages .vertex [] := by
  obtain ⟨l, s, a, h, ha, hr, hempty, -⟩ := exists_blockPass
  obtain ⟨f, hslot, -⟩ := h.inPass.holds a ha hr
  rcases applyUniforms_cases ha .vertex [] with ⟨id, p, -, -, -, hrun⟩ | ⟨-, e, j, hrun⟩
  · rw [if_pos hr, record_of_slot hslot] at hrun
    exact ⟨l, s, a, f, _, _, h, ha, hr, hrun, h.taken (answer_applyUniforms hrun),
      fun _ _ hvalid ↦ (Nat.lt_irrefl 0 hvalid.size).elim⟩
  · cases hempty.symm.trans (refuses_iff.2 ⟨e, _, hrun⟩)

end Device

end RenderTargets.Vulkan
