import RenderTargets.Proofs.Vulkan.Device.InTurn
import RenderTargets.Proofs.Vulkan.Device.Setup
import RenderTargets.Proofs.Vulkan.Runs
/-!
# What a Vulkan device records

In every run of a Vulkan device the command buffers of its frames are used in turn, whatever the
driver lets fail (`run_records`). The trace of a run is read by `Progress.after`; that every draw is
of the mesh that was bound for it is read off the run, which has a command for every draw in the
trace (`Device.Draws`).
-/

namespace RenderTargets.Vulkan.Device

open StepWith Run

variable {uploads : Object .commandPool} {slots : List FrameSlot} {base : List Call}
  {s t u : Device × Host} {d : Device} {k : Host} {e : Event} {events : List Event} {group : ℕ}

/-! ### Draws -/

/-- A group of a mesh is drawn into the buffer of the slot in use. Everything that it is drawn with
was set in the render pass instance that is recorded. -/
inductive Draws (uploads : Object .commandPool) (group : ℕ) (s : Device × Host) :
    Object .commandBuffer → Recorded → Prop
  /-- Pipeline and mesh are those of the active pass. -/
  | intro {a pid p mid m g f x} (ha : s.1.active = some a)
      (hpid : a.pipeline = some pid) (hp : s.1.pipelines.get? pid = some p)
      (hmid : a.mesh = some mid) (hm : s.1.meshes.get? mid = some m)
      (hg : m.groups[group]? = some g) (hf : s.1.slots[s.1.slotIndex]? = some f)
      (hx : Progress.after uploads f s.2.driver.calls = some ⟨false, .recording (some x)⟩)
      (hhas : x.Has p m) :
      Draws uploads group s f.commands
        (if m.indices.isSome then .drawIndexed g.count g.base else .draw g.count g.base)

/-- A draw, and nothing else, was recorded between two states. -/
def Drew (uploads : Object .commandPool) (slots : List FrameSlot) (group : ℕ)
    (s t : Device × Host) : Prop :=
  ∃ b c, Draws uploads group s b c ∧ t.2.driver.calls = .record b c :: s.2.driver.calls ∧
    InTurn uploads slots t.2.driver.calls t

/-- With everything set, drawing is in its turn. -/
theorem next?_draw {x : Instance} {p : Pipeline} {m : Mesh} (h : x.Has p m) (g : Group) :
    (if m.indices.isSome then Recorded.drawIndexed g.count g.base
      else .draw g.count g.base).next? (some x) = some (some x) := by
  have hready : x.isReady = true := by
    simp [Instance.isReady, h.viewport, h.scissor, h.pipeline, h.vertices]
  rcases hi : m.indices with _ | ⟨u, code⟩
  · simp [Recorded.next?, hready]
  · simp [Recorded.next?, hready, h.indices u code hi]

/-- The draw of a pass with a target, or none. -/
theorem meets_draw_inTurn (hslots : Apart slots) (hs : InTurn uploads slots base (d, k)) :
    Meets (RunOn.At d (· = k)) (draw group)
      (fun _ t ↦ InTurn uploads slots base t ∨ Drew uploads slots group (d, k) t)
      fun _ ↦ InTurn uploads slots base := by
  have hsame : ∀ {t}, RunOn.At d (· = k) t → InTurn uploads slots base t := by
    rintro ⟨_, _⟩ ⟨rfl, rfl⟩
    exact hs
  have hrefuse : ∀ {t : Device × Host} {j}, RunOn.At d (· = k) t →
      InTurn uploads slots base (Log.HasJournal.journal.set j t) := fun ht ↦ (hsame ht).note _
  refine meets_activePass_bind (fun _ _ ↦ hrefuse) fun a ha ↦ ?_
  split
  · exact .refuse fun _ _ ↦ hrefuse
  next mid hmid =>
  refine RunOn.meets_part_bind (.orFail_bind (fun m hm ↦ ?_) fun _ ↦ hsame)
  split
  · exact .refuse fun _ _ ↦ hrefuse
  next g hg =>
  refine .ite (fun hr ↦ ?_) fun _ ↦ .pure fun _ ht ↦ .inl (hsame ht)
  have hd := hs.hasSlots
  obtain ⟨f, x, hf, hslot, hx, hk⟩ := hs.inside ha hr
  obtain ⟨_, pid, p, hm', hpid, hp, hhas⟩ := hx.bound mid hmid
  obtain rfl := Option.some.inj (hm.symm.trans hm')
  have hmem := List.mem_of_getElem? hslot
  refine .bind (meets_slot_inTurn hd hslot) fun f' ↦ .assume ?_
  rintro rfl
  rintro ⟨_, _⟩ ⟨rfl, rfl⟩
  refine .inr ⟨_, _, .intro ha hpid hp hmid hm hg (hd.slots ▸ hslot) ?_ hhas, rfl, ?_⟩
  · rw [hk.phases f' hmem, if_pos rfl]
  · refine .busy hd hf hslot (.inside ha hr hx) (hk.push hslots hmem ?_ ?_ (.refl _))
    · simp [Call.concerns]
    · simp [Phase.next?, next?_draw hhas g]

/-! ### Runs -/

theorem keeps_command_inTurn (hslots : Apart slots) {c : GraphicsDevice.Command}
    (hc : ∀ group, c ≠ .draw group) :
    Keeps (InTurn uploads slots base) (c.perform (σ := Device × Host)) := by
  cases c with
  | createTexture => exact Meets.map keeps_createTexture_inTurn
  | createMesh => exact Meets.map keeps_createMesh_inTurn
  | createShader => exact Meets.map keeps_createShader_inTurn
  | createPipeline => exact Meets.map keeps_createPipeline_inTurn
  | createPass => exact Meets.map keeps_createPass_inTurn
  | destroy => exact keeps_destroy_inTurn
  | beginPass => exact (meets_beginPass_inTurn hslots).post fun _ _ hs ↦ hs.1
  | applyViewport => exact keeps_applyViewport_inTurn hslots
  | applyDrawState => exact keeps_applyDrawState_inTurn hslots
  | applyUniforms => exact keeps_applyUniforms_inTurn hslots
  | draw group => exact (hc group rfl).elim
  | fillRects => exact keeps_fillRects_inTurn hslots
  | endPass => exact (meets_endPass_inTurn hslots).post fun _ _ hs ↦ hs.inTurn
  | commitFrame => exact keeps_commitFrame_inTurn hslots
  | requestQuit => exact keeps_requestQuit_inTurn

/-- One event leaves a device recording in turn, and only the command to draw draws. -/
theorem inTurn_perform (hslots : Apart slots) (hs : InTurn uploads slots base s)
    (ht : e.perform.settle s = some t) :
    InTurn uploads slots base t ∨
      ∃ group, e = .command (.draw group) ∧ Drew uploads slots group s t := by
  cases e with
  | command c =>
    by_cases hc : ∃ group, c = .draw group
    · obtain ⟨group, rfl⟩ := hc
      have hdraw := ((meets_draw_inTurn hslots hs).mono (fun _ hp ↦ hp) (fun _ _ hp ↦ hp)
        fun _ _ hp ↦ .inl hp).settle ⟨rfl, rfl⟩ ht
      exact hdraw.imp_right fun h ↦ ⟨group, rfl, h⟩
    · exact .inl ((keeps_command_inTurn hslots fun group hg ↦ hc ⟨group, hg⟩).settle hs ht)
  | resize size =>
    obtain rfl := Option.some.inj ht
    exact .inl (InTurn.of_precedes (d := s.1) hs ⟨rfl, rfl, rfl, rfl, rfl, id, id⟩)
  | surround around =>
    obtain rfl := Option.some.inj ht
    exact .inl (InTurn.congr (d := s.1) hs rfl rfl)

/-- A draw of a run was recorded before, or by a command to draw. -/
def DrawnIn (uploads : Object .commandPool) (events : List Event) (s : Device × Host)
    (b : Object .commandBuffer) (c : Recorded) (past : List Call) : Prop :=
  ∃ before group after u, events = before ++ .command (.draw group) :: after ∧
    run before s = some u ∧ u.2.driver.calls = past ∧ Draws uploads group u b c

theorem inTurn_run (hslots : Apart slots) (hs : InTurn uploads slots s.2.driver.calls s)
    (ht : run events s = some t) :
    InTurn uploads slots t.2.driver.calls t ∧
      ∀ later past b c, t.2.driver.calls = later ++ .record b c :: past → c.IsDraw →
        (∃ earlier, s.2.driver.calls = earlier ++ .record b c :: past) ∨
          DrawnIn uploads events s b c past := by
  induction events generalizing s with
  | nil =>
    obtain rfl := Option.some.inj ht
    exact ⟨hs, fun later past b c hc _ ↦ .inl ⟨later, hc⟩⟩
  | cons e events ih =>
    obtain ⟨u, hu, ht⟩ := Option.bind_eq_some_iff.1 ht
    have hstep := inTurn_perform hslots hs hu
    have hturn : InTurn uploads slots u.2.driver.calls u := by
      rcases hstep with h | ⟨_, _, _, _, _, _, h⟩
      · exact h.rebase
      · exact h
    obtain ⟨hend, hdraws⟩ := ih hturn ht
    refine ⟨hend, fun later past b c hc hr ↦ ?_⟩
    rcases hdraws later past b c hc hr with ⟨earlier, hu'⟩ | ⟨before, group, after, v, rfl, hv, hd⟩
    · rcases hstep with h | ⟨group, rfl, b', c', hdraw, hcalls, -⟩
      · exact .inl (h.quiet.of_isDraw hu' hr)
      · -- The last call is this draw; any other was there before.
        rw [hcalls] at hu'
        cases earlier with
        | nil =>
          obtain ⟨hrecord, hpast⟩ := List.cons.inj hu'
          obtain ⟨rfl, rfl⟩ := Call.record.inj hrecord
          exact .inr ⟨[], group, events, s, rfl, rfl, hpast, hdraw⟩
        | cons x earlier => exact .inl ⟨earlier, (List.cons.inj hu').2⟩
    · exact .inr ⟨e :: before, group, after, v, rfl, Option.bind_eq_some_iff.2 ⟨u, hu, hv⟩, hd⟩

/-- A new device records in turn, and its slots are apart. -/
theorem IsNew.inTurn (hs : IsNew s) :
    Apart s.1.slots ∧ InTurn s.1.context.uploadPool s.1.slots [] s := by
  obtain ⟨w, size, config, builtIn, h, hfresh, hcreate⟩ := hs
  obtain ⟨⟨hframe, hactive⟩, hslots, hrest⟩ := stands_of_create hfresh hcreate
  exact ⟨hslots, .idle (d := s.1) ⟨rfl, rfl⟩ (by rw [hframe, Option.isSome_none]) hactive hrest⟩

/-- **Frames are recorded in turn.** Wherever a device gets and whatever fails on the way, the
buffer of every slot went through all its phases in turn, being waited for by the fence of its slot
before it was used again. What was recorded into other buffers were preparations. And every draw was
that of a command to draw, with the viewport, the scissor, the pipeline and the buffers of the mesh
set in the same render pass instance. -/
theorem run_records (hs : IsNew s) (ht : run events s = some t) :
    t.1.slots = s.1.slots ∧ (s.1.slots.map (·.commands)).Nodup ∧
      (∀ f ∈ s.1.slots, ∃ phase,
        Progress.after s.1.context.uploadPool f t.2.driver.calls = some ⟨false, phase⟩) ∧
      (∀ b c, .record b c ∈ t.2.driver.calls →
        (∃ f ∈ s.1.slots, f.commands = b) ∨ c.IsPreparation) ∧
      ∀ later past b c, t.2.driver.calls = later ++ .record b c :: past → c.IsDraw →
        DrawnIn s.1.context.uploadPool events s b c past := by
  obtain ⟨hslots, hnew⟩ := hs.inTurn
  obtain ⟨hend, hdraws⟩ := inTurn_run hslots (InTurn.rebase (d := s.1) hnew) ht
  refine ⟨(InTurn.hasSlots (d := t.1) hend).slots, hslots.commands,
    fun f hf ↦ InTurn.progress (d := t.1) hend hf, fun b c ↦ InTurn.others (d := t.1) hend,
    fun later past b c hc hr ↦ (hdraws later past b c hc hr).resolve_left ?_⟩
  rintro ⟨earlier, he⟩
  obtain ⟨l, hl⟩ := hnew.quiet.of_isDraw he hr
  simp at hl

/-! ### A frame with a draw -/

/-- A shader whose stages take nothing from outside. -/
def plainShader : ShaderDesc :=
  let code : List UInt8 :=
    [3, 2, 35, 7, 0, 0, 1, 0, 0, 0, 0, 0, 2, 0, 0, 0, 0, 0, 0, 0,
     15, 0, 4, 0, 0, 0, 0, 0, 1, 0, 0, 0, 0, 0, 0, 0]
  .ofCode "plain" code code

/-- A pipeline for a full-screen quad. -/
def plainPipeline (signature : Signature) : PipelineDesc :=
  { name := "plain"
    shader := ⟨1, 1⟩
    layout := (MeshDesc.fullScreenQuad true).layout
    primitive := .triangles
    depthWrite := false
    depthCompare := .always
    cull := false
    cullFace := .back
    signature }

/-- A frame in which a quad is drawn to the screen. -/
def plainFrame : List Event :=
  [.command (.createMesh (.fullScreenQuad true)), .command (.createShader plainShader),
   .command (.createPipeline (plainPipeline ⟨1, .bgra8Unorm, some screenDepthFormat, 1⟩)),
   .command (.beginPass none {}), .command (.applyDrawState ⟨⟨1, 1⟩, ⟨1, 1⟩, []⟩),
   .command (.draw 0), .command .endPass, .command .commitFrame]

/-- The draw of such a frame. -/
theorem run_records_plainFrame :
    ∃ s t later past b, IsNew s ∧ run plainFrame s = some t ∧
      t.2.driver.calls = later ++ .record b (.drawIndexed 6 0) :: past ∧
      DrawnIn s.1.context.uploadPool plainFrame s b (.drawIndexed 6 0) past := by
  obtain ⟨s, hs, hcheck⟩ := exists_new plainSurface []
    (fun s ↦ (run plainFrame s).any fun t ↦
      t.2.driver.calls.contains (.record ⟨1⟩ (.drawIndexed 6 0))) (by decide +kernel)
  obtain ⟨t, ht, hdraw⟩ := (Option.any_eq_true _ _).1 hcheck
  obtain ⟨later, past, hcalls⟩ := List.append_of_mem (List.contains_iff_mem.1 hdraw)
  exact ⟨s, t, later, past, ⟨1⟩, hs, ht, hcalls,
    (run_records hs ht).2.2.2.2 _ _ _ _ hcalls trivial⟩

end RenderTargets.Vulkan.Device
