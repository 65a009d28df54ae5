import RenderTargets.Proofs.Device.Command
import RenderTargets.Proofs.Vulkan.Device.Accepts
import RenderTargets.Proofs.Vulkan.Device.Follows
import RenderTargets.Proofs.Vulkan.Records
/-!
# What a Vulkan device takes, a recorder takes

Whatever a device takes on a driver that never fails, a recorder with the same limits and the same
screen takes as well: it hands out the same handles, and is in a pass when the device is
(`run_replayed`). So what runs on a GPU runs in the tests.

**There is one exception.** A device keeps the depth format of a pass, and a recorder looks it up
when the pass begins. If the texture of the depth buffer was released before, the recorder finds no
depth buffer and refuses the pipeline that was made for the pass (`run_replayed_released_depth`).
`KeepsDepth` leaves that out. The other condition is that there are fewer commands than versions of
a slot.
-/

namespace RenderTargets.Vulkan

open StepWith Run GraphicsDevice

/-- A beginning of a history begins the same passes. -/
theorem KeepsDepth.of_prefix {k l : History} (h : KeepsDepth l) (hk : k <+: l) : KeepsDepth k := by
  obtain ⟨rest, rfl⟩ := hk
  intro before id action answer after d t hl
  exact h before id action answer (after ++ rest) d t
    (by rw [hl, List.append_assoc, List.cons_append])

/-- What there is at first. -/
def Outline.fresh (capabilities : Capabilities) (colorFormat : Format) : Outline :=
  { capabilities, colorFormat, textures := {}, meshes := {}, shaders := {}, pipelines := {},
    passes := {}, active := none }

/-- Nothing was released. -/
theorem KeepsDepth.of_notMem {l : History} (h : ∀ id, .destroy id ∉ l.map Prod.fst) :
    KeepsDepth l := by
  rintro before id action answer after d t rfl - - hmem
  exact h _ (List.mem_map_of_mem (List.mem_append_left _ hmem))

namespace Device

variable {uploads : Object .commandPool} {slots : List FrameSlot} {base : List Call} {l : History}
  {d : Device} {h k : Host} {s u : Device × Host} {t : Recorder × Log.Journal} {j : Log.Journal}
  {c : GraphicsDevice.Command} {commands : List GraphicsDevice.Command}

/-! ### A new device and its stand-in -/

/-- The recorder to stand in for a device. -/
def standIn (s : Device × Host) : Recorder where
  features := GraphicsDevice.features s
  maxColors := GraphicsDevice.maxColors s
  display := GraphicsDevice.display s

/-- A new device has no resources and is not in a pass. -/
theorem IsNew.outline_eq (hs : IsNew s) :
    s.1.outline = .fresh s.1.capabilities s.1.screen.colorFormat := by
  obtain ⟨w, size, config, builtIn, h, -, hcreate⟩ := hs
  rw [(answers_create h s.1 s.2 hcreate).plain]
  rfl

theorem IsNew.get?_textures (hs : IsNew s) (id : TextureId) : s.1.textures.get? id = none :=
  (congrArg (fun o : Outline ↦ o.textures.get? id) hs.outline_eq).trans Slot.Map.get?_empty

theorem IsNew.get?_passes (hs : IsNew s) (id : PassId) : s.1.passes.get? id = none :=
  (congrArg (fun o : Outline ↦ o.passes.get? id) hs.outline_eq).trans Slot.Map.get?_empty

/-- A new recorder follows a new device. -/
theorem follows_standIn (hs : IsNew s) : Follows [] s.1.outline (standIn s) := by
  rw [hs.outline_eq]
  exact
    { maxColors := rfl
      display := rfl
      failAt := rfl
      textures := .empty
      meshes := .empty
      shaders := .empty
      pipelines := .empty
      passes := .empty
      aged := .empty
      active := .none }

/-! ### Side by side -/

/-- A device that records in turn on a driver that never fails, and a recorder that follows it. -/
structure IsFollowed (uploads : Object .commandPool) (slots : List FrameSlot) (l : History)
    (s : Device × Host) (t : Recorder × Log.Journal) : Prop where
  /-- The recorder was given what the device took. -/
  follows : Follows l s.1.outline t.1
  /-- No call fails. -/
  neverFails : s.2.NeverFails
  /-- The device is in a frame when it is in a pass. -/
  inTurn : ∃ base, InTurn uploads slots base s

theorem InTurn.frame_of_active (hs : InTurn uploads slots base s) (ha : s.1.active.isSome) :
    s.1.frame.isSome := by
  cases hs with
  | idle hd hf hnone =>
    rw [hnone] at ha
    cases ha
  | busy hd hf => exact hf

/-- A command leaves a device recording in turn. -/
theorem inTurn_of_settle (hslots : Apart slots) (hs : InTurn uploads slots base s)
    (hc : c.answer.settle s = some u) : ∃ base, InTurn uploads slots base u := by
  rw [← settle_map (f := fun _ ↦ ()), c.map_answer] at hc
  rcases inTurn_perform (e := .command c) hslots hs hc with h | ⟨_, _, _, _, _, _, h⟩
  · exact ⟨base, h⟩
  · exact ⟨_, h⟩

/-- A command that the device takes, the recorder takes. -/
theorem IsFollowed.step (hslots : Apart slots) (hb : IsFollowed uploads slots l s t)
    {a : Option ResourceId}
    (hc : c.answer s = .ok a u) (hlen : (l ++ [(c, a)]).length < UInt32.size)
    (hdepth : KeepsDepth (l ++ [(c, a)])) :
    ∃ t', c.answer t = .ok a t' ∧ IsFollowed uploads slots (l ++ [(c, a)]) u t' := by
  obtain ⟨base, hturn⟩ := hb.inTurn
  obtain ⟨o, hacc, houtline, hnever⟩ :=
    (meets_answer (d := s.1) hturn.frame_of_active).ok ⟨rfl, hb.neverFails⟩ hc
  rw [List.length_append, List.length_singleton] at hlen
  obtain ⟨r, hr, hf⟩ := hb.follows.step hlen hdepth hacc
  exact ⟨(r, t.2), Recorder.answer_ok_iff.2 ⟨r, hr, rfl⟩, houtline ▸ hf, hnever,
    inTurn_of_settle hslots hturn (settle_of_ok hc)⟩

/-- A command that the device refuses need not be given to the recorder. -/
theorem IsFollowed.refuse (hslots : Apart slots) (hb : IsFollowed uploads slots l s t)
    {e : EngineError}
    (hc : c.answer s = .error (.error e) u) : IsFollowed uploads slots l u t := by
  obtain ⟨base, hturn⟩ := hb.inTurn
  obtain ⟨houtline, hnever⟩ :=
    (meets_answer (d := s.1) hturn.frame_of_active).error ⟨rfl, hb.neverFails⟩ hc
  exact ⟨houtline ▸ hb.follows, hnever, inTurn_of_settle hslots hturn (settle_of_error hc)⟩

/-- Both are in a pass, or none of them. -/
def InPassAlike (s : Device × Host) (t : Recorder × Log.Journal) : Prop :=
  s.1.active.isSome = t.1.active.isSome

theorem IsFollowed.inPassAlike (hb : IsFollowed uploads slots l s t) : InPassAlike s t := by
  rcases ha : s.1.active with _ | a
  · rw [InPassAlike, ha, hb.follows.idle ha]
    rfl
  · obtain ⟨b, hr, -⟩ := hb.follows.inside ha
    rw [InPassAlike, ha, hr]
    rfl

/-! ### Runs -/

/-- **What a device takes, a recorder takes**, with the same answers, and both are in a pass or not
after every command. -/
theorem run_replayed (hs : IsNew s) (hscript : s.2.driver.script = [])
    (hlen : (accepted commands s).length < UInt32.size) (hdepth : KeepsDepth (accepted commands s))
    (j : Log.Journal) : Replays InPassAlike commands s (standIn s, j) := by
  obtain ⟨hslots, hnew⟩ := hs.inTurn
  refine Replays.of_step (I := IsFollowed s.1.context.uploadPool s.1.slots)
    (P := fun l ↦ l.length < UInt32.size ∧ KeepsDepth l) (l := [])
    (fun _ _ _ hb ↦ hb.inPassAlike) (fun l c s t a u hb hc hP ↦ hb.step hslots hc hP.1 hP.2)
    (fun l c s t e u hb hc ↦ hb.refuse hslots hc) ⟨follows_standIn hs, hscript, [], hnew⟩
      fun k hk ↦ ?_
  exact ⟨hk.length_le.trans_lt hlen, hdepth.of_prefix hk⟩

/-! ### A frame with a depth buffer -/

/-- A quad is drawn into a texture. The depth buffer belongs to another texture, and `between` is
done before the pass begins. -/
def offscreenFrame (between : List GraphicsDevice.Command) : List GraphicsDevice.Command :=
  [.createTexture ⟨"color", 4, 4, .rgba8Unorm, .sampledAndRenderTarget, 1, none⟩,
   .createTexture ⟨"depth", 4, 4, .rgba8Unorm, .sampledAndRenderTarget, 1, some .depth24Stencil8⟩,
   .createShader plainShader, .createMesh (.fullScreenQuad true),
   .createPipeline (plainPipeline ⟨1, .rgba8Unorm, some .depth24Stencil8, 1⟩),
   .createPass ⟨"pass", [⟨⟨1, 1⟩, .black⟩], some ⟨2, 1⟩, .one, 0, .store⟩] ++ between ++
  [.beginPass (some ⟨1, 1⟩) {}, .applyDrawState ⟨⟨1, 1⟩, ⟨1, 1⟩, []⟩, .draw 0, .endPass,
    .commitFrame]

/-- All of such a frame is taken, and the recorder takes it. -/
theorem run_replayed_offscreenFrame :
    ∃ s, IsNew s ∧ s.2.driver.script = [] ∧
      (accepted (offscreenFrame []) s).map Prod.fst = offscreenFrame [] ∧
      Replays InPassAlike (offscreenFrame []) s (standIn s, {}) := by
  obtain ⟨s, hs, hcheck⟩ := exists_new plainSurface []
    (fun s ↦ s.2.driver.script.isEmpty && (accepted (offscreenFrame []) s).length == 11)
    (by decide +kernel)
  simp only [Bool.and_eq_true, List.isEmpty_iff, beq_iff_eq] at hcheck
  obtain ⟨hscript, hlen⟩ := hcheck
  have hall : (accepted (offscreenFrame []) s).map Prod.fst = offscreenFrame [] :=
    sublist_accepted.eq_of_length (by rw [List.length_map, hlen]; rfl)
  refine ⟨s, hs, hscript, hall, run_replayed hs hscript ?_ (.of_notMem fun id ↦ ?_) {}⟩
  · rw [hlen]
    decide
  · rw [hall]
    simp [offscreenFrame]

/-- When the texture of the depth buffer was released before the pass begins, the device takes the
frame, and the recorder does not. -/
theorem run_replayed_released_depth :
    ∃ s, IsNew s ∧ s.2.driver.script = [] ∧
      (accepted (offscreenFrame [.destroy (.texture ⟨2, 1⟩)]) s).map Prod.fst =
        offscreenFrame [.destroy (.texture ⟨2, 1⟩)] ∧
      ¬Replays InPassAlike (offscreenFrame [.destroy (.texture ⟨2, 1⟩)]) s (standIn s, {}) := by
  obtain ⟨s, hs, hcheck⟩ := exists_new plainSurface []
    (fun s ↦
      let frame := offscreenFrame [.destroy (.texture ⟨2, 1⟩)]
      s.2.driver.script.isEmpty && (accepted frame s).length == 12 &&
        (accepted frame (standIn s, ({} : Log.Journal))).length == 10)
    (by decide +kernel)
  simp only [Bool.and_eq_true, List.isEmpty_iff, beq_iff_eq] at hcheck
  obtain ⟨⟨hscript, hlen⟩, hshorter⟩ := hcheck
  have hall : (accepted (offscreenFrame [.destroy (.texture ⟨2, 1⟩)]) s).map Prod.fst =
      offscreenFrame [.destroy (.texture ⟨2, 1⟩)] :=
    sublist_accepted.eq_of_length (by rw [List.length_map, hlen]; rfl)
  refine ⟨s, hs, hscript, hall, fun h ↦ ?_⟩
  have heq := congrArg List.length h.accepted_eq
  rw [hall, hshorter, hlen] at heq
  omega

end Device

end RenderTargets.Vulkan
