import RenderTargets.Proofs.Vulkan.Device.InPass
import RenderTargets.Proofs.Vulkan.Device.Serving
import RenderTargets.Proofs.Vulkan.Respects
/-!
# Which command recorded what

A trace does not name the commands that a device was given. Each command records its own kinds of
commands, though, with its own data (`Recorded.IsOf`), and nothing else but the preparations of
textures, however it ends and whatever the driver lets fail (`writes_command`). So whatever was
recorded was recorded by such a command, given to the device in a state that it reached
(`Reached.exists_given`).

That is proved part by part, as what steps leave alone is: `Driver.Writes` is a relation on drivers
that the parts of a command respect.
-/

namespace RenderTargets.Vulkan

open StepWith GraphicsDevice

/-- The command begins passes. Committing a frame does if there was no pass into the screen. -/
def BeginsPasses (c : GraphicsDevice.Command) : Prop :=
  (∃ pass action, c = .beginPass pass action) ∨ c = .commitFrame

/-- The command is one that records this. Passes begin with all of their target, and uniforms and
colors are recorded as they are given. -/
def Recorded.IsOf (c : GraphicsDevice.Command) : Recorded → Prop
  | beginPass _ | scissor _ => BeginsPasses c
  | viewport _ => BeginsPasses c ∨ ∃ rect topLeft, c = .applyViewport rect topLeft
  | bindPipeline _ | bindVertices _ | bindIndices .. | bindSet .. =>
    ∃ state, c = .applyDrawState state
  | pushConstants _ _ data => ∃ stage, c = .applyUniforms stage data
  | draw .. | drawIndexed .. => ∃ group, c = .draw group
  | clearAttachments _ color _ => ∃ rects, c = .fillRects color rects
  | endPass => c = .endPass ∨ c = .commitFrame
  | prepareForSampling _ => False

variable {uploads : Object .commandPool} {c : GraphicsDevice.Command} {d d' d'' : Driver}
  {α β : Type} {name : CallName} {kind : ObjectKind} {action : String} {r : Recorded}

/-- From one driver to the other nothing was recorded but preparations and what is of the command.
-/
def Driver.Writes (c : GraphicsDevice.Command) (d d' : Driver) : Prop :=
  ∃ l, d'.calls = l ++ d.calls ∧ ∀ b r, .record b r ∈ l → r.IsPreparation ∨ r.IsOf c

namespace Driver.Writes

theorem of_eq (h : d'.calls = d.calls) : d.Writes c d' := ⟨[], h, nofun⟩

theorem refl (d : Driver) : d.Writes c d := of_eq rfl

theorem trans (h : d.Writes c d') (h' : d'.Writes c d'') : d.Writes c d'' := by
  obtain ⟨l, hl, hr⟩ := h
  obtain ⟨l', hl', hr'⟩ := h'
  refine ⟨l' ++ l, by rw [hl', hl, List.append_assoc], fun b r hmem ↦ ?_⟩
  exact (List.mem_append.1 hmem).elim (hr' b r) (hr b r)

theorem of_grows (h : d.Grows uploads d') : d.Writes c d' := by
  obtain ⟨l, hl, houtside⟩ := h.calls
  exact ⟨l, hl, fun b r hmem ↦ .inl (houtside.of_record hmem).2⟩

/-- A call that records nothing. -/
theorem push {x : Call} (hx : ∀ b r, x ≠ .record b r) : d.Writes c (d.push x) :=
  ⟨[x], rfl, fun b r hmem ↦ absurd (List.mem_singleton.1 hmem).symm (hx b r)⟩

theorem perform {x : Call} (hx : ∀ b r, x ≠ .record b r) :
    d.Writes c (Driver.perform name x d).2 := by
  rcases hd : Driver.perform name x d with ⟨code | _, d'⟩
  · rw [perform_error hd]
    exact (of_eq rfl).trans (push nofun)
  · rw [perform_ok hd]
    exact (of_eq rfl).trans (push hx)

theorem create {x : Object kind → Call} (hx : ∀ o b r, x o ≠ .record b r) :
    d.Writes c (Driver.create name x d).2 := by
  rcases hd : Driver.create name x d with ⟨code | o, d'⟩
  · rw [create_error hd]
    exact (of_eq rfl).trans (push nofun)
  · rw [(create_ok hd).2]
    exact (of_eq rfl).trans (push (hx o))

theorem record (hr : r.IsOf c) {b : Object .commandBuffer} :
    d.Writes c (d.push (.record b r)) := by
  refine ⟨[.record b r], rfl, fun b' r' hmem ↦ .inr ?_⟩
  cases List.mem_singleton.1 hmem
  exact hr

/-- What was recorded is of the command, unless it was recorded before. -/
theorem record_cases (h : d.Writes c d') (hr : ¬r.IsPreparation) {b : Object .commandBuffer}
    {later past : List Call} (hcalls : d'.calls = later ++ .record b r :: past) :
    (∃ earlier, d.calls = earlier ++ .record b r :: past) ∨ r.IsOf c ∧ d.calls <:+ past := by
  obtain ⟨l, hl, hof⟩ := h
  rcases List.append_eq_append_iff.1 (hl.symm.trans hcalls) with ⟨x, -, hx⟩ | ⟨x, rfl, hx⟩
  · exact .inl ⟨x, hx⟩
  · cases x with
    | nil => exact .inl ⟨[], hx.symm⟩
    | cons y x =>
      obtain ⟨rfl, rfl⟩ := List.cons.inj hx
      exact .inr ⟨(hof b r (by simp)).resolve_left hr, List.suffix_append x _⟩

end Driver.Writes

namespace Device

open Run

variable {l : List (GraphicsDevice.Command × Option ResourceId)} {s t : Device × Host}
  {later past : List Call} {b : Object .commandBuffer}

/-! ### Steps -/

/-- What is done outside frames records preparations only. The pool of uploads is given, as most
steps are outside frames for any. -/
theorem writes_of_outsideFrames (uploads : Object .commandPool) {x : Run α}
    (hx : Run.IsOutsideFrames uploads x) :
    Run.Respects (Driver.Writes c) x :=
  fun _ h hd ↦ (hx h.driver h (.refl _)).mono (fun _ _ ho ↦ hd.trans (.of_grows ho.toGrows))
    fun _ _ ho ↦ hd.trans (.of_grows ho.toGrows)

theorem writes_work {f : Driver → Except ResultCode α × Driver}
    (hf : ∀ d : Driver, d.Writes c (f d).2) : Run.Respects (Driver.Writes c) (work action f) := by
  refine .bind (fun _ ↦ meets_driving fun d hd ↦ hd.trans (hf d.driver)) fun r ↦ ?_
  cases r with
  | ok => exact .pure
  | error => exact .refuse

theorem writes_perform {x : Call} (hx : ∀ b r, x ≠ .record b r) :
    Run.Respects (Driver.Writes c) (work action (Driver.perform name x)) :=
  writes_work fun _ ↦ .perform hx

theorem writes_onScreen (uploads : Object .commandPool) {x : RunOn Swapchain α}
    (hx : RunOn.IsOutsideFrames uploads x) :
    RunOn.Respects (Driver.Writes c) (onScreen x) := by
  refine fun d ↦ Meets.within fun s hs ↦ ?_
  rintro _ rfl
  exact (hx s.2.driver (s.1.screen, s.2) (.refl _)).mono
    (fun _ _ ho ↦ hs.trans (.of_grows ho.toGrows)) fun _ _ ho ↦ hs.trans (.of_grows ho.toGrows)

theorem writes_slot : RunOn.Respects (Driver.Writes c) slot := .part_bind fun _ ↦ .orTrap

theorem writes_recordInto (hr : r.IsOf c) {b : Object .commandBuffer} :
    Run.Respects (Driver.Writes c) (Run.record b r) :=
  fun _ ↦ meets_changeDriver fun _ hd ↦ hd.trans (.record hr)

theorem writes_record (hr : r.IsOf c) : RunOn.Respects (Driver.Writes c) (record r) :=
  .bind writes_slot fun _ ↦ .lift (writes_recordInto hr)

theorem writes_activePass {command : String} :
    RunOn.Respects (Driver.Writes c) (activePass command) := by
  refine .part_bind fun _ ↦ ?_
  split
  · exact .pure
  · exact .refuse

/-- What is done unless it is refused. -/
theorem writes_unless {q : Prop} [Decidable q] {cause : BackendCause} {x : DeviceStep α}
    (hx : RunOn.Respects (Driver.Writes c) x) :
    RunOn.Respects (Driver.Writes c) (do
      if q then Log.refuse source cause
      x) :=
  .ite (fun _ ↦ .refuse_bind fun _ _ hs ↦ hs) hx

/-! ### Frames and passes -/

theorem writes_ensureFrame : RunOn.Respects (Driver.Writes c) ensureFrame := by
  have hbegin {f : FrameSlot} : Run.Respects (Driver.Writes c) f.begin := by
    refine .bind (writes_perform nofun) fun _ ↦ ?_
    refine .bind (writes_perform nofun) fun _ ↦ ?_
    exact .bind (writes_perform nofun) fun _ ↦ writes_perform nofun
  refine .part_bind fun _ ↦ ?_
  exact .ite (.bind writes_slot fun _ ↦ .bind (.lift hbegin) fun _ ↦ .change) .pure

theorem writes_screenImage : RunOn.Respects (Driver.Writes c) screenImage := by
  have htake : ∀ n, RunOn.Respects (Driver.Writes c) (do
      let image ← onScreen (Swapchain.acquire n)
      changeFrame ({ · with image })
      return image) := fun n ↦
    .bind (writes_onScreen .null Swapchain.outsideFrames_acquire) fun _ ↦
      .bind .change fun _ ↦ .pure
  refine .part_bind fun _ ↦ ?_
  split
  · exact .refuse
  · refine .ite .pure (.bind .change fun _ ↦ .ite ?_ (htake _))
    refine .bind (writes_onScreen .null Swapchain.outsideFrames_rebuild) fun _ ↦ ?_
    exact .part_bind fun _ ↦ .ite .pure (htake _)

theorem writes_screenTarget {action : PassAction} :
    RunOn.Respects (Driver.Writes c) (screenTarget action) := by
  refine .bind .change fun _ ↦ ?_
  refine .bind writes_screenImage fun image ↦ ?_
  refine .part_bind fun _ ↦ ?_
  cases image with
  | none => exact .pure
  | some index => exact .bind .orTrap fun _ ↦ .pure

/-- The pass becomes the active one after its beginning was recorded. -/
theorem writes_enterPass {active : ActivePass} (hc : BeginsPasses c) (target : Option Target) :
    RunOn.Respects (Driver.Writes c) (do
      if let some t := target then recordBegin active.extent t
      RunOn.change ({ · with active := some active }) : DeviceStep Unit) := by
  cases target with
  | none => exact .change
  | some t =>
    refine .bind (.bind .orTrap fun _ ↦ .bind (writes_record hc) fun _ ↦ .bind
      (writes_record (.inl hc)) fun _ ↦ writes_record hc) fun _ ↦ ?_
    exact .change

theorem writes_beginPass {pass : Option PassId} {action : PassAction} (hc : BeginsPasses c) :
    RunOn.Respects (Driver.Writes c) (beginPass pass action) := by
  refine .part_bind fun _ ↦ writes_unless ?_
  cases pass with
  | none =>
    refine .bind writes_ensureFrame fun _ ↦ ?_
    exact .bind writes_screenTarget fun ⟨_, target⟩ ↦ writes_enterPass hc target
  | some id =>
    refine .bind .ofChecked fun ⟨_, target⟩ ↦ ?_
    exact .bind writes_ensureFrame fun _ ↦ writes_enterPass hc (some target)

theorem writes_endPass (hc : c = .endPass ∨ c = .commitFrame) :
    RunOn.Respects (Driver.Writes c) endPass := by
  refine .part_bind fun _ ↦ ?_
  split
  · exact .refuse
  · exact .bind .change fun _ ↦
      .ite (.bind (writes_record hc) fun _ ↦ .ite .change .pure) (.ite .change .pure)

theorem writes_handOver : RunOn.Respects (Driver.Writes c) handOver := by
  have hsubmit {f : FrameSlot} {ctx : Context}
      {sync : Option (Object .semaphore × Object .semaphore)} :
      RunOn.Respects (Driver.Writes c) (f.submit ctx sync : DeviceStep Unit) :=
    .lift <| .bind (writes_perform nofun) fun _ ↦ .bind (writes_perform nofun) fun _ ↦
      writes_perform nofun
  refine .part_bind fun _ ↦ ?_
  refine .bind .change fun _ ↦ ?_
  refine .bind writes_slot fun _ ↦ ?_
  split
  · exact .bind hsubmit fun _ ↦ .change
  · refine .bind .orTrap fun _ ↦ ?_
    refine .bind hsubmit fun _ ↦ ?_
    exact .bind (writes_onScreen .null Swapchain.outsideFrames_present) fun _ ↦ .change

theorem writes_commitFrame : RunOn.Respects (Driver.Writes .commitFrame) commitFrame := by
  refine .part_bind fun _ ↦ ?_
  refine writes_unless ?_
  refine .bind writes_ensureFrame fun _ ↦ ?_
  refine .part_bind fun _ ↦ ?_
  refine .ite ?_ writes_handOver
  refine .bind (writes_beginPass (.inr rfl)) fun _ ↦ ?_
  exact .bind (writes_endPass (.inr rfl)) fun _ ↦ writes_handOver

/-! ### Inside a pass -/

theorem writes_applyViewport {rect : Rect} {topLeft : Bool} :
    RunOn.Respects (Driver.Writes (.applyViewport rect topLeft)) (applyViewport rect topLeft) :=
  .bind writes_activePass fun _ ↦
    .ite (.bind .orTrap fun _ ↦ writes_record (.inr ⟨_, _, rfl⟩)) .pure

theorem writes_sampledViews {ids : List TextureId} :
    RunOn.Respects (Driver.Writes c) (sampledViews ids) := by
  induction ids with
  | nil => exact .pure
  | cons id ids ih =>
    refine .part_bind fun _ ↦ ?_
    split
    · exact .fail
    · exact writes_unless (.bind ih fun _ ↦ .pure)

section DrawStates

variable {state : DrawState}

theorem writes_bindMesh {m : Mesh} {b : Object .commandBuffer} :
    Run.Respects (Driver.Writes (.applyDrawState state)) (m.bind b) := by
  have hbind {r : Recorded} (hr : r.IsOf (.applyDrawState state)) :
      Run.Respects (Driver.Writes (.applyDrawState state)) (Run.record b r) :=
    writes_recordInto hr
  refine .bind (hbind ⟨state, rfl⟩) fun _ ↦ ?_
  split
  · exact hbind ⟨state, rfl⟩
  · exact .pure

theorem writes_bindViews {p : Pipeline} {views : List (Object .view)} :
    RunOn.Respects (Driver.Writes (.applyDrawState state)) (bindViews p views) := by
  refine .ite .pure ?_
  refine .bind writes_slot fun _ ↦ ?_
  refine .part_bind fun _ ↦ ?_
  refine .bind (.lift (writes_work fun _ ↦ .create nofun)) fun _ ↦ ?_
  refine .bind (.lift fun _ ↦ meets_changeDriver fun _ hd ↦ hd.trans (.push nofun)) fun _ ↦ ?_
  exact writes_record ⟨_, rfl⟩

theorem writes_applyDrawState :
    RunOn.Respects (Driver.Writes (.applyDrawState state)) (applyDrawState state) := by
  refine .part_bind fun _ ↦ ?_
  refine .bind .orFail fun _ ↦ ?_
  refine .bind .orFail fun _ ↦ ?_
  refine .bind writes_sampledViews fun _ ↦ ?_
  refine writes_unless ?_
  refine .bind writes_activePass fun _ ↦ ?_
  refine writes_unless (writes_unless ?_)
  refine .bind .change fun _ ↦ ?_
  refine .ite ?_ .pure
  refine .bind (writes_record ⟨_, rfl⟩) fun _ ↦ ?_
  refine .bind writes_slot fun _ ↦ ?_
  exact .bind (.lift writes_bindMesh) fun _ ↦ writes_bindViews

end DrawStates

theorem writes_applyUniforms {stage : ShaderStage} {data : List UInt8} :
    RunOn.Respects (Driver.Writes (.applyUniforms stage data)) (applyUniforms stage data) := by
  refine .bind writes_activePass fun _ ↦ ?_
  split
  · exact .refuse
  · refine .part_bind fun _ ↦ ?_
    refine .bind .orFail fun _ ↦ ?_
    exact writes_unless <| writes_unless <| .ite (writes_record ⟨_, rfl⟩) .pure

theorem writes_draw {group : ℕ} :
    RunOn.Respects (Driver.Writes (.draw group)) (draw group) := by
  have hdraw {r : Recorded} (hr : r.IsDraw) : r.IsOf (.draw group) := by
    cases r with
    | draw | drawIndexed => exact ⟨group, rfl⟩
    | _ => exact hr.elim
  refine .bind writes_activePass fun _ ↦ ?_
  split
  · exact .refuse
  · refine .part_bind fun _ ↦ .bind .orFail fun m ↦ ?_
    split
    · exact .refuse
    · refine .ite (.bind writes_slot fun _ ↦ .lift (writes_recordInto (hdraw ?_))) .pure
      split <;> trivial

theorem writes_fillRects {color : Vec4} {rects : List Rect} :
    RunOn.Respects (Driver.Writes (.fillRects color rects)) (fillRects color rects) :=
  .bind writes_activePass fun _ ↦
    .ite (.bind .orTrap fun _ ↦ .ite (writes_record ⟨_, rfl⟩) .pure) .pure

theorem writes_requestQuit : RunOn.Respects (Driver.Writes c) requestQuit := .change

/-! ### Resources -/

theorem writes_createTexture {t : TextureDesc} :
    RunOn.Respects (Driver.Writes c) (createTexture t) := by
  refine .part_bind fun _ ↦ ?_
  refine .ite (fun _ ↦ .fail_bind fun _ hs ↦ hs) ?_
  refine .bind (.lift (writes_of_outsideFrames _ Texture.outsideFrames_create)) fun _ ↦ ?_
  refine .bind .note fun _ ↦ ?_
  exact .bind .orTrap fun _ ↦ .bind .change fun _ ↦ .pure

theorem writes_createMesh {m : MeshDesc} : RunOn.Respects (Driver.Writes c) (createMesh m) := by
  refine .bind (.lift (writes_of_outsideFrames .null Mesh.outsideFrames_create)) fun _ ↦ ?_
  refine .part_bind fun _ ↦ ?_
  exact .bind .orTrap fun _ ↦ .bind .change fun _ ↦ .pure

theorem writes_createShader {m : ShaderDesc} :
    RunOn.Respects (Driver.Writes c) (createShader m) := by
  refine .part_bind fun _ ↦ ?_
  refine .bind (.lift (writes_of_outsideFrames .null Shader.outsideFrames_create)) fun _ ↦ ?_
  exact .bind .orTrap fun _ ↦ .bind .change fun _ ↦ .pure

theorem writes_createPipeline {p : PipelineDesc} :
    RunOn.Respects (Driver.Writes c) (createPipeline p) := by
  refine .part_bind fun _ ↦ ?_
  refine .bind .orFail fun _ ↦ ?_
  refine .bind (.lift (writes_of_outsideFrames .null Pipeline.outsideFrames_create)) fun _ ↦ ?_
  exact .bind .orTrap fun _ ↦ .bind .change fun _ ↦ .pure

theorem writes_createPass {p : PassDesc} : RunOn.Respects (Driver.Writes c) (createPass p) := by
  refine .part_bind fun _ ↦ ?_
  refine .bind (.lift (writes_of_outsideFrames .null Pass.outsideFrames_create)) fun _ ↦ ?_
  refine .bind .note fun _ ↦ ?_
  exact .bind .orTrap fun _ ↦ .bind .change fun _ ↦ .pure

theorem writes_destroy {id : ResourceId} : RunOn.Respects (Driver.Writes c) (destroy id) := by
  refine .part_bind fun d ↦ writes_unless <| .bind (.lift (writes_perform nofun)) fun _ ↦ ?_
  split
  · exact .fail
  · next hr =>
    exact .bind .change fun _ ↦ .lift (writes_of_outsideFrames .null (outsideFrames_remove? hr).1)

/-! ### All commands -/

/-- **Whatever a command records is of the command**, or prepares a texture. -/
theorem writes_command (c : GraphicsDevice.Command) :
    RunOn.Respects (Driver.Writes c) (c.perform : DeviceStep Unit) := by
  cases c with
  | createTexture => exact .map writes_createTexture
  | createMesh => exact .map writes_createMesh
  | createShader => exact .map writes_createShader
  | createPipeline => exact .map writes_createPipeline
  | createPass => exact .map writes_createPass
  | destroy => exact writes_destroy
  | beginPass pass action => exact writes_beginPass (.inl ⟨pass, action, rfl⟩)
  | applyViewport => exact writes_applyViewport
  | applyDrawState => exact writes_applyDrawState
  | applyUniforms => exact writes_applyUniforms
  | draw => exact writes_draw
  | fillRects => exact writes_fillRects
  | endPass => exact writes_endPass (.inl rfl)
  | commitFrame => exact writes_commitFrame
  | requestQuit => exact writes_requestQuit

theorem writes_settle (hc : c.answer.settle s = some t) : s.2.driver.Writes c t.2.driver := by
  rw [← settle_map (f := fun _ ↦ ()), c.map_answer] at hc
  exact (writes_command c s.2.driver).settle (.refl _) hc

/-! ### Runs -/

/-- On the way to a history the command was given to the device `s`, and got it to `t`. -/
inductive Given (c : GraphicsDevice.Command) (s t : Device × Host) :
    List (GraphicsDevice.Command × Option ResourceId) → Prop
  /-- It was taken, and is part of the history. -/
  | taken {l a after} (reached : Reached l s) (took : c.answer s = .ok a t) :
      Given c s t (l ++ (c, a) :: after)
  /-- It was refused. -/
  | refused {l e after} (reached : Reached l s) (refused : c.answer s = .error (.error e) t) :
      Given c s t (l ++ after)

theorem Given.append (h : Given c s t l)
    (after : List (GraphicsDevice.Command × Option ResourceId)) : Given c s t (l ++ after) := by
  cases h with
  | taken reached took =>
    rw [List.append_assoc]
    exact .taken reached took
  | refused reached refused =>
    rw [List.append_assoc]
    exact .refused reached refused

/-- **Whatever is in a trace was recorded by a command that records it**, which was given to the
device after the last of the calls before. -/
theorem Reached.exists_given (h : Reached l t)
    (hcalls : t.2.driver.calls = later ++ .record b r :: past) (hr : ¬r.IsPreparation) :
    ∃ c s u earlier, Given c s u l ∧ r.IsOf c ∧ s.2.driver.calls <:+ past ∧
      u.2.driver.calls = earlier ++ .record b r :: past := by
  induction h generalizing later with
  | @start s hs =>
    obtain ⟨k, hempty, hgrows⟩ := hs.exists_grows
    obtain ⟨earlier, hearlier⟩ := hgrows.record_before hr hcalls
    simp [hempty] at hearlier
  | @taken l s a t c hs took ih =>
    rcases (writes_settle (settle_of_ok took)).record_cases hr hcalls with
      ⟨earlier, he⟩ | ⟨hof, hpast⟩
    · obtain ⟨c', s', u, earlier, hgiven, hu⟩ := ih he
      exact ⟨c', s', u, earlier, hgiven.append _, hu⟩
    · exact ⟨c, s, t, later, .taken hs took, hof, hpast, hcalls⟩
  | @refused l s e t c hs hrefused ih =>
    rcases (writes_settle (settle_of_error hrefused)).record_cases hr hcalls with
      ⟨earlier, he⟩ | ⟨hof, hpast⟩
    · exact ih he
    · have hgiven : Given c s t (l ++ []) := .refused hs hrefused
      exact ⟨c, s, t, later, List.append_nil l ▸ hgiven, hof, hpast, hcalls⟩
  | between _ done ih =>
    cases done with
    | resize size => exact ih hcalls
    | surround around => exact ih hcalls

end Device
end RenderTargets.Vulkan
