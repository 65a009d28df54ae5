import RenderTargets.Proofs.Vulkan.Device.Outline
/-!
# A Vulkan device takes what its outline accepts

One lemma for each command, and `meets_answer` for all of them: on a driver that never fails, a
command that is taken is accepted by the outline, and one that is refused leaves the outline as it
was.
-/

namespace RenderTargets.Vulkan.Device

open StepWith Run

variable {o : Outline} {d : Device} {s : Device × Host} {α : Type} {a : ActivePass}
  {c : GraphicsDevice.Command} {E : EngineError → Device × Host → Prop}

/-- The step takes the command as one that makes something, or leaves the outline alone. -/
def Creates (o : Outline) (c : GraphicsDevice.Command) (f : α → ResourceId) (x : DeviceStep α) :
    Prop :=
  Meets (HasOutline o) x (fun h s ↦ ∃ o', o.Accepts c (some (f h)) o' ∧ HasOutline o' s)
    fun _ ↦ HasOutline o

/-- The step takes the command as one that makes nothing, or leaves the outline alone. -/
def Takes (o : Outline) (c : GraphicsDevice.Command) (x : DeviceStep Unit) : Prop :=
  Meets (HasOutline o) x (fun _ s ↦ ∃ o', o.Accepts c none o' ∧ HasOutline o' s)
    fun _ ↦ HasOutline o

/-! ### Resources -/

/-- What was made is stored, and its handle is answered. -/
theorem meets_store_hasOutline {Q : Host → Prop} {g : Device → Device} {h : α} {f : α → ResourceId}
    (hQ : ∀ k, Q k → k.NeverFails ∧ d.outline.Accepts c (some (f h)) (g d).outline) :
    Meets (RunOn.At d Q) (do RunOn.change g; return h)
      (fun h s ↦ ∃ o, d.outline.Accepts c (some (f h)) o ∧ HasOutline o s) E := by
  refine RunOn.meets_change_bind <| .pure ?_
  rintro ⟨_, k⟩ ⟨rfl, hk⟩
  obtain ⟨hnever, hacc⟩ := hQ k hk
  exact ⟨_, hacc, rfl, hnever⟩

/-- An entry of the journal is written. -/
theorem meets_note_hasOutline {P : Host → Prop} {severity : Log.Severity} {origin message : String}
    {y : Unit → DeviceStep α} {R : α → Device × Host → Prop}
    (hP : ∀ k j, P k → P { k with journal := j }) (h : Meets (RunOn.At d P) (y ()) R E) :
    Meets (RunOn.At d P) (Log.note severity origin message >>= y) R E :=
  .bind (Meets.note (Q := fun _ ↦ RunOn.At d P) fun _ j hs ↦ ⟨hs.1, hP _ j hs.2⟩) fun _ ↦ h

theorem creates_createTexture {t : TextureDesc} :
    Creates o (.createTexture t) .texture (createTexture t) := by
  refine meets_hasOutline ?_
  rintro d rfl
  refine RunOn.meets_part_bind <| .ite (fun _ ↦ .fail_bind fun _ ↦ hasOutline_of_at) fun _ ↦ ?_
  refine RunOn.meets_lift_bind
    (Texture.answers_create.meets Texture.outsideFrames_create.neverFails)
    (fun _ _ hk ↦ ⟨rfl, hk⟩) fun texture ↦ ?_
  refine meets_note_hasOutline (fun _ _ hk ↦ hk) ?_
  refine .orTrap_bind fun ⟨id, textures⟩ hi ↦ meets_store_hasOutline fun k hk ↦ ⟨hk.2, ?_⟩
  exact .createTexture hk.1.1 hk.1.2.1 hk.1.2.2 hi

theorem creates_createMesh {m : MeshDesc} : Creates o (.createMesh m) .mesh (createMesh m) := by
  refine meets_hasOutline ?_
  rintro d rfl
  refine RunOn.meets_lift_bind
    (Mesh.answers_create.meets (Mesh.outsideFrames_create : IsOutsideFrames .null _).neverFails)
    (fun _ _ hk ↦ ⟨rfl, hk⟩) fun mesh ↦ ?_
  refine RunOn.meets_part_bind ?_
  refine .orTrap_bind fun ⟨id, meshes⟩ hi ↦ meets_store_hasOutline fun k hk ↦ ⟨hk.2, ?_⟩
  exact .createMesh hk.1.1 hk.1.2 hi

theorem creates_createShader {t : ShaderDesc} :
    Creates o (.createShader t) .shader (createShader t) := by
  refine meets_hasOutline ?_
  rintro d rfl
  refine RunOn.meets_part_bind ?_
  refine RunOn.meets_lift_bind
    (Shader.answers_create.meets (Shader.outsideFrames_create : IsOutsideFrames .null _).neverFails)
    (fun _ _ hk ↦ ⟨rfl, hk⟩) fun shader ↦ ?_
  refine .orTrap_bind fun ⟨id, shaders⟩ hi ↦ meets_store_hasOutline fun k hk ↦ ⟨hk.2, ?_⟩
  exact .createShader hk.1.1 hi

theorem creates_createPipeline {p : PipelineDesc} :
    Creates o (.createPipeline p) .pipeline (createPipeline p) := by
  refine meets_hasOutline ?_
  rintro d rfl
  refine RunOn.meets_part_bind <| .orFail_bind (fun shader hs ↦ ?_) fun _ ↦ hasOutline_of_at
  refine RunOn.meets_lift_bind
    (Pipeline.answers_create.meets (Pipeline.outsideFrames_create : IsOutsideFrames .null
      _).neverFails)
    (fun _ _ hk ↦ ⟨rfl, hk⟩) fun pipeline ↦ ?_
  refine .orTrap_bind fun ⟨id, pipelines⟩ hi ↦ meets_store_hasOutline fun k hk ↦ ⟨hk.2, ?_⟩
  exact .createPipeline hk.1.1 (Option.isSome_iff_exists.2 ⟨shader, hs⟩) hk.1.2 hi

theorem creates_createPass {p : PassDesc} : Creates o (.createPass p) .pass (createPass p) := by
  refine meets_hasOutline ?_
  rintro d rfl
  refine RunOn.meets_part_bind ?_
  refine RunOn.meets_lift_bind
    (Pass.answers_create.meets (Pass.outsideFrames_create : IsOutsideFrames .null _).neverFails)
    (fun _ _ hk ↦ ⟨rfl, hk⟩) fun pass ↦ ?_
  refine meets_note_hasOutline (fun _ _ hk ↦ hk) ?_
  refine .orTrap_bind fun ⟨id, passes⟩ hi ↦ meets_store_hasOutline fun k hk ↦ ⟨hk.2, ?_⟩
  obtain ⟨⟨hvalid, parts, hparts, hmade⟩, -⟩ := hk
  exact .createPass hvalid (Pass.fit_of_partsOf hparts) hmade hi

/-- What is removed from a device is removed from its outline. -/
theorem outline_remove? {id : ResourceId} {d' : Device} {drop : Run Unit}
    (h : d.remove? id = some (d', drop)) : d.outline.remove? id = some d'.outline := by
  cases id <;> obtain ⟨p, hp, he⟩ := Option.map_eq_some_iff.1 h <;> cases he <;>
    exact Option.map_eq_some_iff.2 ⟨p, hp, rfl⟩

/-- Giving a resource up does not fail. -/
theorem silent_remove? {id : ResourceId} {d' : Device} {drop : Run Unit}
    (h : d.remove? id = some (d', drop)) : Silent drop := by
  cases id <;> obtain ⟨⟨x, m⟩, hp, he⟩ := Option.map_eq_some_iff.1 h <;> cases he <;>
    exact x.silent_drop

/-- Resources are released between frames. -/
theorem takes_destroy {id : ResourceId} (hd : d.active.isSome → d.frame.isSome) :
    Meets (RunOn.At d Host.NeverFails) (destroy id)
      (fun _ s ↦ ∃ o, d.outline.Accepts (.destroy id) none o ∧ HasOutline o s)
      fun _ ↦ HasOutline d.outline := by
  refine RunOn.meets_part_bind ?_
  refine .ite (fun _ ↦ .refuse_bind fun _ _ ↦ hasOutline_of_at) fun hidle ↦ ?_
  have hnone : d.outline.active = none :=
    Option.not_isSome_iff_eq_none.1 fun ha ↦ hidle (hd ha)
  refine RunOn.meets_lift_bind neverFails_work (fun _ _ hk ↦ ⟨rfl, hk⟩) fun _ ↦ ?_
  split
  · exact .fail fun _ ↦ hasOutline_of_at
  · next d' drop hr =>
    have hdrop : Meets Host.NeverFails drop (fun _ ↦ Host.NeverFails) fun _ _ ↦ False :=
      (silent_remove? hr).meets (outsideFrames_remove? hr : IsOutsideFrames .null _ ∧
        _).1.neverFails
    refine RunOn.meets_change_bind ?_
    exact (RunOn.meets_lift hdrop).mono (fun _ hs ↦ hs)
      (fun _ _ hs ↦ ⟨_, .destroy hnone (outline_remove? hr), hasOutline_of_at hs⟩)
        fun _ _ hs ↦ hs.2.elim

/-! ### Beginning and ending a pass -/

theorem begins_offscreenTarget {id : PassId} {action : PassAction} {p : ActivePass × Target}
    (h : d.offscreenTarget id action = .ok p) : d.outline.Begins (some id) p.1 := by
  rw [offscreenTarget] at h
  split at h
  · next q hq =>
    split at h
    · cases h
    · next hlive =>
      cases h
      refine ⟨q, hq, fun t ht ↦ ?_, rfl, rfl, rfl, rfl, rfl⟩
      show d.textures.contains t
      simp only [List.any_eq_true, not_exists, not_and, Bool.not_eq_true] at hlive
      simpa using hlive t ht
  · cases h

theorem meets_screenTarget_hasOutline {action : PassAction} :
    Meets (HasOutline o) (screenTarget action) (fun p s ↦ o.Begins none p.1 ∧ HasOutline o s)
      fun _ ↦ HasOutline o := by
  refine .bind hasOutline_changeFrame fun _ ↦ ?_
  refine .bind hasOutline_screenImage fun image ↦ meets_hasOutline ?_
  rintro d rfl
  refine RunOn.meets_part_bind ?_
  cases image with
  | none => exact .pure fun _ hs ↦ ⟨⟨rfl, rfl, rfl, rfl, rfl⟩, hasOutline_of_at hs⟩
  | some index =>
    exact .orTrap_bind fun _ _ ↦ .pure fun _ hs ↦ ⟨⟨rfl, rfl, rfl, rfl, rfl⟩, hasOutline_of_at hs⟩

/-- The pass becomes the active one after its beginning was recorded. -/
theorem meets_enterPass_hasOutline {pass : Option PassId} (target : Option Target)
    (hidle : o.active = none) :
    Meets (fun s ↦ o.Begins pass a ∧ HasOutline o s)
      (do
        if let some t := target then recordBegin a.extent t
        RunOn.change ({ · with active := some a }) : DeviceStep Unit)
      (fun _ s ↦ ∃ a, o.active = none ∧ o.Begins pass a ∧ HasOutline { o with active := some a } s)
      fun _ ↦ HasOutline o := by
  refine .assume fun hb ↦ ?_
  have henter : Meets (HasOutline o) (RunOn.change ({ · with active := some a }))
      (fun _ s ↦ ∃ a, o.active = none ∧ o.Begins pass a ∧ HasOutline { o with active := some a } s)
      fun _ ↦ HasOutline o :=
    Meets.update fun s hs ↦ ⟨a, hidle, hb, congrArg ({ · with active := some a }) hs.1, hs.2⟩
  cases target with
  | none => exact henter
  | some t => exact .bind hasOutline_recordBegin fun _ ↦ henter

theorem meets_beginPass_hasOutline {pass : Option PassId} {action : PassAction} :
    Meets (HasOutline o) (beginPass pass action)
      (fun _ s ↦ ∃ a, o.active = none ∧ o.Begins pass a ∧ HasOutline { o with active := some a } s)
      fun _ ↦ HasOutline o := by
  refine meets_hasOutline ?_
  rintro d rfl
  refine RunOn.meets_part_bind <| .ite (fun _ ↦ .refuse_bind fun _ _ ↦ hasOutline_of_at) fun ha ↦ ?_
  have hidle : d.outline.active = none := Option.not_isSome_iff_eq_none.1 ha
  cases pass with
  | none =>
    refine .bind (Meets.pre hasOutline_ensureFrame fun _ ↦ hasOutline_of_at) fun _ ↦ ?_
    refine .bind meets_screenTarget_hasOutline fun ⟨active, target⟩ ↦ ?_
    exact meets_enterPass_hasOutline target hidle
  | some id =>
    refine .bind (.ofChecked (Q := fun p s ↦ d.outline.Begins (some id) p.1 ∧
      HasOutline d.outline s)
      (fun p hp _ hs ↦ ⟨begins_offscreenTarget hp, hasOutline_of_at hs⟩) fun _ _ _ ↦
        hasOutline_of_at)
      fun ⟨active, target⟩ ↦ .assume fun hb ↦ ?_
    exact .bind (Q := fun _ s ↦ d.outline.Begins (some id) active ∧ HasOutline d.outline s)
      (hasOutline_ensureFrame.post fun _ _ hs ↦ ⟨hb, hs⟩) fun _ ↦
      meets_enterPass_hasOutline (some target) hidle

/-- A pass that was begun can be ended. -/
theorem hasOutline_endPass (ha : o.active = some a) :
    Meets (HasOutline o) endPass (fun _ ↦ HasOutline (o.ended a)) E := by
  refine meets_hasOutline ?_
  rintro d rfl
  have ha : d.active = some a := ha
  refine RunOn.meets_part_bind ?_
  rw [ha]
  have hresolve : Meets (HasOutline { d.outline with active := none })
      (if a.resolves then
        RunOn.change fun d ↦ { d with textures := a.attachments.foldl markResolved d.textures }
      else pure () : DeviceStep Unit) (fun _ ↦ HasOutline (d.outline.ended a)) E := by
    refine .ite (fun hr ↦ Meets.update fun s hs ↦ ⟨?_, hs.2⟩) fun hr ↦ .pure fun s hs ↦ ⟨?_, hs.2⟩
    · rw [Outline.ended, if_pos hr]
      exact congrArg (fun o : Outline ↦
        { o with textures := a.attachments.foldl markResolved o.textures }) hs.1
    · rw [Outline.ended, if_neg hr]
      exact hs.1
  have hchange : Meets (RunOn.At d Host.NeverFails) (RunOn.change ({ · with active := none }))
      (fun _ ↦ HasOutline { d.outline with active := none }) E := by
    rintro ⟨_, k⟩ ⟨rfl, hk⟩
    exact ⟨rfl, hk⟩
  refine .bind hchange fun _ ↦ ?_
  exact .ite (fun _ ↦ .bind hasOutline_record fun _ ↦ hresolve) fun _ ↦ hresolve

theorem takes_beginPass {pass : Option PassId} {action : PassAction} :
    Takes o (.beginPass pass action) (beginPass pass action) :=
  meets_beginPass_hasOutline.post fun _ _ hs ↦
    have ⟨_, hidle, hb, hs⟩ := hs
    ⟨_, .beginPass hidle hb, hs⟩

theorem takes_endPass : Takes o .endPass endPass := by
  rcases ha : o.active with _ | a
  · refine meets_hasOutline ?_
    rintro d rfl
    have ha : d.active = none := ha
    refine RunOn.meets_part_bind ?_
    rw [ha]
    exact .refuse fun _ _ ↦ hasOutline_of_at
  · exact (hasOutline_endPass ha).post fun _ _ hs ↦ ⟨_, .endPass ha, hs⟩

/-! ### Inside a pass -/

theorem takes_applyViewport {rect : Rect} {topLeft : Bool} :
    Takes o (.applyViewport rect topLeft) (applyViewport rect topLeft) := by
  refine meets_hasOutline ?_
  rintro d rfl
  refine meets_activePass_bind (fun _ _ ↦ hasOutline_of_at) fun a ha ↦ ?_
  have haccepts : ∀ s, HasOutline d.outline s →
      ∃ o, d.outline.Accepts (.applyViewport rect topLeft) none o ∧ HasOutline o s := fun _ hs ↦
    ⟨_, .applyViewport ha, hs⟩
  refine .ite (fun _ ↦ .orTrap_bind fun _ _ ↦ ?_) fun _ ↦ .pure fun s hs ↦
    haccepts s (hasOutline_of_at hs)
  exact (hasOutline_record.pre fun _ ↦ hasOutline_of_at).post fun _ ↦ haccepts

theorem takes_fillRects {color : Vec4} {rects : List Rect} :
    Takes o (.fillRects color rects) (fillRects color rects) := by
  refine meets_hasOutline ?_
  rintro d rfl
  refine meets_activePass_bind (fun _ _ ↦ hasOutline_of_at) fun a ha ↦ ?_
  have haccepts : ∀ s, HasOutline d.outline s →
      ∃ o, d.outline.Accepts (.fillRects color rects) none o ∧ HasOutline o s := fun _ hs ↦
    ⟨_, .fillRects ha, hs⟩
  refine .ite (fun _ ↦ .orTrap_bind fun _ _ ↦ ?_) fun _ ↦ .pure fun s hs ↦
    haccepts s (hasOutline_of_at hs)
  refine .ite (fun _ ↦ ?_) fun _ ↦ .pure fun s hs ↦ haccepts s (hasOutline_of_at hs)
  exact (hasOutline_record.pre fun _ ↦ hasOutline_of_at).post fun _ ↦ haccepts

theorem takes_applyUniforms {stage : ShaderStage} {data : List UInt8} :
    Takes o (.applyUniforms stage data) (applyUniforms stage data) := by
  refine meets_hasOutline ?_
  rintro d rfl
  refine meets_activePass_bind (fun _ _ ↦ hasOutline_of_at) fun a ha ↦ ?_
  split
  · exact .refuse fun _ _ ↦ hasOutline_of_at
  next id hid =>
  have haccepts : ∀ s, HasOutline d.outline s →
      ∃ o, d.outline.Accepts (.applyUniforms stage data) none o ∧ HasOutline o s := fun _ hs ↦
    ⟨_, .applyUniforms ha hid, hs⟩
  refine RunOn.meets_part_bind <| .orFail_bind (fun p _ ↦ ?_) fun _ ↦ hasOutline_of_at
  refine .ite (fun _ ↦ .refuse_bind fun _ _ ↦ hasOutline_of_at) fun _ ↦ ?_
  refine .ite (fun _ ↦ .refuse_bind fun _ _ ↦ hasOutline_of_at) fun _ ↦ ?_
  refine .ite (fun _ ↦ ?_) fun _ ↦ .pure fun s hs ↦ haccepts s (hasOutline_of_at hs)
  exact (hasOutline_record.pre fun _ ↦ hasOutline_of_at).post fun _ ↦ haccepts

theorem takes_draw {group : ℕ} : Takes o (.draw group) (draw group) := by
  refine meets_hasOutline ?_
  rintro d rfl
  refine meets_activePass_bind (fun _ _ ↦ hasOutline_of_at) fun a ha ↦ ?_
  split
  · exact .refuse fun _ _ ↦ hasOutline_of_at
  next id hid =>
  refine RunOn.meets_part_bind <| .orFail_bind (fun m hm ↦ ?_) fun _ ↦ hasOutline_of_at
  split
  · exact .refuse fun _ _ ↦ hasOutline_of_at
  next g hg =>
  have haccepts : ∀ s, HasOutline d.outline s →
      ∃ o, d.outline.Accepts (.draw group) none o ∧ HasOutline o s := fun _ hs ↦
    ⟨_, .draw ha hid hm (List.getElem?_eq_some_iff.1 hg).1, hs⟩
  refine .ite (fun _ ↦ .bind (Meets.pre hasOutline_slot fun _ ↦ hasOutline_of_at) fun f ↦ ?_)
    fun _ ↦
    .pure fun s hs ↦ haccepts s (hasOutline_of_at hs)
  exact (hasOutline_succeed Run.neverFails_record).post fun _ ↦ haccepts

theorem hasOutline_bindViews {p : Pipeline} {views : List (Object .view)} :
    Meets (HasOutline o) (bindViews p views) (fun _ ↦ HasOutline o) E := by
  refine .ite (fun _ ↦ .pure fun _ hs ↦ hs) fun _ ↦ ?_
  refine .bind hasOutline_slot fun f ↦ ?_
  refine meets_look fun _ ↦ ?_
  refine .bind (hasOutline_succeed FrameSlot.neverFails_allocateSet) fun set ↦ ?_
  exact .bind (hasOutline_succeed (meets_changeDriver fun _ hs ↦ hs)) fun _ ↦ hasOutline_record

theorem takes_applyDrawState {state : DrawState} :
    Takes o (.applyDrawState state) (applyDrawState state) := by
  refine meets_hasOutline ?_
  rintro d rfl
  refine RunOn.meets_part_bind <| .orFail_bind (fun pipeline hp ↦ ?_) fun _ ↦ hasOutline_of_at
  refine .orFail_bind (fun mesh hm ↦ ?_) fun _ ↦ hasOutline_of_at
  refine .bind (meets_sampledViews (fun _ _ ↦ hasOutline_of_at) (fun _ _ _ ↦ hasOutline_of_at)
    state.textures)
    fun views ↦ .assume fun hsampled ↦ ?_
  refine .ite (fun _ ↦ .refuse_bind fun _ _ ↦ hasOutline_of_at) fun _ ↦ ?_
  refine meets_activePass_bind (fun _ _ ↦ hasOutline_of_at) fun a ha ↦ ?_
  refine .ite (fun _ ↦ .refuse_bind fun _ _ ↦ hasOutline_of_at) fun hapart ↦ ?_
  refine .ite (fun _ ↦ .refuse_bind fun _ _ ↦ hasOutline_of_at) fun hfits ↦ ?_
  refine RunOn.meets_change_bind ?_
  let d' : Device := { d with active := some { a with
    pipeline := some state.pipeline, mesh := some state.mesh } }
  have haccepts : ∀ s, HasOutline d'.outline s →
      ∃ o, d.outline.Accepts (.applyDrawState state) none o ∧ HasOutline o s := fun _ hs ↦ by
    refine ⟨_, .applyDrawState ha hp hm hsampled.1 (fun id hid hmem ↦ hapart ?_)
      (not_not.1 hfits), hs⟩
    exact List.any_eq_true.2 ⟨id, hid, List.contains_iff_mem.2 hmem⟩
  refine .ite (fun _ ↦ ?_) fun _ ↦ .pure fun s hs ↦ haccepts s (hasOutline_of_at hs)
  refine .bind (Meets.pre hasOutline_record fun _ ↦ hasOutline_of_at) fun _ ↦ ?_
  refine .bind hasOutline_slot fun f ↦ ?_
  exact .bind (hasOutline_succeed Mesh.neverFails_bind) fun _ ↦ hasOutline_bindViews.post
    fun _ ↦ haccepts

/-! ### All commands -/

/-- A frame without a pass into the screen gets one, which leaves no trace in the outline. -/
theorem takes_commitFrame : Takes o .commitFrame commitFrame := by
  refine meets_hasOutline ?_
  rintro d rfl
  refine RunOn.meets_part_bind <| .ite (fun _ ↦ .refuse_bind fun _ _ ↦ hasOutline_of_at) fun ha ↦ ?_
  have hidle : d.outline.active = none := Option.not_isSome_iff_eq_none.1 ha
  have hover : Takes d.outline .commitFrame handOver :=
    hasOutline_handOver.post fun _ _ hs ↦ ⟨_, .commitFrame hidle, hs⟩
  refine .bind (Meets.pre hasOutline_ensureFrame fun _ ↦ hasOutline_of_at) fun _ ↦ ?_
  refine meets_look fun _ ↦ ?_
  refine .ite (fun _ ↦ .bind meets_beginPass_hasOutline fun _ ↦ ?_) fun _ ↦ hover
  rintro s ⟨a, -, hbegins, hs⟩
  refine Meets.bind (hasOutline_endPass rfl) (fun _ ↦ ?_) s hs
  have hended : { d.outline with active := some a }.ended a = d.outline := by
    rw [Outline.ended, if_neg (by simp [hbegins.resolves]), ← hidle]
  rw [hended]
  exact hover

theorem takes_requestQuit : Takes o .requestQuit requestQuit :=
  Meets.update fun s hs ↦ ⟨s.1.outline, hs.1 ▸ .requestQuit, rfl, hs.2⟩

/-- On a driver that never fails, what is taken is accepted, and what is refused changes nothing. -/
theorem meets_answer (hd : d.active.isSome → d.frame.isSome) :
    Meets (RunOn.At d Host.NeverFails) c.answer
      (fun answer s ↦ ∃ o, d.outline.Accepts c answer o ∧ HasOutline o s) fun _ ↦
        HasOutline d.outline := by
  cases c with
  | createTexture => exact .map (Meets.pre creates_createTexture fun _ ↦ hasOutline_of_at)
  | createMesh => exact .map (Meets.pre creates_createMesh fun _ ↦ hasOutline_of_at)
  | createShader => exact .map (Meets.pre creates_createShader fun _ ↦ hasOutline_of_at)
  | createPipeline => exact .map (Meets.pre creates_createPipeline fun _ ↦ hasOutline_of_at)
  | createPass => exact .map (Meets.pre creates_createPass fun _ ↦ hasOutline_of_at)
  | destroy => exact .map (takes_destroy hd)
  | beginPass => exact .map (Meets.pre takes_beginPass fun _ ↦ hasOutline_of_at)
  | applyViewport => exact .map (Meets.pre takes_applyViewport fun _ ↦ hasOutline_of_at)
  | applyDrawState => exact .map (Meets.pre takes_applyDrawState fun _ ↦ hasOutline_of_at)
  | applyUniforms => exact .map (Meets.pre takes_applyUniforms fun _ ↦ hasOutline_of_at)
  | draw => exact .map (Meets.pre takes_draw fun _ ↦ hasOutline_of_at)
  | fillRects => exact .map (Meets.pre takes_fillRects fun _ ↦ hasOutline_of_at)
  | endPass => exact .map (Meets.pre takes_endPass fun _ ↦ hasOutline_of_at)
  | commitFrame => exact .map (Meets.pre takes_commitFrame fun _ ↦ hasOutline_of_at)
  | requestQuit => exact .map (Meets.pre takes_requestQuit fun _ ↦ hasOutline_of_at)

end RenderTargets.Vulkan.Device
