import RenderTargets.Proofs.Vulkan.Device.Moves
import RenderTargets.Proofs.Vulkan.Reached
/-!
# Commands are made of moves

Every command moves a device from one state to the next, however it ends (`meets_moves`). A command
that is taken has its own label if it is one of a pass, and none otherwise; one that is refused has
none. Only committing a frame may have more, a pass into the screen that begins and ends at once.

So whatever a device gets to, it gets there by moves (`Reached.moves`).
-/

namespace RenderTargets.Vulkan

open StepWith Run

variable {d : Device} {k : Host} {s₀ s t : Device × Host} {made : List ObjectKind} {l : List Call}
  {cs : List GraphicsDevice.Command} {α : Type} {a : ActivePass} {f : FrameSlot} {ctx : Context}
  {size : Extent} {r : Recorded} {P : Host → Prop} {uploads : Object .commandPool}

/-! ### Making -/

/-- A resource was made by the step since the host had `P`, and nothing was called since. -/
def Run.MadeBy (P : Host → Prop) (x : Run α) (a : α) (k : Host) : Prop :=
  ∃ k₀ k₁, P k₀ ∧ x k₀ = .ok a k₁ ∧ k.driver = k₁.driver

/-- What is made outside frames is made, or nothing is left of it that matters. -/
theorem Run.IsOutsideFrames.meets_madeBy {x : Run α} (hx : Run.IsOutsideFrames uploads x)
    (hP : ∀ k k' : Host, P k → k.driver.Grows uploads k'.driver → P k') :
    Meets P x (MadeBy P x) fun _ ↦ P := by
  intro k hk
  have houtside := hx k.driver k (.refl _)
  rcases hr : x k with ⟨a, k'⟩ | ⟨e | _, k'⟩ <;> rw [hr] at houtside
  · exact ⟨k, k', hk, hr, rfl⟩
  · exact hP k k' hk houtside.toGrows
  · trivial

namespace Device

/-! ### States that were moved to -/

/-- The hosts of a device that moved. -/
abbrev MovedOn (s₀ : Device × Host) (cs : List GraphicsDevice.Command) (d : Device) : Host → Prop :=
  fun k ↦ Moves s₀ cs (d, k)

theorem moves_of_at (h : RunOn.At d (MovedOn s₀ cs d) s) : Moves s₀ cs s := by
  obtain ⟨t, k⟩ := s
  obtain ⟨rfl, hk⟩ := h
  exact hk

/-- What is refused moves nowhere. -/
theorem moves_of_refused (h : RunOn.At d (MovedOn s₀ cs d) s) (j : Log.Journal) :
    Moves s₀ cs (Log.HasJournal.journal.set j s) :=
  (moves_of_at h).journal j

theorem movedOn_of_grows (k k' : Host) (h : MovedOn s₀ cs d k)
    (hk : k.driver.Grows d.context.uploadPool k'.driver) : MovedOn s₀ cs d k' :=
  Moves.outsideFrames h hk

/-- A resource that was made is stored. -/
theorem moves_of_madeBy {x : Run α} {a : α} {d' : Device}
    (hx : MadeBy (MovedOn s₀ cs d) x a k)
    (hd : ∀ k₀ k₁, x k₀ = .ok a k₁ → Stores d k₀ d' k₁) : Moves s₀ cs (d', k) := by
  obtain ⟨k₀, k₁, h, hrun, hk⟩ := hx
  exact (h.unlabelled (.make (hd k₀ k₁ hrun))).congr hk

/-! ### Resources -/

theorem moves_createTexture {t : TextureDesc} : Keeps (Moves s₀ cs) (createTexture t) := by
  refine RunOn.meets_at fun d ↦ ?_
  refine (makes_createTexture (Texture.outsideFrames_create.meets_madeBy movedOn_of_grows)
    fun x k j h ↦ h).mono (fun _ h ↦ h) ?_ fun _ _ ↦ moves_of_at
  rintro id ⟨_, k⟩ ⟨x, textures, hi, rfl, hx⟩
  exact moves_of_madeBy hx fun _ _ hrun ↦ .texture hrun hi

theorem moves_createMesh {m : MeshDesc} : Keeps (Moves s₀ cs) (createMesh m) := by
  refine RunOn.meets_at fun d ↦ ?_
  refine (makes_createMesh (Mesh.outsideFrames_create.meets_madeBy movedOn_of_grows)).mono
    (fun _ h ↦ h) ?_ fun _ _ ↦ moves_of_at
  rintro id ⟨_, k⟩ ⟨x, meshes, hi, rfl, hx⟩
  exact moves_of_madeBy hx fun _ _ hrun ↦ .mesh hrun hi

theorem moves_createShader {m : ShaderDesc} : Keeps (Moves s₀ cs) (createShader m) := by
  refine RunOn.meets_at fun d ↦ ?_
  refine (makes_createShader (Shader.outsideFrames_create.meets_madeBy movedOn_of_grows)).mono
    (fun _ h ↦ h) ?_ fun _ _ ↦ moves_of_at
  rintro id ⟨_, k⟩ ⟨x, shaders, hi, rfl, hx⟩
  exact moves_of_madeBy hx fun _ _ hrun ↦ .shader hrun hi

theorem moves_createPipeline {p : PipelineDesc} : Keeps (Moves s₀ cs) (createPipeline p) := by
  refine RunOn.meets_at fun d ↦ ?_
  refine (makes_createPipeline (Q := fun x k ↦ ∃ shader, d.shaders.get? p.shader = some shader ∧
    MadeBy (MovedOn s₀ cs d) (Pipeline.create d.context p shader) x k) fun shader hs ↦
      (Pipeline.outsideFrames_create.meets_madeBy movedOn_of_grows).post fun _ _ h ↦
        ⟨shader, hs, h⟩).mono
    (fun _ h ↦ h) ?_ fun _ _ ↦ moves_of_at
  rintro id ⟨_, k⟩ ⟨x, pipelines, hi, rfl, shader, hs, hx⟩
  exact moves_of_madeBy hx fun _ _ hrun ↦ .pipeline hs hrun hi

theorem moves_createPass {p : PassDesc} : Keeps (Moves s₀ cs) (createPass p) := by
  refine RunOn.meets_at fun d ↦ ?_
  refine (makes_createPass (Pass.outsideFrames_create.meets_madeBy movedOn_of_grows)
    fun x k j h ↦ h).mono (fun _ h ↦ h) ?_ fun _ _ ↦ moves_of_at
  rintro id ⟨_, k⟩ ⟨x, passes, hi, rfl, hx⟩
  exact moves_of_madeBy hx fun _ _ hrun ↦ .pass hrun hi

theorem moves_destroy {id : ResourceId} : Keeps (Moves s₀ cs) (destroy id) := by
  refine RunOn.meets_at fun d ↦ ?_
  by_cases hf : d.frame.isSome
  · refine RunOn.meets_part_bind ?_
    rw [if_pos hf]
    exact .refuse_bind fun _ j h ↦ moves_of_refused h j
  · have hwait : Keeps (MovedOn s₀ cs d) (work "wait idle before release"
        (Driver.perform .waitDevice (.waitDevice d.context.device))) := by
      have houtside : Run.IsOutsideFrames d.context.uploadPool (work "wait idle before release"
          (Driver.perform .waitDevice (.waitDevice d.context.device))) :=
        .work fun _ ↦ Driver.adds_perform rfl trivial
      exact fun k hk ↦ (houtside k.driver k (.refl _)).mono
        (fun _ _ hg ↦ movedOn_of_grows _ _ hk hg.toGrows)
        fun _ _ hg ↦ movedOn_of_grows _ _ hk hg.toGrows
    have hidle : d.frame = none := Option.not_isSome_iff_eq_none.1 hf
    have hdrop {d' : Device} {drop : Run Unit} (hr : d.remove? id = some (d', drop)) :
        Meets (MovedOn s₀ cs d) drop (fun _ k ↦ Moves s₀ cs (d', k)) fun _ _ ↦ True :=
      fun k hk ↦ ((outsideFrames_remove? hr).1 k.driver k (.refl _)).mono
        (fun _ _ hg ↦ hk.unlabelled (.release hidle hr hg.toGrows)) fun _ _ _ ↦ trivial
    refine (releases_destroy (Q := fun d' k ↦ Moves s₀ cs (d', k)) hwait (fun k j h ↦ h.congr rfl)
      fun d' drop hr ↦ (silent_remove? hr).meets (hdrop hr)).mono (fun _ h ↦ h) ?_
      fun _ _ ↦ moves_of_at
    rintro _ ⟨_, k⟩ ⟨d', drop, -, rfl, h⟩
    exact h

/-! ### Frames -/

/-- A device that moved, with no pass, and with or without a frame. -/
structure Between (s₀ : Device × Host) (cs : List GraphicsDevice.Command) (ctx : Context)
    (size : Extent) (framed : Bool) (s : Device × Host) : Prop where
  /-- It moved. -/
  moves : Moves s₀ cs s
  /-- There is no pass. -/
  outside : s.1.active = none
  /-- There is a frame, or none. -/
  frame : s.1.frame.isSome = framed
  /-- The context. -/
  context : s.1.context = ctx
  /-- The size of the window. -/
  size : s.1.windowSize = size

variable {framed : Bool} {E : EngineError → Device × Host → Prop}

theorem meets_slotAt :
    Meets (RunOn.At d P) slot (fun f s ↦ d.slots[d.slotIndex]? = some f ∧ RunOn.At d P s) E :=
  RunOn.meets_part_bind (.orTrap fun _ hf _ hs ↦ ⟨hf, hs⟩)

theorem moves_ensureFrame (ha : d.active = none) :
    Meets (RunOn.At d (MovedOn s₀ cs d)) ensureFrame
      (fun _ s ↦ ∃ frame, RunOn.At { d with frame := some frame }
        (MovedOn s₀ cs { d with frame := some frame }) s)
      fun _ ↦ Moves s₀ cs := by
  refine RunOn.meets_part_bind <| .ite (fun hf ↦ ?_) fun hf ↦ .pure ?_
  · have hidle : d.frame = none := Option.isNone_iff_eq_none.1 hf
    rintro ⟨d, k⟩ ⟨rfl, hk⟩
    refine Meets.bind (P := RunOn.At d (k.Gains [] [])) meets_slotAt
      (fun f ↦ .assume fun hslot ↦ ?_) (d, k) ⟨rfl, .refl k⟩
    refine RunOn.meets_lift_bind FrameSlot.meets_beginGains (fun e k' hl ↦ ?_) fun _ ↦
      RunOn.meets_change.post ?_
    · -- A frame that could not be begun.
      obtain ⟨l, hgains, hsteps⟩ := hl
      have hstall := hk.unlabelled (.stall ha hslot hgains hsteps)
      rwa [← hidle] at hstall
    · rintro _ ⟨_, k'⟩ ⟨rfl, hgains⟩
      exact ⟨{}, rfl, hk.unlabelled (.begin ha hidle hslot hgains)⟩
  · obtain ⟨frame, hframe⟩ := Option.ne_none_iff_exists'.1 (mt Option.isNone_iff_eq_none.2 hf)
    have hd : { d with frame := some frame } = d := by rw [← hframe]
    rintro ⟨d, k⟩ ⟨rfl, hk⟩
    exact ⟨frame, hd.symm, hd.symm ▸ hk⟩

theorem Between.note (h : Between s₀ cs ctx size framed (d, k)) (g : FrameState → FrameState) :
    Between s₀ cs ctx size framed ({ d with frame := d.frame.map g }, k) where
  moves := h.moves.unlabelled (.note (.inl rfl))
  outside := h.outside
  frame := by rw [← h.frame, Option.isSome_map]
  context := h.context
  size := h.size

theorem keeps_changeFrame_between {g : FrameState → FrameState} :
    Keeps (Between s₀ cs ctx size framed) (changeFrame g) := by
  rintro ⟨d, k⟩ h
  exact h.note g

/-- Outside of a pass, things are done with the screen. -/
theorem keeps_onScreen_between {x : RunOn Swapchain α}
    (hx : ∀ s t, x.settle s = some t → Swapchain.Works ctx size s t) :
    Keeps (Between s₀ cs ctx size framed) (onScreen x) := by
  rintro ⟨d, k⟩ h
  obtain rfl := h.context
  obtain rfl := h.size
  have hmove {screen : Swapchain} {k' : Host} (hs : x.settle (d.screen, k) = some (screen, k')) :
      Between s₀ cs d.context d.windowSize framed ({ d with screen }, k') :=
    ⟨h.moves.unlabelled (.screen h.outside (hx _ _ hs)), h.outside, h.frame, rfl, rfl⟩
  show Ends _ _ (within screenLens.beside x (d, k))
  rcases hrun : x (d.screen, k) with ⟨_, screen, k'⟩ | ⟨_ | _, screen, k'⟩
  · rw [within_ok hrun]
    exact hmove (settle_of_ok hrun)
  · rw [within_error hrun]
    exact hmove (settle_of_error hrun)
  · rw [within_error hrun]
    trivial

/-- A step that looks at the device. -/
theorem meets_lookBetween {g : Device → DeviceStep α} {R : α → Device × Host → Prop}
    (h : ∀ d : Device, d.context = ctx → d.windowSize = size →
      Meets (Between s₀ cs ctx size framed) (g d) R E) :
    Meets (Between s₀ cs ctx size framed) (RunOn.part >>= g) R E :=
  fun s hs ↦ h s.1 hs.context hs.size s hs

theorem keeps_screenImage_between : Keeps (Between s₀ cs ctx size framed) screenImage := by
  have htake (n : ℕ) : Keeps (Between s₀ cs ctx size framed) (do
      let image ← onScreen (Swapchain.acquire n)
      changeFrame ({ · with image })
      return image) :=
    .bind (keeps_onScreen_between fun _ _ ↦ .acquire) fun _ ↦
      .bind keeps_changeFrame_between fun _ ↦ .pure fun _ h ↦ h
  refine meets_lookBetween fun d hcontext hsize ↦ ?_
  subst hcontext hsize
  split
  · exact .refuse fun s j h ↦ { h with moves := h.moves.journal j }
  · refine .ite (fun _ ↦ .pure fun _ h ↦ h) fun _ ↦ .bind keeps_changeFrame_between fun _ ↦ ?_
    refine .ite (fun _ ↦ ?_) fun _ ↦ htake _
    refine .bind (keeps_onScreen_between fun _ _ ↦ .rebuild) fun _ ↦ meets_look fun _ ↦ ?_
    exact .ite (fun _ ↦ .pure fun _ h ↦ h) fun _ ↦ htake _

/-! ### Beginning a pass -/

theorem meets_screenTarget_between {action : PassAction} :
    Meets (Between s₀ cs ctx size framed) (screenTarget action)
      (fun p s ↦ s.1.Enters action none p.1 p.2 ∧ Between s₀ cs ctx size framed s)
      fun _ ↦ Moves s₀ cs := by
  have hmain : Meets (Between s₀ cs ctx size framed) (screenTarget action)
      (fun p s ↦ s.1.Enters action none p.1 p.2 ∧ Between s₀ cs ctx size framed s)
      fun _ ↦ Between s₀ cs ctx size framed := by
    refine .bind keeps_changeFrame_between fun _ ↦ .bind keeps_screenImage_between fun image ↦ ?_
    rintro ⟨d, k⟩ h
    cases image with
    | none => exact ⟨.untargeted, h⟩
    | some index =>
      refine Meets.orTrap_bind (P := (· = (d, k))) (fun framebuffer hlisted ↦ .pure ?_) (d, k) rfl
      rintro _ rfl
      exact ⟨.screen (List.mem_of_getElem? hlisted), h⟩
  exact hmain.mono (fun _ h ↦ h) (fun _ _ h ↦ h) fun _ _ h ↦ h.moves

/-- A command is recorded into the buffer of the slot in use. -/
theorem meets_recordGainsFirst :
    Meets (RunOn.At d (k.Gains made l)) (record r)
      (fun _ s ↦ ∃ f, d.slots[d.slotIndex]? = some f ∧
        RunOn.At d (k.Gains made (.record f.commands r :: l)) s) E :=
  .bind meets_slotAt fun f ↦ .assume fun hslot ↦
    (RunOn.meets_lift (F := fun _ _ ↦ False) meets_recordGains).mono (fun _ h ↦ h)
      (fun _ _ h ↦ ⟨f, hslot, h⟩) fun _ _ hno ↦ hno.2.elim

theorem meets_recordGainsAt (hslot : d.slots[d.slotIndex]? = some f) :
    Meets (RunOn.At d (k.Gains made l)) (record r)
      (fun _ ↦ RunOn.At d (k.Gains made (.record f.commands r :: l))) E := by
  refine meets_recordGainsFirst.post ?_
  rintro _ s ⟨g, hg, h⟩
  obtain rfl := Option.some.inj (hslot.symm.trans hg)
  exact h

theorem meets_recordBeginGains {t : Target} :
    Meets (RunOn.At d (k.Gains [] [])) (recordBegin a.extent t)
      (fun _ s ↦ ∃ f viewport, d.slots[d.slotIndex]? = some f ∧
        RunOn.At d (k.Gains [] ((beginsOf a t viewport).map (.record f.commands))) s) E := by
  refine .orTrap_bind fun viewport _ ↦ .bind meets_recordGainsFirst fun _ ↦ ?_
  intro s hs
  obtain ⟨f, hslot, hs⟩ := hs
  exact (Meets.bind (meets_recordGainsAt hslot) fun _ ↦ (meets_recordGainsAt hslot).post
    fun _ _ h ↦ ⟨f, viewport, hslot, h⟩) s hs

/-- The pass becomes the active one after its beginning was recorded. -/
theorem moves_enterPass {pass : Option PassId} {action : PassAction} {active : ActivePass}
    {target : Option Target} :
    Meets (fun s ↦ s.1.Enters action pass active target ∧ Between s₀ cs ctx size true s)
      (do
        if let some t := target then recordBegin active.extent t
        RunOn.change ({ · with active := some active }) : DeviceStep Unit)
      (fun _ s ↦ (s.1.active.isSome = true ∧ s.1.frame.isSome = true) ∧
        Moves s₀ (cs ++ [.beginPass pass action]) s)
      fun _ ↦ Moves s₀ cs := by
  rintro ⟨d, k⟩ ⟨henters, h⟩
  cases target with
  | none => exact ⟨⟨rfl, h.frame⟩, h.moves.step (.enterUntargeted h.outside h.frame henters)⟩
  | some t =>
    refine Meets.bind (P := RunOn.At d (k.Gains [] [])) meets_recordBeginGains (fun _ ↦ ?_) (d, k)
      ⟨rfl, .refl k⟩
    rintro ⟨_, k'⟩ ⟨f, viewport, hslot, rfl, hgains⟩
    exact ⟨⟨rfl, h.frame⟩, h.moves.step (.enter h.outside h.frame hslot henters hgains)⟩

theorem moves_beginPass {pass : Option PassId} {action : PassAction} :
    Meets (Moves s₀ cs) (beginPass pass action)
      (fun _ s ↦ (s.1.active.isSome = true ∧ s.1.frame.isSome = true) ∧
        Moves s₀ (cs ++ [.beginPass pass action]) s)
      fun _ ↦ Moves s₀ cs := by
  refine RunOn.meets_at fun d ↦ RunOn.meets_part_bind ?_
  refine .ite (fun _ ↦ .refuse_bind fun _ j h ↦ moves_of_refused h j) fun ha ↦ ?_
  have houtside : d.active = none := Option.not_isSome_iff_eq_none.1 ha
  cases pass with
  | none =>
    refine .bind (Q := fun _ ↦ Between s₀ cs d.context d.windowSize true)
      ((moves_ensureFrame houtside).post ?_) fun _ ↦ ?_
    · rintro _ ⟨_, k⟩ ⟨frame, rfl, h⟩
      exact ⟨h, houtside, rfl, rfl, rfl⟩
    · exact .bind meets_screenTarget_between fun ⟨active, target⟩ ↦ moves_enterPass
  | some id =>
    refine .bind (.ofChecked (Q := fun p s ↦ d.offscreenTarget id action = .ok p ∧
      RunOn.At d (MovedOn s₀ cs d) s) (fun p hp _ h ↦ ⟨hp, h⟩) fun _ _ _ ↦ moves_of_at)
      fun ⟨active, target⟩ ↦ .assume fun htarget ↦ ?_
    refine .bind (Q := fun _ s ↦ s.1.Enters action (some id) active (some target) ∧
      Between s₀ cs d.context d.windowSize true s) ((moves_ensureFrame houtside).post ?_)
      fun _ ↦ moves_enterPass
    -- What the pass renders into does not depend on the frame.
    rintro _ ⟨_, k⟩ ⟨frame, rfl, h⟩
    exact ⟨.offscreen htarget, h, houtside, rfl, rfl, rfl⟩

/-! ### Inside a pass -/

/-- A command that binds nothing is recorded. -/
theorem moves_recordPlain (ha : d.active = some a) (hr : a.recording = true) (hc : d.Records a r) :
    Meets (RunOn.At d (MovedOn s₀ cs d)) (record r) (fun _ ↦ Moves s₀ cs) E := by
  rintro ⟨d, k⟩ ⟨rfl, hk⟩
  refine (meets_recordGainsFirst (k := k)).post ?_ (d, k) ⟨rfl, .refl k⟩
  rintro _ ⟨_, k'⟩ ⟨f, hslot, rfl, hgains⟩
  exact hk.unlabelled (.record ha hr hslot hc hgains)

theorem moves_applyViewport {rect : Rect} {topLeft : Bool} :
    Keeps (Moves s₀ cs) (applyViewport rect topLeft) := by
  refine RunOn.meets_at fun d ↦ ?_
  refine meets_activePass_bind (fun _ j h ↦ moves_of_refused h j) fun a ha ↦ ?_
  refine .ite (fun hr ↦ .orTrap_bind fun _ hv ↦ moves_recordPlain ha hr (.viewport hv)) fun _ ↦ ?_
  exact .pure fun _ ↦ moves_of_at

theorem moves_applyUniforms {stage : ShaderStage} {data : List UInt8} :
    Keeps (Moves s₀ cs) (applyUniforms stage data) := by
  refine RunOn.meets_at fun d ↦ ?_
  refine meets_activePass_bind (fun _ j h ↦ moves_of_refused h j) fun a ha ↦ ?_
  split
  · exact .refuse fun _ j h ↦ moves_of_refused h j
  · next id hid =>
    refine RunOn.meets_part_bind (.orFail_bind (fun p hp ↦ ?_) fun _ ↦ moves_of_at)
    refine .ite (fun _ ↦ .refuse_bind fun _ j h ↦ moves_of_refused h j) fun hdeclared ↦ ?_
    refine .ite (fun _ ↦ .refuse_bind fun _ j h ↦ moves_of_refused h j) fun hfits ↦ ?_
    obtain ⟨hroom, hwhole⟩ := not_or.1 hfits
    exact .ite (fun hr ↦ moves_recordPlain ha hr
      (.uniforms hid hp (by simpa using hdeclared) (Nat.le_of_not_lt hroom) (not_not.1 hwhole)))
      fun _ ↦ .pure fun _ ↦ moves_of_at

theorem moves_draw {group : ℕ} : Keeps (Moves s₀ cs) (draw group) := by
  refine RunOn.meets_at fun d ↦ ?_
  refine meets_activePass_bind (fun _ j h ↦ moves_of_refused h j) fun a ha ↦ ?_
  split
  · exact .refuse fun _ j h ↦ moves_of_refused h j
  · next id hid =>
    refine RunOn.meets_part_bind (.orFail_bind (fun m hm ↦ ?_) fun _ ↦ moves_of_at)
    split
    · exact .refuse fun _ j h ↦ moves_of_refused h j
    · next g hg =>
      refine .ite (fun hr ↦ ?_) fun _ ↦ .pure fun _ ↦ moves_of_at
      exact moves_recordPlain ha hr (.draw hid hm (List.mem_of_getElem? hg) rfl)

theorem moves_fillRects {color : Vec4} {rects : List Rect} :
    Keeps (Moves s₀ cs) (fillRects color rects) := by
  refine RunOn.meets_at fun d ↦ ?_
  refine meets_activePass_bind (fun _ j h ↦ moves_of_refused h j) fun a ha ↦ ?_
  refine .ite (fun hr ↦ .orTrap_bind fun _ hclip ↦ ?_) fun _ ↦ .pure fun _ ↦ moves_of_at
  exact .ite (fun _ ↦ moves_recordPlain ha hr (.clear hclip)) fun _ ↦ .pure fun _ ↦ moves_of_at

/-! ### Binding -/

/-- Each of the textures can be sampled, by its view. -/
theorem meets_sampledViewsOf (hfail : ∀ e s, RunOn.At d P s → E e s)
    (hrefuse : ∀ e s j, RunOn.At d P s → E e (Log.HasJournal.journal.set j s))
    (ids : List TextureId) :
    Meets (RunOn.At d P) (sampledViews ids)
      (fun views s ↦ List.Forall₂ d.Samples ids views ∧ RunOn.At d P s) E := by
  induction ids with
  | nil => exact .pure fun _ h ↦ ⟨.nil, h⟩
  | cons id rest ih =>
    refine RunOn.meets_part_bind ?_
    split
    · exact .fail (hfail _)
    · next t ht =>
      refine .ite (fun _ ↦ .refuse_bind (hrefuse _)) fun hsample ↦ ?_
      have hsampleable : t.isSampleable = true := by simpa using hsample
      obtain ⟨v, hv⟩ : ∃ v, t.sampledView? = some v := by
        rw [Texture.isSampleable, Bool.and_eq_true] at hsampleable
        rw [Texture.sampledView?, ← Option.isSome_iff_exists, Option.isSome_map]
        exact hsampleable.1
      refine .bind ih fun views ↦ .assume fun hrest ↦ .pure fun _ h ↦ ⟨?_, h⟩
      rw [hv]
      exact .cons ⟨t, ht, hsampleable, hv⟩ hrest

/-- How the set of a draw state comes about, or does not. -/
theorem meets_bindViewsGains {p : Pipeline} {views : List (Object .view)} {l : List Call}
    (hslot : d.slots[d.slotIndex]? = some f) :
    Meets (RunOn.At d (k.Gains [] l)) (bindViews p views)
      (fun _ s ↦ ∃ made l',
        f.Fetches p d.sampler views (k.driver.made.count .descriptorSet) made l' ∧
        RunOn.At d (k.Gains made (l' ++ l)) s)
      fun _ s ↦ p.bindings ≠ [] ∧ ∃ code,
        RunOn.At d (k.Gains [] (.failed .allocateDescriptorSets
          (.allocateDescriptorSet .null f.pool p.setLayout) code :: l)) s := by
  refine .ite (fun he ↦ .pure fun _ h ↦ ?_) fun he ↦ ?_
  · exact ⟨[], [], .unneeded (List.isEmpty_iff.1 he), h⟩
  have hneeds : p.bindings ≠ [] := mt List.isEmpty_iff.2 he
  refine .bind meets_slotAt fun g ↦ .assume fun hg ↦ RunOn.meets_part_bind ?_
  obtain rfl := Option.some.inj (hslot.symm.trans hg)
  refine RunOn.meets_lift_bind FrameSlot.meets_allocateSetGains
    (fun e k' ⟨code, h⟩ ↦ ⟨hneeds, code, rfl, h⟩) fun set ↦ ?_
  rintro ⟨d, k'⟩ ⟨rfl, rfl, hk⟩
  exact RunOn.meets_lift_bind (F := fun _ _ ↦ False) meets_pushGains (fun _ _ hno ↦ hno.elim)
    (fun _ ↦ (meets_recordGainsAt hslot).post fun _ _ h ↦ ⟨_, _, .made hneeds, h⟩) (d, k') ⟨rfl, hk⟩

/-- The driver did nothing. -/
def Rests (d : Device) (k : Host) : Device × Host → Prop := RunOn.At d fun k' ↦ k'.driver = k.driver

/-- A draw state that is refused was bound but for its set, or changed nothing. -/
inductive Refuses (d : Device) (k : Host) (s : Device × Host) : Prop
  /-- Nothing changed. -/
  | rests (h : Rests d k s)
  /-- The set could not be made. -/
  | misbinds {pool layout code past} (move : Move [] (d, k) s)
      (failed : s.2.driver.calls = .failed .allocateDescriptorSets
        (.allocateDescriptorSet .null pool layout) code :: past)

/-- With the draw state in use, pipeline and mesh are bound, and then the set. -/
theorem meets_bindState_moves {state : DrawState} {p : Pipeline} {m : Mesh}
    {views : List (Object .view)} (ha : d.active = some a) (hr : a.recording = true)
    (hfits : d.Fits a state p m views) :
    Meets (Rests { d with active := some (a.use state) } k)
      (do
        record (.bindPipeline p.pipeline)
        m.bind (← slot).commands
        bindViews p views)
      (fun _ ↦ Move [.applyDrawState state] (d, k)) fun _ ↦ Refuses d k := by
  refine Meets.pre (P := RunOn.At _ (k.Gains [] [])) ?_ fun s hs ↦
    ⟨hs.1, (Host.Gains.refl k).congr (congrArg _ hs.2) (congrArg _ hs.2)⟩
  refine .bind meets_recordGainsFirst fun _ ↦ ?_
  intro s hs
  obtain ⟨f, hslot, hs⟩ := hs
  refine Meets.bind meets_slotAt (fun g ↦ .assume fun hg ↦ ?_) s hs
  obtain rfl := Option.some.inj (hslot.symm.trans hg)
  refine RunOn.meets_lift_bind (F := fun _ _ ↦ False) Mesh.meets_bindGains
    (fun _ _ hno ↦ hno.elim) fun _ ↦ (meets_bindViewsGains hslot).mono (fun _ h ↦ h) ?_ ?_
  · rintro _ ⟨_, k'⟩ ⟨made, l, hfetches, rfl, hgains⟩
    refine .bind ha hr hslot hfits hfetches ?_
    rw [FrameSlot.binds, List.map_append]
    exact hgains
  -- Pipeline and mesh are bound by now, whatever becomes of the set.
  · rintro _ ⟨_, k'⟩ ⟨hneeds, code, rfl, hgains⟩
    have hbinds : k.Gains [] (.failed .allocateDescriptorSets
        (.allocateDescriptorSet .null f.pool p.setLayout) code :: f.binds p m) k' := by
      rw [FrameSlot.binds, List.map_append]
      exact hgains
    exact .misbinds (.misbind ha hr hslot hfits hneeds hbinds) hgains.calls

/-- A draw state is bound in one move, or refused. -/
theorem meets_applyDrawState_move {state : DrawState} :
    Meets (Rests d k) (applyDrawState state) (fun _ ↦ Move [.applyDrawState state] (d, k))
      fun _ ↦ Refuses d k := by
  have hrefuse {s : Device × Host} {j : Log.Journal} (h : Rests d k s) :
      Refuses d k (Log.HasJournal.journal.set j s) := .rests ⟨h.1, h.2⟩
  refine RunOn.meets_part_bind ?_
  refine .orFail_bind (fun p hp ↦ ?_) fun _ ↦ .rests
  refine .orFail_bind (fun m hm ↦ ?_) fun _ ↦ .rests
  refine .bind (meets_sampledViewsOf (fun _ _ ↦ .rests) (fun _ _ _ ↦ hrefuse) state.textures)
    fun views ↦ .assume fun hviews ↦ ?_
  refine .ite (fun _ ↦ .refuse_bind fun _ _ ↦ hrefuse) fun henough ↦ ?_
  refine meets_activePass_bind (fun _ _ ↦ hrefuse) fun a ha ↦ ?_
  refine .ite (fun _ ↦ .refuse_bind fun _ _ ↦ hrefuse) fun hapart ↦ ?_
  refine .ite (fun _ ↦ .refuse_bind fun _ _ ↦ hrefuse) fun hsignature ↦ ?_
  have hfits : d.Fits a state p m views := by
    refine ⟨hp, hm, hviews, Nat.not_lt.1 henough, fun id hid hmem ↦ hapart ?_, not_not.1 hsignature⟩
    exact List.any_eq_true.2 ⟨id, hid, List.contains_iff_mem.2 hmem⟩
  refine RunOn.meets_change_bind ?_
  refine .ite (fun hr ↦ meets_bindState_moves ha hr hfits) fun hr ↦ ?_
  refine .pure ?_
  -- Without a target nothing is recorded.
  rintro ⟨_, k'⟩ ⟨rfl, hk⟩
  exact .bindUntargeted ha (Bool.eq_false_iff.2 hr) hfits hk

theorem moves_applyDrawState {state : DrawState} :
    Meets (Moves s₀ cs) (applyDrawState state)
      (fun _ ↦ Moves s₀ (cs ++ [.applyDrawState state])) fun _ ↦ Moves s₀ cs := by
  rintro ⟨d, k⟩ h
  refine (meets_applyDrawState_move (d := d) (k := k) _ ⟨rfl, rfl⟩).mono
    (fun _ _ hmove ↦ h.step hmove) fun _ s hrefuses ↦ ?_
  cases hrefuses with
  | rests hrests =>
    obtain ⟨_, k'⟩ := s
    obtain ⟨rfl, hk⟩ := hrests
    exact h.congr hk
  | misbinds move => exact h.unlabelled move

/-! ### Ending a pass -/

/-- Without a pass there is nothing to end. -/
theorem refuses_endPass (ha : d.active = none) :
    Meets (RunOn.At d (MovedOn s₀ cs d)) endPass (fun _ _ ↦ False) fun _ ↦ Moves s₀ cs := by
  refine RunOn.meets_part_bind ?_
  rw [ha]
  exact .refuse fun _ j h ↦ moves_of_refused h j

/-- A pass that there is ends in one move. -/
theorem meets_endPass_move (ha : d.active = some a) :
    Meets (RunOn.At d (· = k)) endPass
      (fun _ s ↦ s.1 = d.afterPass a ∧ Move [.endPass] (d, k) s) E := by
  refine RunOn.meets_part_bind ?_
  rw [ha]
  refine RunOn.meets_change_bind ?_
  let d' : Device := { d with active := none }
  -- The textures are marked after the end of the pass was recorded.
  have hresolve (P : Host → Prop) : Meets (RunOn.At d' P)
      (if a.resolves then
        RunOn.change fun d ↦ { d with textures := a.attachments.foldl markResolved d.textures }
      else pure () : DeviceStep Unit) (fun _ ↦ RunOn.At (d.afterPass a) P) E := by
    rw [afterPass]
    split
    · exact RunOn.meets_change
    · exact .pure fun _ h ↦ h
  refine .ite (fun hr ↦ ?_) fun hr ↦ (hresolve (· = k)).post ?_
  · refine Meets.pre (P := RunOn.At d' (k.Gains [] []))
      (.bind meets_recordGainsFirst fun _ ↦ ?_) fun s hs ↦ ⟨hs.1, hs.2 ▸ .refl k⟩
    intro s hs
    obtain ⟨f, hslot, hs⟩ := hs
    refine (hresolve _).post ?_ s hs
    rintro _ ⟨_, k'⟩ ⟨rfl, hgains⟩
    exact ⟨rfl, .leave ha hr hslot hgains⟩
  · rintro _ ⟨_, k⟩ ⟨rfl, rfl⟩
    exact ⟨rfl, .leaveUntargeted ha (Bool.eq_false_iff.2 hr)⟩

theorem moves_endPass (ha : d.active = some a) :
    Meets (RunOn.At d (MovedOn s₀ cs d)) endPass
      (fun _ s ↦ (s.1.active = none ∧ s.1.frame = d.frame) ∧ Moves s₀ (cs ++ [.endPass]) s) E := by
  rintro ⟨d, k⟩ ⟨rfl, hk⟩
  have hk : Moves s₀ cs (d, k) := hk
  refine (meets_endPass_move ha).post ?_ (d, k) ⟨rfl, rfl⟩
  rintro _ ⟨_, k'⟩ ⟨rfl, hmove⟩
  exact ⟨⟨rfl, rfl⟩, hk.step hmove⟩

/-! ### Committing a frame -/

theorem moves_next :
    Meets (Between s₀ cs ctx size false)
      (RunOn.change fun d ↦ { d with slotIndex := (d.slotIndex + 1) % d.slots.length })
      (fun _ ↦ Moves s₀ cs) fun _ ↦ Moves s₀ cs := by
  rintro ⟨d, k⟩ h
  have hidle : d.frame.isSome = false := h.frame
  exact h.moves.unlabelled (.next h.outside (by simpa using hidle))

theorem moves_handOver (ha : d.active = none) (hf : d.frame.isSome = true) :
    Meets (RunOn.At d (MovedOn s₀ cs d)) handOver (fun _ ↦ Moves s₀ cs) fun _ ↦ Moves s₀ cs := by
  refine RunOn.meets_part_bind (RunOn.meets_change_bind ?_)
  let d' : Device := { d with frame := none }
  rintro ⟨_, k⟩ ⟨rfl, hk⟩
  have hk : Moves s₀ cs (d, k) := hk
  refine Meets.bind (P := RunOn.At d' (k.Gains [] [])) meets_slotAt
    (fun f ↦ .assume fun hslot ↦ ?_) (d', k) ⟨rfl, .refl k⟩
  have hstall (e : EngineError) (k' : Host) (h : f.Stepped k k') : Moves s₀ cs (d', k') := by
    obtain ⟨l, hgains, hsteps⟩ := h
    exact hk.unlabelled (.stall ha hslot hgains hsteps)
  have hsubmit {sync} {y : DeviceStep Unit}
      (hy : Meets (Between s₀ cs d.context d.windowSize false) y (fun _ ↦ Moves s₀ cs)
        fun _ ↦ Moves s₀ cs) :
      Meets (RunOn.At d' (k.Gains [] [])) (do f.submit d.context sync; y) (fun _ ↦ Moves s₀ cs)
        fun _ ↦ Moves s₀ cs := by
    refine RunOn.meets_lift_bind FrameSlot.meets_submitGains hstall fun _ ↦ hy.pre ?_
    rintro ⟨_, k'⟩ ⟨rfl, hgains⟩
    exact ⟨hk.unlabelled (.submit ha hf hslot hgains), ha, rfl, rfl, rfl⟩
  split
  · exact hsubmit moves_next
  · refine .orTrap_bind fun sync _ ↦ hsubmit ?_
    exact .bind ((keeps_onScreen_between fun _ _ ↦ .present).mono (fun _ h ↦ h) (fun _ _ h ↦ h)
      fun _ _ h ↦ h.moves) fun _ ↦ moves_next

/-- A frame may get a pass that was not asked for as it is committed. -/
def AddsPass (d : Device) (c : GraphicsDevice.Command) (cs : List GraphicsDevice.Command) : Prop :=
  c = .commitFrame ∧ d.active = none ∧ cs = [.beginPass none {}, .endPass]

/-- The labels of a command that is taken. -/
def labelsOf : GraphicsDevice.Command → List GraphicsDevice.Command
  | .beginPass pass action => [.beginPass pass action]
  | .applyDrawState state => [.applyDrawState state]
  | .endPass => [.endPass]
  | _ => []

/-- Moves with the labels of a command, or with those of a pass that it added. -/
def Labelled (s₀ : Device × Host) (cs : List GraphicsDevice.Command) (d : Device)
    (c : GraphicsDevice.Command) (labels : List GraphicsDevice.Command) (s : Device × Host) :
    Prop :=
  ∃ cs', Moves s₀ (cs ++ cs') s ∧ (cs' = labels ∨ d.AddsPass c cs')

theorem Labelled.of_moves {c : GraphicsDevice.Command} {labels : List GraphicsDevice.Command}
    (h : Moves s₀ (cs ++ labels) s) : Labelled s₀ cs d c labels s :=
  ⟨labels, h, .inl rfl⟩

theorem Labelled.of_unlabelled {c : GraphicsDevice.Command} (h : Moves s₀ cs s) :
    Labelled s₀ cs d c [] s :=
  ⟨[], (List.append_nil cs).symm ▸ h, .inl rfl⟩

theorem moves_commitFrame :
    Meets (RunOn.At d (MovedOn s₀ cs d)) commitFrame (fun _ ↦ Labelled s₀ cs d .commitFrame [])
      fun _ ↦ Labelled s₀ cs d .commitFrame [] := by
  refine RunOn.meets_part_bind ?_
  refine .ite (fun _ ↦ .refuse_bind fun _ j h ↦ .of_unlabelled (moves_of_refused h j))
    fun hactive ↦ ?_
  have ha : d.active = none := Option.not_isSome_iff_eq_none.1 hactive
  have hunlabelled {s : Device × Host} (h : Moves s₀ cs s) : Labelled s₀ cs d .commitFrame [] s :=
    .of_unlabelled h
  refine .bind ((moves_ensureFrame ha).mono (fun _ h ↦ h) (fun _ _ h ↦ h)
    fun _ _ ↦ hunlabelled) fun _ ↦ ?_
  rintro ⟨_, k⟩ ⟨frame, rfl, hk⟩
  let d' : Device := { d with frame := some frame }
  refine Meets.pre (P := RunOn.At d' (MovedOn s₀ cs d')) ?_ (fun _ h ↦ h) (d', k) ⟨rfl, hk⟩
  refine RunOn.meets_part_bind ?_
  refine .ite (fun _ ↦ ?_) fun _ ↦ (moves_handOver (d := d') ha rfl).mono (fun _ h ↦ h)
    (fun _ _ ↦ hunlabelled) fun _ _ ↦ hunlabelled
  refine .bind (moves_beginPass.mono (fun _ ↦ moves_of_at) (fun _ _ h ↦ h)
    fun _ _ ↦ hunlabelled) fun _ ↦ ?_
  rintro ⟨d, k⟩ ⟨⟨hsome, hf⟩, hk⟩
  obtain ⟨a, hactive⟩ := Option.isSome_iff_exists.1 hsome
  refine Meets.bind (moves_endPass hactive) (fun _ ↦ ?_) (d, k) ⟨rfl, hk⟩
  rintro ⟨d, k⟩ ⟨⟨hnone, hframe⟩, hk⟩
  -- The pass that was added has labels, although the command has none.
  have hadded {s : Device × Host} (h : Moves s₀ (cs ++ [.beginPass none {}] ++ [.endPass]) s) :
      Labelled s₀ cs _ .commitFrame [] s :=
    ⟨[.beginPass none {}, .endPass], by simpa using h, .inr ⟨rfl, ha, rfl⟩⟩
  exact ((moves_handOver hnone (hframe ▸ hf)).mono (fun _ h ↦ h) (fun _ _ ↦ hadded)
    fun _ _ ↦ hadded) (d, k) ⟨rfl, hk⟩

/-! ### All commands -/

theorem moves_requestQuit : Keeps (Moves s₀ cs) requestQuit := by
  rintro ⟨d, k⟩ h
  have hnote : Move [] (d, k) ({ d with frame := d.frame.map id, quit := true }, k) :=
    .note (.inl rfl)
  rw [Option.map_id, id] at hnote
  exact h.unlabelled hnote

/-- What happens beside commands is a move as well. -/
theorem Moves.happens (h : Moves s₀ cs s) (ht : Happens s t) : Moves s₀ cs t := by
  obtain ⟨d, k⟩ := s
  cases ht with
  | resize size =>
    have hnote : Move [] (d, k) ({ d with
        frame := d.frame.map id, windowSize := size, screen := d.screen.mark }, k) :=
      .note (.inr rfl)
    rw [Option.map_id, id] at hnote
    exact h.unlabelled hnote
  | surround around => exact h.outsideFrames (Driver.grows_of_calls (fun _ ↦ Nat.le_refl _) rfl)

/-- **A command is made of moves**, whether it is taken or refused. -/
theorem meets_moves {c : GraphicsDevice.Command} :
    Meets (RunOn.At d (MovedOn s₀ cs d)) c.answer (fun _ ↦ Labelled s₀ cs d c (labelsOf c))
      fun _ ↦ Labelled s₀ cs d c [] := by
  have hplain {β : Type} {x : DeviceStep β} (hx : Keeps (Moves s₀ cs) x) :
      Meets (RunOn.At d (MovedOn s₀ cs d)) x (fun _ ↦ Labelled s₀ cs d c [])
        fun _ ↦ Labelled s₀ cs d c [] :=
    hx.mono (fun _ ↦ moves_of_at) (fun _ _ ↦ .of_unlabelled) fun _ _ ↦ .of_unlabelled
  cases c with
  | createTexture => exact .map (hplain moves_createTexture)
  | createMesh => exact .map (hplain moves_createMesh)
  | createShader => exact .map (hplain moves_createShader)
  | createPipeline => exact .map (hplain moves_createPipeline)
  | createPass => exact .map (hplain moves_createPass)
  | destroy => exact .map (hplain moves_destroy)
  | beginPass =>
    exact .map (moves_beginPass.mono (fun _ ↦ moves_of_at) (fun _ _ h ↦ .of_moves h.2)
      fun _ _ ↦ .of_unlabelled)
  | applyViewport => exact .map (hplain moves_applyViewport)
  | applyDrawState =>
    exact .map (moves_applyDrawState.mono (fun _ ↦ moves_of_at) (fun _ _ h ↦ .of_moves h)
      fun _ _ ↦ .of_unlabelled)
  | applyUniforms => exact .map (hplain moves_applyUniforms)
  | draw => exact .map (hplain moves_draw)
  | fillRects => exact .map (hplain moves_fillRects)
  | endPass =>
    refine .map ?_
    rcases ha : d.active with _ | a
    · exact (refuses_endPass ha).mono (fun _ h ↦ h) (fun _ _ hno ↦ hno.elim)
        fun _ _ ↦ .of_unlabelled
    · exact (moves_endPass ha).post fun _ _ h ↦ .of_moves h.2
  | commitFrame => exact .map moves_commitFrame
  | requestQuit => exact .map (hplain moves_requestQuit)

/-- The moves of a command that is taken. -/
theorem labelled_of_taken {c : GraphicsDevice.Command} {answer : Option ResourceId}
    (took : c.answer s = .ok answer t) : Labelled s [] s.1 c (labelsOf c) t :=
  meets_moves.ok ⟨rfl, .refl⟩ took

/-- The moves of a command that is refused. -/
theorem labelled_of_refused {c : GraphicsDevice.Command} {e : EngineError}
    (refused : c.answer s = .error (.error e) t) : Labelled s [] s.1 c [] t :=
  meets_moves.error ⟨rfl, .refl⟩ refused

/-- Whatever a device gets to, it gets there by moves. -/
theorem Reached.moves {start : Device × Host → Prop}
    {h : List (GraphicsDevice.Command × Option ResourceId)}
    (hreached : GraphicsDevice.Reached start Happens h t) : ∃ s cs, start s ∧ Moves s cs t := by
  induction hreached with
  | start hs => exact ⟨_, [], hs, .refl⟩
  | taken _ took ih =>
    obtain ⟨s, cs, hs, hmoves⟩ := ih
    obtain ⟨cs', hmoves, -⟩ := meets_moves.ok ⟨rfl, hmoves⟩ took
    exact ⟨s, _, hs, hmoves⟩
  | refused _ hrefused ih =>
    obtain ⟨s, cs, hs, hmoves⟩ := ih
    obtain ⟨cs', hmoves, -⟩ := meets_moves.error ⟨rfl, hmoves⟩ hrefused
    exact ⟨s, _, hs, hmoves⟩
  | between _ done ih =>
    obtain ⟨s, cs, hs, hmoves⟩ := ih
    exact ⟨s, cs, hs, hmoves.happens done⟩

end Device

end RenderTargets.Vulkan
