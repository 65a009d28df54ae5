import RenderTargets.App.Application
import RenderTargets.Proofs.Recorder.Growth
/-!
# The scene on a recorder

What `init` makes of a configuration, on a recorder that only had it made: `Scene.Made` lists the
resources of the scene with their descriptions. The recorder keeps descriptions as they were given,
so a frame can be judged by them alone.

The samples per pixel are those of the configuration where the recorder has multisampling, and one
otherwise; the surfaces, the pass and the pipeline of the cube are all made with that number.
-/

namespace RenderTargets.App

open Log StepWith Recorder

/-- The recorder can bind all surfaces of the scene at once. -/
def CanShow (features : Features) (maxColors : UInt32) : Prop :=
  features.contains .multipleTargets ∧ targetCount ≤ maxColors.toNat

/-- The samples per pixel of the surfaces. -/
def samplesFor (features : Features) (config : Config) : UInt32 :=
  if max config.samples 1 > 1 ∧ ¬features.contains .multisampling then 1 else max config.samples 1

/-- The surfaces that a configuration asks for. -/
def builderFor (features : Features) (config : Config) : TargetsBuilder :=
  { TargetsBuilder.ofSize config.targetWidth config.targetHeight (samplesFor features config) with
    clearColors := config.clearColors }

/-- The surfaces and their pass are found with the descriptions of their builder. -/
structure Targets.Made (t : Targets) (b : TargetsBuilder) (r : Recorder) : Prop where
  /-- The first surface. -/
  first : r.textures.get? t.first = some (b.surfaceDesc 0)
  /-- The second surface. -/
  second : r.textures.get? t.second = some (b.surfaceDesc 1)
  /-- The third surface. -/
  third : r.textures.get? t.third = some (b.surfaceDesc 2)
  /-- The pass. -/
  pass : r.passes.get? t.pass = some (b.passDesc t.first t.second t.third)
  /-- The samples. -/
  samples : t.samples = b.samples

/-- The cube is found as the configuration asks for it. -/
structure Offscreen.Made (o : Offscreen) (shader : ShaderDesc) (config : Config) (samples : UInt32)
    (r : Recorder) : Prop where
  /-- The mesh. -/
  mesh : ∃ d, Offscreen.cube = .ok d ∧ r.meshes.get? o.mesh = some d ∧
    r.pipelines.get? o.pipeline = some (pipelineDesc d.layout o.shader samples)
  /-- The shader. -/
  shader : r.shaders.get? o.shader = some shader
  /-- The cube did not move yet. -/
  transform : o.transform = .ofConfig config

/-- The panels are found as the configuration asks for them. -/
structure Composite.Made (c : Composite) (shader : ShaderDesc) (t : Targets) (config : Config)
    (r : Recorder) : Prop where
  /-- The mesh. -/
  mesh : r.meshes.get? c.mesh = some (MeshDesc.fullScreenQuad true)
  /-- The shader. -/
  shader : r.shaders.get? c.shader = some shader
  /-- The pipeline. -/
  pipeline : r.pipelines.get? c.pipeline =
    some (pipelineDesc (MeshDesc.fullScreenQuad true).layout c.shader r.display)
  /-- Each surface has a panel. -/
  panels : ∃ places, panels? config.targetWidth config.targetHeight = some places ∧
    c.panels = t.surfaces.zip places
  /-- The color around the panels. -/
  clearColor : c.clearColor = config.displayClearColor

/-- The scene is found as the configuration and the shaders ask for it. -/
structure Scene.Made (s : Scene) (config : Config) (shaders : Shaders) (r : Recorder) : Prop where
  /-- The surfaces and their pass. -/
  targets : s.targets.Made (builderFor r.features config) r
  /-- The cube. -/
  offscreen : s.offscreen.Made shaders.offscreen config (builderFor r.features config).samples r
  /-- The panels. -/
  composite : s.composite.Made shaders.quad s.targets config r

/-! ### Making -/

section Making

variable {r : Recorder} {α β : Type} {F : α → Recorder → Prop}

/-- From the recorder the step makes something that is found afterwards, beside what there was. A
structure, so that nothing looks into the step while this is only passed on: the mesh of the cube
would be computed. -/
structure Grows (r : Recorder) (x : Step (Arena × Recorder × Journal) α)
    (F : α → Recorder → Prop) : Prop where
  /-- Nothing is said of errors. -/
  meets : Meets (fun s ↦ s.2.1 = r) x (fun a s ↦ r.Extends s.2.1 ∧ F a s.2.1) fun _ _ ↦ True

namespace Grows

variable {x : Step (Arena × Recorder × Journal) α} {f : α → Step (Arena × Recorder × Journal) β}
  {G : β → Recorder → Prop}

theorem bind (hx : Grows r x F)
    (h : ∀ a r', r.Extends r' → F a r' → Grows r' (f a) G) : Grows r (x >>= f) G where
  meets := Meets.bind hx.meets fun a s hs ↦ ((h a s.2.1 hs.1 hs.2).meets s rfl).mono
    (fun _ _ ht ↦ ⟨hs.1.trans ht.1, ht.2⟩) fun _ _ he ↦ he

theorem pure {a : α} (h : F a r) : Grows r (Pure.pure a) F where
  meets := Meets.pure fun s hs ↦ by
    subst hs
    exact ⟨.refl _, h⟩

/-- After something was made and tracked, a larger recorder finds it. -/
theorem made {x : Recording α} (hx : Makes x F) {wrap : α → ResourceId}
    (h : ∀ a r', r.Extends r' → F a r' → Grows r' (f a) G) :
    Grows r (StepWith.within .snd x >>= fun a ↦ Arena.track (wrap a) >>= fun _ ↦ f a) G := by
  refine .bind (F := F) ⟨.snd fun _ ↦ hx r⟩ fun a r' hr ha ↦ ?_
  refine .bind (F := fun _ t ↦ t = r') ⟨?_⟩ fun _ t _ ht ↦ ht ▸ h a r' hr ha
  refine Meets.post (Q := fun _ s ↦ s.2.1 = r') ?_ ?_
  · rw [Arena.track]
    exact Meets.bind (Meets.note fun _ _ ht ↦ ht) fun _ ↦ .update fun _ ht ↦ ht
  · rintro _ s rfl
    exact ⟨.refl _, rfl⟩

end Grows

theorem grows_createTargets (b : TargetsBuilder) :
    Grows r b.create fun t r ↦ t.Made b r := by
  simp only [TargetsBuilder.create, TargetsBuilder.createSurface, bind_assoc, pure_bind]
  refine .made (makes_createTexture _) fun first r₁ h₁ hfirst ↦ ?_
  refine .made (makes_createTexture _) fun second r₂ h₂ hsecond ↦ ?_
  refine .made (makes_createTexture _) fun third r₃ h₃ hthird ↦ ?_
  refine .made (makes_createPass _) fun pass r₄ h₄ hpass ↦ .pure ?_
  exact ⟨h₄.texture (h₃.texture (h₂.texture hfirst)), h₄.texture (h₃.texture hsecond),
    h₄.texture hthird, hpass, rfl⟩

theorem grows_buildTargets (b : TargetsBuilder) :
    Grows r b.build fun t r ↦ t.Made b r := by
  refine ⟨?_⟩
  rw [TargetsBuilder.build]
  refine .get_bind fun _ ↦ ?_
  refine .ite (fun _ ↦ .fail_bind fun _ _ ↦ trivial) fun _ ↦ ?_
  refine .get_bind fun _ ↦ ?_
  refine Meets.bind (.attempt (R := fun t s ↦ ∀ t', t = .ok t' → r.Extends s.2.1 ∧ t'.Made b s.2.1)
    ((grows_createTargets b).meets.mono (fun _ h ↦ h) ?_ ?_)) fun t ↦ ?_
  · rintro t s h _ ⟨⟩
    exact h
  · rintro _ _ _ _ ⟨⟩
  · cases t with
    | ok t =>
      exact Meets.bind (Q := fun _ s ↦ r.Extends s.2.1 ∧ t.Made b s.2.1)
        (.note fun _ _ h ↦ h t rfl) fun _ ↦ .pure fun _ h ↦ h
    | error e =>
      refine Meets.bind (Q := fun _ _ ↦ True) Meets.any fun undone ↦ ?_
      cases undone with
      | ok _ => exact .fail fun _ _ ↦ trivial
      | error _ => exact Meets.bind (Q := fun _ _ ↦ True) .any fun _ ↦ .fail fun _ _ ↦ trivial

theorem grows_createOffscreen (shader : ShaderDesc) (targets : Targets) (config : Config) :
    Grows r (Offscreen.create shader targets config)
      fun o r ↦ o.Made shader config targets.samples r := by
  rw [Offscreen.create]
  -- The mesh of the cube must not be computed here.
  generalize hcube : Offscreen.cube = cube
  refine .bind (F := fun d t ↦ cube = .ok d ∧ t = r) ⟨?_⟩ ?_
  · refine .ofChecked (fun d hd s hs ↦ ?_) fun _ _ _ _ ↦ trivial
    subst hs
    exact ⟨.refl _, hd, rfl⟩
  rintro d _ - ⟨hd, rfl⟩
  refine .made (makes_createMesh _) fun mesh r₁ h₁ hmesh ↦
    .made (makes_createShader _) fun shader r₂ h₂ hshader ↦
    .made (makes_createPipeline _) fun pipeline r₃ h₃ hpipeline ↦ .pure ?_
  exact ⟨⟨d, hcube.trans hd, h₃.mesh (h₂.mesh hmesh), hpipeline⟩, h₃.shader hshader, rfl⟩

theorem grows_createComposite (shader : ShaderDesc) (targets : Targets) (config : Config) :
    Grows r (Composite.create shader targets config)
      fun c r ↦ c.Made shader targets config r := by
  rw [Composite.create]
  refine .made (makes_createMesh _) fun mesh r₁ h₁ hmesh ↦
    .made (makes_createShader _) fun shader r₂ h₂ hshader ↦
    .bind (F := fun s t ↦ s.2.1 = r₂ ∧ t = r₂) ⟨.get fun s hs ↦ ?_⟩ ?_
  · subst hs
    exact ⟨.refl _, rfl, rfl⟩
  rintro s _ - ⟨hs, rfl⟩
  refine .made (makes_createPipeline _) fun pipeline r₃ h₃ hpipeline ↦
    .bind (F := fun places t ↦
      panels? config.targetWidth config.targetHeight = some places ∧ t = r₃) ⟨?_⟩ ?_
  · refine .orTrap fun places hplaces t ht ↦ ?_
    subst ht
    exact ⟨.refl _, hplaces, rfl⟩
  rintro places r₄ - ⟨hplaces, rfl⟩
  have hdisplay : GraphicsDevice.display s.2 = r₄.display := by
    rw [h₃.rest, ← hs]
    rfl
  exact .pure ⟨h₃.mesh (h₂.mesh hmesh), h₃.shader hshader, hdisplay ▸ hpipeline,
    ⟨places, hplaces, rfl⟩, rfl⟩

/-- The samples that a recorder can give. -/
theorem meets_effectiveSamples (config : Config) :
    Meets (fun s ↦ s.1 = r) (effectiveSamples config.samples : Recording UInt32)
      (fun n s ↦ n = samplesFor r.features config ∧ s.1 = r) fun _ _ ↦ True := by
  rw [effectiveSamples]
  refine .get_bind_eq fun s hs ↦ ?_
  have hsupports : GraphicsDevice.supports s .multisampling = r.features.contains .multisampling :=
    hs ▸ rfl
  rw [hsupports]
  refine .ite (fun hc ↦ ?_) fun hc ↦ ?_
  · refine Meets.bind (Q := fun _ t ↦ t.1 = r) (.note fun _ _ ht ↦ ht ▸ hs) fun _ ↦
      .pure fun _ ht ↦ ⟨?_, ht⟩
    rw [samplesFor, if_pos (by simpa using hc)]
  · refine .pure fun _ ht ↦ ⟨?_, ht ▸ hs⟩
    rw [samplesFor, if_neg (by simpa using hc)]

theorem Targets.Made.extend {t : Targets} {b : TargetsBuilder} {r r' : Recorder}
    (h : t.Made b r) (hr : r.Extends r') : t.Made b r' :=
  ⟨hr.texture h.first, hr.texture h.second, hr.texture h.third, hr.pass h.pass, h.samples⟩

theorem Offscreen.Made.extend {o : Offscreen} {shader : ShaderDesc} {config : Config}
    {samples : UInt32} {r r' : Recorder} (h : o.Made shader config samples r) (hr : r.Extends r') :
    o.Made shader config samples r' := by
  obtain ⟨d, hd, hmesh, hpipeline⟩ := h.mesh
  exact ⟨⟨d, hd, hr.mesh hmesh, hr.pipeline hpipeline⟩, hr.shader h.shader, h.transform⟩

theorem grows_createScene (a : Application) :
    Grows r (Application.createScene a) fun c r ↦ c.Made a.config a.shaders r := by
  rw [Application.createScene]
  refine .bind (F := fun n t ↦ n = samplesFor r.features a.config ∧ t = r) ⟨.snd fun _ ↦ ?_⟩ ?_
  · refine (meets_effectiveSamples a.config).mono (fun _ h ↦ h) ?_ fun _ _ h ↦ h
    rintro n s ⟨hn, rfl⟩
    exact ⟨.refl _, hn, rfl⟩
  rintro _ r' - ⟨rfl, rfl⟩
  refine .bind (grows_buildTargets (builderFor r'.features a.config))
    fun targets r₁ h₁ htargets ↦ ?_
  refine .bind (grows_createOffscreen _ _ _) fun offscreen r₂ h₂ hoffscreen ↦ ?_
  refine .bind (grows_createComposite _ _ _) fun composite r₃ h₃ hcomposite ↦ .pure ?_
  have hfeatures : r₃.features = r'.features := by rw [((h₁.trans h₂).trans h₃).rest]
  refine ⟨?_, ?_, hcomposite⟩ <;> rw [hfeatures]
  · exact htargets.extend (h₂.trans h₃)
  · have hsamples := hoffscreen.extend h₃
    rwa [htargets.samples] at hsamples

end Making

/-! ### The first tick -/

section First

variable {r : Recorder} {config : Config} {shaders : Shaders}

instance (features : Features) (maxColors : UInt32) : Decidable (CanShow features maxColors) :=
  inferInstanceAs (Decidable (_ ∧ _))

/-- What `init` leaves behind on a recorder `r`: the scene on an extension of it, or the message and
the recorder as it was. -/
def Started (r : Recorder) (config : Config) (shaders : Shaders)
    (s : Application × Recorder × Journal) : Prop :=
  r.Extends s.2.1 ∧ s.1.config = config ∧
    if CanShow r.features r.maxColors then
      ∃ scene : Scene, s.1.mode = some (.scene scene) ∧ scene.Made config shaders s.2.1
    else s.1.mode = some (.fallback (.ofConfig config)) ∧ s.2.1 = r

theorem meets_canShow : Meets (fun s ↦ s.1 = r) (canShowScene : Recording Bool)
    (fun shown s ↦ (shown ↔ CanShow r.features r.maxColors) ∧ s.1 = r) fun _ _ ↦ True := by
  rw [canShowScene]
  refine .get_bind_eq fun s hs ↦ ?_
  have hsupports : GraphicsDevice.supports s .multipleTargets =
      r.features.contains .multipleTargets := hs ▸ rfl
  have hlimit : GraphicsDevice.maxColors s = r.maxColors := hs ▸ rfl
  rw [hsupports, hlimit]
  refine .ite (fun hc ↦ ?_) fun hc ↦ .ite (fun hl ↦ ?_) fun hl ↦ ?_
  all_goals
    refine Meets.bind (Q := fun _ t ↦ t.1 = r) (.note fun _ _ ht ↦ ht ▸ hs) fun _ ↦
      .pure fun _ ht ↦ ⟨?_, ht⟩
  · simp_all [CanShow]
  · simp_all [CanShow]
  · simp_all [CanShow]

/-- Making the scene may fail, but then nothing is said of it. -/
theorem meets_attemptScene (a : Application) :
    Meets (fun t ↦ t.1 = a ∧ t.2.1 = r)
      (StepWith.attempt (StepWith.within Application.arenaLens
        (Application.createScene a : Step (Arena × Recorder × Journal) Scene)))
      (fun c t ↦ ∀ scene, c = .ok scene → r.Extends t.2.1 ∧ t.1.config = a.config ∧
        scene.Made a.config a.shaders t.2.1) fun _ _ ↦ True := by
  refine .attempt (.within fun t ht ↦ ?_)
  refine (grows_createScene (r := r) a).meets.mono ?_ ?_ ?_
  · rintro _ rfl
    exact ht.2
  · rintro scene u hu _ ⟨⟩
    have hconfig : t.1.config = a.config := by rw [ht.1]
    exact ⟨hu.1, hconfig, hu.2⟩
  · rintro _ _ _ _ ⟨⟩

/-- The application asks the recorder what it can show. -/
theorem meets_gate (a : Application) :
    Meets (fun s ↦ s.1 = a ∧ s.2.1 = r) (StepWith.within .snd (canShowScene : Recording Bool))
      (fun shown s ↦ (shown ↔ CanShow r.features r.maxColors) ∧ s.1 = a ∧ s.2.1 = r)
      fun _ _ ↦ True :=
  .snd fun b ↦ .assume (p := b = a) fun hb ↦ meets_canShow.post fun _ _ h ↦ ⟨h.1, hb, h.2⟩

theorem meets_start (a : Application) :
    Meets (fun s ↦ s.1 = a ∧ s.2.1 = r)
      (Application.onInit : Step (Application × Recorder × Journal) Unit)
      (fun _ s ↦ Started r a.config a.shaders s) fun _ _ ↦ True := by
  rw [Application.onInit]
  refine .get_bind_eq fun ⟨a', s⟩ hs ↦ ?_
  obtain ⟨rfl, hr⟩ := hs
  simp only
  refine Meets.bind ((meets_gate (r := r) a').pre ?_) fun shown ↦ .assume fun hshown ↦ ?_
  · rintro _ rfl
    exact ⟨rfl, hr⟩
  refine .ite (fun hc ↦ ?_) fun hc ↦ ?_
  · refine Meets.bind (Q := fun _ t ↦ Started r a'.config a'.shaders t) (.update ?_) fun _ ↦
      .pure fun _ h ↦ h
    rintro ⟨b, r', j⟩ ⟨rfl, rfl⟩
    have hno : ¬CanShow r'.features r'.maxColors := by
      rw [← hshown]
      simpa using hc
    refine ⟨.refl _, rfl, ?_⟩
    rw [if_neg hno]
    exact ⟨rfl, rfl⟩
  · have hcan : CanShow r.features r.maxColors := hshown.1 (by simpa using hc)
    refine Meets.bind (meets_attemptScene a') fun c ↦ ?_
    cases c with
    | ok scene =>
      refine .get_bind fun _ ↦ ?_
      refine Meets.bind (Q := fun _ t ↦ r.Extends t.2.1 ∧ t.1.config = a'.config ∧ scene.Made
        a'.config a'.shaders t.2.1) (.note fun _ _ h ↦ h scene rfl) fun _ ↦ .update fun t ht ↦
        ⟨ht.1, ht.2.1, ?_⟩
      rw [if_pos hcan]
      exact ⟨scene, rfl, ht.2.2⟩
    | error e =>
      refine Meets.bind (Q := fun _ _ ↦ True) (.note fun _ _ _ ↦ trivial) fun _ ↦ ?_
      refine Meets.bind (Q := fun _ _ ↦ True) .any fun released ↦ ?_
      cases released with
      | ok _ => exact .fail fun _ _ ↦ trivial
      | error _ => exact Meets.bind (Q := fun _ _ ↦ True) .any fun _ ↦ .fail fun _ _ ↦ trivial

theorem meets_nextOfInit {a : Application} (ha : a.state = .init) :
    Meets (fun s ↦ s.1 = a ∧ s.2.1 = r)
      (Application.next : Step (Application × Recorder × Journal) State)
      (fun st s ↦ st = .running ∧ Started r a.config a.shaders s) fun _ _ ↦ True := by
  rw [Application.next]
  refine .get_bind_eq fun s hs ↦ ?_
  rw [hs.1, ha]
  refine Meets.bind (Q := fun c t ↦ c = .ok () → Started r a.config a.shaders t)
    (.attempt (Meets.mono (meets_start a) ?_ (fun _ _ h _ ↦ h) ?_)) fun c ↦ ?_
  · rintro _ rfl
    exact hs
  · rintro _ _ _ ⟨⟩
  · cases c with
    | ok _ => exact .pure fun _ h ↦ ⟨rfl, h rfl⟩
    | error e => exact Meets.bind (Q := fun _ _ ↦ True) .any fun _ ↦ .fail fun _ _ ↦ trivial

/-- After a first tick that answers, the application runs and has started. -/
theorem meets_firstTick {a : Application} (ha : a.state = .init) :
    Meets (fun s ↦ s.1 = a ∧ s.2.1 = r)
      (Application.tick : Step (Application × Recorder × Journal) State)
      (fun st s ↦ st = .running ∧ s.1.state = .running ∧ Started r a.config a.shaders s)
      fun _ _ ↦ True := by
  rw [Application.tick]
  refine Meets.bind (meets_nextOfInit ha) fun st ↦ .assume ?_
  rintro rfl
  refine .get_bind_eq fun s hs ↦ .ite (fun _ ↦ ?_) fun hst ↦ ?_
  · refine Meets.bind (Q := fun _ t ↦ Started r a.config a.shaders t)
      (.note fun t j ht ↦ ?_) fun _ ↦ ?_
    · subst ht
      exact hs
    refine Meets.bind (Q := fun _ t ↦ t.1.state = .running ∧ Started r a.config a.shaders t)
      (.update fun t ht ↦ ⟨rfl, ht⟩) fun _ ↦ ?_
    exact .pure fun _ ht ↦ ⟨rfl, ht⟩
  · refine .pure fun t ht ↦ ?_
    subst ht
    exact ⟨rfl, (Decidable.not_not.1 hst).symm, hs⟩

end First

end RenderTargets.App
