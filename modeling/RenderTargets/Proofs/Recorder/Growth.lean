import RenderTargets.Proofs.Recorder.Accepts
/-!
# Recorders that grow

Making resources only adds to a recorder: `r.Extends r'` says that `r'` still finds everything that
`r` finds, and that apart from the stores and their tallies it is `r`. What a step makes is found
afterwards, and extensions compose, so a sequence of such steps is read off without a look at slots.
-/

namespace RenderTargets.Recorder

open Log StepWith

/-- Resources were made and nothing else was done. -/
structure Extends (r r' : Recorder) : Prop where
  /-- Textures are found as before. -/
  texture : ∀ {h d}, r.textures.get? h = some d → r'.textures.get? h = some d
  /-- Meshes are found as before. -/
  mesh : ∀ {h d}, r.meshes.get? h = some d → r'.meshes.get? h = some d
  /-- Shaders are found as before. -/
  shader : ∀ {h d}, r.shaders.get? h = some d → r'.shaders.get? h = some d
  /-- Pipelines are found as before. -/
  pipeline : ∀ {h d}, r.pipelines.get? h = some d → r'.pipelines.get? h = some d
  /-- Passes are found as before. -/
  pass : ∀ {h d}, r.passes.get? h = some d → r'.passes.get? h = some d
  /-- The rest is as it was. -/
  rest : r' = { r with
    textures := r'.textures, meshes := r'.meshes, shaders := r'.shaders
    pipelines := r'.pipelines, passes := r'.passes, created := r'.created, order := r'.order }

variable {r r' r'' : Recorder} {α : Type}

theorem Extends.refl (r : Recorder) : r.Extends r := ⟨id, id, id, id, id, rfl⟩

theorem Extends.trans (h : r.Extends r') (h' : r'.Extends r'') : r.Extends r'' where
  texture := h'.texture ∘ h.texture
  mesh := h'.mesh ∘ h.mesh
  shader := h'.shader ∘ h.shader
  pipeline := h'.pipeline ∘ h.pipeline
  pass := h'.pass ∘ h.pass
  rest := by rw [h'.rest, h.rest]

/-- The step makes something that is found afterwards. -/
def Makes (x : Recording α) (Found : α → Recorder → Prop) : Prop :=
  ∀ r, Meets (fun s ↦ s.1 = r) x (fun a s ↦ r.Extends s.1 ∧ Found a s.1) fun _ _ ↦ True

theorem Makes.of_answer {c : GraphicsDevice.Command} {x : Recording α} {wrap : α → ResourceId}
    {Found : α → Recorder → Prop} (hx : c.answer = (some ∘ wrap) <$> x)
    (h : ∀ (r : Recorder) a r', r.Accepts c (some (wrap a)) r' → r.Extends r' ∧ Found a r') :
    Makes x Found := by
  rintro _ ⟨r, j⟩ rfl
  rcases hs : x (r, j) with ⟨a, t⟩ | ⟨e | _, t⟩
  · have hans : c.answer (r, j) = .ok (some (wrap a)) t := by
      rw [hx]
      simp only [Functor.map, EStateM.map, hs, Function.comp]
    obtain ⟨r', hr, rfl⟩ := answer_ok_iff.1 hans
    exact h r a r' hr
  · trivial
  · trivial

theorem makes_createTexture (d : TextureDesc) :
    Makes (createTexture d) fun id r ↦ r.textures.get? id = some d :=
  .of_answer (c := .createTexture d) rfl fun r a r' h ↦ by
    cases h with
    | createTexture _ _ hi =>
      exact ⟨⟨Slot.Map.get?_insert?_of_get? hi, id, id, id, id, rfl⟩,
        Slot.Map.get?_insert?_self hi⟩

theorem makes_createMesh (d : MeshDesc) :
    Makes (createMesh d) fun id r ↦ r.meshes.get? id = some d :=
  .of_answer (c := .createMesh d) rfl fun r a r' h ↦ by
    cases h with
    | createMesh _ _ hi =>
      exact ⟨⟨id, Slot.Map.get?_insert?_of_get? hi, id, id, id, rfl⟩,
        Slot.Map.get?_insert?_self hi⟩

theorem makes_createShader (d : ShaderDesc) :
    Makes (createShader d) fun id r ↦ r.shaders.get? id = some d :=
  .of_answer (c := .createShader d) rfl fun r a r' h ↦ by
    cases h with
    | createShader _ _ hi =>
      exact ⟨⟨id, id, Slot.Map.get?_insert?_of_get? hi, id, id, rfl⟩,
        Slot.Map.get?_insert?_self hi⟩

theorem makes_createPipeline (d : PipelineDesc) :
    Makes (createPipeline d) fun id r ↦ r.pipelines.get? id = some d :=
  .of_answer (c := .createPipeline d) rfl fun r a r' h ↦ by
    cases h with
    | createPipeline _ _ _ hi =>
      exact ⟨⟨id, id, id, Slot.Map.get?_insert?_of_get? hi, id, rfl⟩,
        Slot.Map.get?_insert?_self hi⟩

theorem makes_createPass (d : PassDesc) :
    Makes (createPass d) fun id r ↦ r.passes.get? id = some d :=
  .of_answer (c := .createPass d) rfl fun r a r' h ↦ by
    cases h with
    | createPass _ _ _ _ hi =>
      exact ⟨⟨id, id, id, id, Slot.Map.get?_insert?_of_get? hi, rfl⟩,
        Slot.Map.get?_insert?_self hi⟩

end RenderTargets.Recorder
