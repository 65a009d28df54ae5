import RenderTargets.Proofs.Device.Command
import RenderTargets.Proofs.Recorder.Ledger
/-!
# What a recorder accepts

`Recorder.Accepts r c answer r'` says that the recorder `r` takes the command `c`, answers the
handle `answer` if it makes something, and is `r'` afterwards. There is one constructor for each
command, or for each of its branches, with **all that is checked** before the command is taken.

It is what the steps do: a command answers exactly when it is accepted, leaves the journal alone,
and a command that fails leaves the recorder as it was (`answer_ok_iff`, `answer_error`). So what
holds of runs of the recorder is proved from `Accepts` alone, and a command is shown to be taken by
its checks.
-/

namespace RenderTargets.Recorder

open Log StepWith

/-- The texture is alive and can be sampled. -/
def Samples (r : Recorder) (id : TextureId) : Prop :=
  ∃ t, r.textures.get? id = some t ∧ (t.samples > 1 → id ∈ r.resolved)

/-- The next resource of a kind is not the one to refuse. -/
def Enrolls (r : Recorder) (kind : ResourceKind) : Prop :=
  r.failAt ≠ some (kind, r.created.count kind + 1)

/-- The pass as it begins, with the color of each attachment. -/
def begins (r : Recorder) :
    Option PassId → PassAction → Checked EngineError (ActivePass × List Vec4)
  | some id, action => r.beginOffscreen id action
  | none, action => .ok (r.beginScreen action)

open GraphicsDevice in
/-- The recorder takes a command, answers and becomes another. -/
inductive Accepts (r : Recorder) : GraphicsDevice.Command → Option ResourceId → Recorder → Prop
  /-- A texture is made. -/
  | createTexture {d id textures} (valid : d.validate = .ok ()) (enrolled : r.Enrolls .texture)
      (stored : r.textures.insert? d = some (id, textures)) :
      Accepts r (.createTexture d) (some (.texture id))
        { r with
          textures, created := r.created.bump .texture, order := r.order ++ [.texture id] }
  /-- A mesh is made. -/
  | createMesh {d id meshes} (valid : d.validate = .ok ()) (enrolled : r.Enrolls .mesh)
      (stored : r.meshes.insert? d = some (id, meshes)) :
      Accepts r (.createMesh d) (some (.mesh id))
        { r with meshes, created := r.created.bump .mesh, order := r.order ++ [.mesh id] }
  /-- A shader is made. -/
  | createShader {d id shaders} (valid : d.validate = .ok ()) (enrolled : r.Enrolls .shader)
      (stored : r.shaders.insert? d = some (id, shaders)) :
      Accepts r (.createShader d) (some (.shader id))
        { r with shaders, created := r.created.bump .shader, order := r.order ++ [.shader id] }
  /-- A pipeline is made of a shader that is alive. -/
  | createPipeline {d id pipelines} (valid : d.validate = .ok ())
      (shader : r.shaders.contains d.shader) (enrolled : r.Enrolls .pipeline)
      (stored : r.pipelines.insert? d = some (id, pipelines)) :
      Accepts r (.createPipeline d) (some (.pipeline id))
        { r with
          pipelines, created := r.created.bump .pipeline, order := r.order ++ [.pipeline id] }
  /-- A pass is made of textures that fit each other. -/
  | createPass {d id passes} (valid : d.validate r.maxColors = .ok ())
      (attachments : r.checkAttachments none d.textures = .ok ())
      (depth : r.checkDepth d.depth = .ok ()) (enrolled : r.Enrolls .pass)
      (stored : r.passes.insert? d = some (id, passes)) :
      Accepts r (.createPass d) (some (.pass id))
        { r with passes, created := r.created.bump .pass, order := r.order ++ [.pass id] }
  /-- A resource that is alive is released. -/
  | destroy {id r'} (removed : r.remove? id = some r') :
      Accepts r (.destroy id) none { r' with destroyed := r'.destroyed.bump id.kind }
  /-- A pass begins outside of a pass. -/
  | beginPass {pass action a colors} (idle : r.active = none)
      (begins : r.begins pass action = .ok (a, colors)) :
      Accepts r (.beginPass pass action) none
        { r with active := some a, commands := r.commands ++ [.beginPass pass colors] }
  /-- Drawing is restricted inside a pass. -/
  | applyViewport {rect topLeft a} (inside : r.active = some a) :
      Accepts r (.applyViewport rect topLeft) none
        { r with commands := r.commands ++ [.viewport rect topLeft] }
  /-- A draw state is bound that is alive and fits the pass. -/
  | applyDrawState {state a p} (inside : r.active = some a)
      (pipeline : r.pipelines.get? state.pipeline = some p) (mesh : r.meshes.contains state.mesh)
      (sampled : ∀ id ∈ state.textures, r.Samples id)
      (apart : ∀ id ∈ state.textures, id ∉ a.attachments) (fits : p.signature = a.signature) :
      Accepts r (.applyDrawState state) none
        { r with
          active := some { a with drawState := some state }
          commands := r.commands ++ [.drawState state] }
  /-- Uniforms are set after a draw state. -/
  | applyUniforms {stage data a} (inside : r.active = some a) (bound : a.drawState.isSome) :
      Accepts r (.applyUniforms stage data) none
        { r with commands := r.commands ++ [.uniforms stage data] }
  /-- A group that the mesh of the draw state has is drawn. -/
  | draw {group a state} (inside : r.active = some a) (bound : a.drawState = some state)
      (group_lt : group < (r.meshes.get? state.mesh).elim 0 (·.groups.length)) :
      Accepts r (.draw group) none { r with commands := r.commands ++ [.draw group] }
  /-- Rectangles are filled inside a pass. -/
  | fillRects {color rects a} (inside : r.active = some a) :
      Accepts r (.fillRects color rects) none
        { r with commands := r.commands ++ [.fillRects color rects] }
  /-- The pass ends. -/
  | endPass {a} (inside : r.active = some a) :
      Accepts r .endPass none
        { r with
          active := none
          resolved := if r.resolvesAtEnd a then r.resolved ++ a.attachments else r.resolved
          commands := r.commands ++ [.endPass] }
  /-- The frame is committed outside of a pass. -/
  | commitFrame (idle : r.active = none) :
      Accepts r .commitFrame none
        { r with
          frames := r.frames + 1
          quit := r.quit || r.quitAfter.any (· ≤ r.frames + 1)
          commands := r.commands ++ [.commitFrame] }
  /-- The window is asked to close. -/
  | requestQuit : Accepts r .requestQuit none { r with quit := true }

variable {r r' : Recorder} {j : Journal} {α β : Type}

/-! ### Parts of commands -/

/-- A pass into textures begins when the pass and its first texture are alive. -/
theorem beginOffscreen_eq_ok_iff {id : PassId} {action : PassAction} {p : ActivePass × List Vec4} :
    r.beginOffscreen id action = .ok p ↔ ∃ d head rest first, r.passes.get? id = some d ∧
      d.textures = head :: rest ∧ r.textures.get? head = some first ∧
      p = ({ pass := some id
             signature := ⟨UInt32.ofNat d.textures.length, first.format,
               d.depth.bind fun t ↦ (r.textures.get? t).bind (·.depth), first.samples⟩
             attachments := d.textures }, d.clearColors action) := by
  rw [beginOffscreen]
  rcases hd : r.passes.get? id with _ | d
  · simp
  rcases ht : d.textures with _ | ⟨head, rest⟩
  · simp [ht]
  rcases hf : r.textures.get? head with _ | first
  · simp [ht, hf]
  · simp [ht, hf, pure, Except.pure, eq_comm]

/-- Releasing changes nothing but the stores. -/
theorem remove?_frame {id : ResourceId} (h : r.remove? id = some r') :
    r' = { r with
      textures := r'.textures, meshes := r'.meshes, shaders := r'.shaders
      pipelines := r'.pipelines, passes := r'.passes } := by
  cases id <;> obtain ⟨p, -, rfl⟩ := Option.map_eq_some_iff.1 h <;> rfl

/-! ### Steps from one recorder -/

/-- From the recorder and the journal the step answers exactly as `Q` says, and if it fails the
recorder is as it was. -/
structure Decides (r : Recorder) (j : Journal) (x : Recording α)
    (Q : α → Recorder × Journal → Prop) :
    Prop where
  /-- The answers. -/
  ok : ∀ a s, x (r, j) = .ok a s ↔ Q a s
  /-- A failure leaves the recorder alone. -/
  error : ∀ e s, x (r, j) = .error (.error e) s → s.1 = r

namespace Decides

variable {x : Recording α} {k : Recording β} {f : α → Recording β} {p : Prop} {c : Command}
  {Q : β → Recorder × Journal → Prop}

/-- A failure that changes at most the journal. -/
theorem of_error {x : Recording β} {e : EngineError} {t : Recorder × Journal}
    (hx : x (r, j) = .error (.error e) t) (ht : t.1 = r) : Decides r j x fun _ _ ↦ False where
  ok _ _ := by simp [hx]
  error _ _ h := by
    rw [hx] at h
    cases h
    exact ht

theorem of_trap {x : Recording β} {t : Recorder × Journal} (hx : x (r, j) = .error .trap t) :
    Decides r j x fun _ _ ↦ False where
  ok _ _ := by simp [hx]
  error _ _ h := by simp [hx] at h

theorem of_ok {x : Recording β} {b : β} {t : Recorder × Journal} (hx : x (r, j) = .ok b t) :
    Decides r j x fun b' s ↦ b' = b ∧ s = t where
  ok _ _ := by simp [hx, eq_comm]
  error _ _ h := by simp [hx] at h

theorem congr {x : Recording β} {Q' : β → Recorder × Journal → Prop} (h : Decides r j x Q)
    (hQ : ∀ b s, Q b s ↔ Q' b s) : Decides r j x Q' :=
  ⟨fun b s ↦ (h.ok b s).trans (hQ b s), h.error⟩

/-- Steps with one result decide the same. -/
theorem of_eq {x y : Recording β} (h : Decides r j y Q) (hxy : x (r, j) = y (r, j)) :
    Decides r j x Q := by
  refine ⟨fun b s ↦ ?_, fun e s ↦ ?_⟩ <;> rw [hxy]
  · exact h.ok b s
  · exact h.error e s

/-- What is checked first is known of every answer. -/
theorem guard {x : Recording β} (hyes : p → Decides r j x Q)
    (hno : ¬p → Decides r j x fun _ _ ↦ False) : Decides r j x fun b s ↦ p ∧ Q b s := by
  by_cases hp : p
  · exact (hyes hp).congr fun b s ↦ by simp [hp]
  · exact (hno hp).congr fun b s ↦ by simp [hp]

theorem current {f : Recorder → Recording β} (h : Decides r j (f r) Q) :
    Decides r j (Recorder.current >>= f) Q :=
  h.of_eq rfl

theorem pure_bind {a : α} (h : Decides r j (f a) Q) : Decides r j (pure a >>= f) Q :=
  h.of_eq rfl

/-- A refusal that is not gone on after. -/
theorem refuseIf [Decidable p] {source : String} {cause : BackendCause}
    (h : ¬p → Decides r j k Q) :
    Decides r j (if p then (Log.refuse source cause : Recording Unit) >>= fun _ ↦ k else k)
      fun b s ↦ ¬p ∧ Q b s := by
  refine guard (fun hp ↦ (h hp).of_eq (by rw [if_neg hp])) fun hp ↦ ?_
  rw [if_pos (not_not.1 hp)]
  exact of_error rfl rfl

/-- A failure that is not gone on after. -/
theorem failIf [Decidable p] {e : EngineError} (h : ¬p → Decides r j k Q) :
    Decides r j (if p then (StepWith.fail e : Recording Unit) >>= fun _ ↦ k else k)
      fun b s ↦ ¬p ∧ Q b s := by
  refine guard (fun hp ↦ (h hp).of_eq (by rw [if_neg hp])) fun hp ↦ ?_
  rw [if_pos (not_not.1 hp)]
  exact of_error rfl rfl

/-- A value that may be missing. -/
theorem ofChecked {c : Checked EngineError α} {R : α → β → Recorder × Journal → Prop}
    (h : ∀ a, c = .ok a → Decides r j (f a) (R a)) :
    Decides r j (StepWith.ofChecked c >>= f) fun b s ↦ ∃ a, c = .ok a ∧ R a b s := by
  rcases c with (e | _) | a
  · exact (of_error rfl rfl).congr (by simp)
  · exact (of_trap rfl).congr (by simp)
  · exact ((h a rfl).of_eq rfl).congr (by simp)

theorem orFail {o : Option α} {e : EngineError} {R : α → β → Recorder × Journal → Prop}
    (h : ∀ a, o = some a → Decides r j (f a) (R a)) :
    Decides r j (StepWith.orFail e o >>= f) fun b s ↦ ∃ a, o = some a ∧ R a b s := by
  rcases o with _ | a
  · exact (of_error rfl rfl).congr (by simp)
  · exact ((h a rfl).of_eq rfl).congr (by simp)

theorem accept {ε : Type} {cause : ε → InvalidCause} {c : Except ε Unit}
    (h : c = .ok () → Decides r j k Q) :
    Decides r j (Recorder.accept cause c >>= fun _ ↦ k) fun b s ↦ c = .ok () ∧ Q b s := by
  rcases c with e | ⟨⟩
  · exact (of_error rfl rfl).congr (by simp)
  · exact ((h rfl).of_eq rfl).congr (by simp)

/-- A step that only checks and what comes after it. -/
theorem check {y : Recording Unit} (hy : Decides r j y fun _ s ↦ p ∧ s = (r, j))
    (h : p → Decides r j k Q) : Decides r j (y >>= fun _ ↦ k) fun b s ↦ p ∧ Q b s := by
  rcases hx : y (r, j) with ⟨u, t⟩ | ⟨e | _, t⟩
  · obtain ⟨hp, rfl⟩ := (hy.ok u t).1 hx
    exact ((h hp).of_eq (bind_ok hx)).congr fun b s ↦ by simp [hp]
  all_goals
    have hp : ¬p := fun hp ↦ by
      have := (hy.ok () (r, j)).2 ⟨hp, rfl⟩
      simp [hx] at this
  · exact ((of_error (bind_error hx) (hy.error _ _ hx)).congr fun b s ↦ by simp [hp])
  · refine ⟨fun b s ↦ ?_, fun e s h ↦ ?_⟩
    · simp [bind_error hx, hp]
    · simp [bind_error hx] at h

theorem activePass {name : String} {f : ActivePass → Recording β}
    {R : ActivePass → β → Recorder × Journal → Prop}
    (h : ∀ a, r.active = some a → Decides r j (f a) (R a)) :
    Decides r j (Recorder.activePass name >>= f) fun b s ↦ ∃ a, r.active = some a ∧ R a b s := by
  rcases ha : r.active with _ | a
  · have hx : Recorder.activePass name (r, j) =
        (Log.refuse source (.outsidePass name) : Recording ActivePass) (r, j) := by
      obtain ⟨⟩ := r
      obtain rfl := ha
      rfl
    exact (of_error (bind_error hx) rfl).congr (by simp)
  · have hx : Recorder.activePass name (r, j) = .ok a (r, j) := by
      obtain ⟨⟩ := r
      obtain rfl := ha
      rfl
    exact ((h a ha).of_eq (bind_ok hx)).congr (by simp)

theorem record : Decides r j (Recorder.record c) fun _ s ↦
    s = ({ r with commands := r.commands ++ [c] }, j) where
  ok a s := ⟨fun h ↦ (EStateM.Result.ok.inj h).2.symm, fun h ↦ h ▸ rfl⟩
  error e s h := by cases h

theorem change_record {g : Recorder → Recorder} :
    Decides r j (Recorder.change g >>= fun _ ↦ Recorder.record c) fun _ s ↦
      s = ({ g r with commands := (g r).commands ++ [c] }, j) where
  ok a s := ⟨fun h ↦ (EStateM.Result.ok.inj h).2.symm, fun h ↦ h ▸ rfl⟩
  error e s h := by cases h

theorem change {g : Recorder → Recorder} :
    Decides r j (Recorder.change g) fun _ s ↦ s = (g r, j) where
  ok a s := ⟨fun h ↦ (EStateM.Result.ok.inj h).2.symm, fun h ↦ h ▸ rfl⟩
  error e s h := by cases h

/-- A resource is counted, unless it is the one to refuse, and stored. -/
theorem store {κ : Type} {tag : κ} {kind : ResourceKind} {a : α} {m : Recorder → Slot.Map tag α}
    {g : Slot.Handle tag × Slot.Map tag α → Recorder → Recorder}
    (hm : ∀ created, m { r with created } = m r) :
    Decides r j (enroll kind >>= fun _ ↦ Recorder.current >>= fun r ↦
      StepWith.orTrap ((m r).insert? a) >>= fun p ↦ Recorder.change (g p) >>= fun _ ↦ pure p.1)
      fun id s ↦ r.Enrolls kind ∧ ∃ stored, (m r).insert? a = some (id, stored) ∧
        s = (g (id, stored) { r with created := r.created.bump kind }, j) := by
  have hrefused : enroll kind (r, j) = (if r.failAt = some (kind, r.created.count kind + 1) then
      Log.refuse source (.injected kind (r.created.count kind + 1))
    else Recorder.change fun r ↦ { r with created := r.created.bump kind }) (r, j) := rfl
  refine guard (fun hk ↦ ?_) fun hk ↦ ?_
  · rw [if_neg hk] at hrefused
    have hput : (enroll kind >>= fun _ ↦ Recorder.current >>= fun r ↦
        StepWith.orTrap ((m r).insert? a) >>= fun p ↦ Recorder.change (g p) >>= fun _ ↦ pure p.1)
        (r, j) = (StepWith.orTrap ((m r).insert? a) >>= fun p ↦ Recorder.change (g p) >>= fun _ ↦
          pure p.1) ({ r with created := r.created.bump kind }, j) := by
      rw [bind_ok hrefused, ← hm (r.created.bump kind)]
      rfl
    rcases hi : (m r).insert? a with _ | ⟨id, stored⟩ <;> rw [hi] at hput
    · exact (of_trap (hput.trans rfl)).congr (by simp)
    · exact (of_ok (hput.trans rfl)).congr (by grind)
  · rw [if_pos (not_not.1 hk)] at hrefused
    exact of_error (bind_error hrefused) rfl

/-- An answer that is then changed. -/
theorem map {R : α → Recorder × Journal → Prop} {f : α → β} (h : Decides r j x R) :
    Decides r j (f <$> x) fun b s ↦ ∃ a, f a = b ∧ R a s := by
  rcases hx : x (r, j) with ⟨a, t⟩ | ⟨e, t⟩
  · have hfx : (f <$> x) (r, j) = .ok (f a) t := by simp only [Functor.map, EStateM.map, hx]
    refine (of_ok hfx).congr fun b s ↦ ⟨?_, ?_⟩
    · rintro ⟨rfl, rfl⟩
      exact ⟨a, rfl, (h.ok a s).1 hx⟩
    · rintro ⟨a', rfl, hs⟩
      cases hx.symm.trans ((h.ok a' s).2 hs)
      exact ⟨rfl, rfl⟩
  · have hfx : (f <$> x) (r, j) = .error e t := by simp only [Functor.map, EStateM.map, hx]
    have hnone : ∀ b s, ¬∃ a, f a = b ∧ R a s := by
      rintro b s ⟨a, rfl, hs⟩
      cases hx.symm.trans ((h.ok a s).2 hs)
    cases e with
    | error e => exact (of_error hfx (h.error e t hx)).congr fun b s ↦ by simp [hnone b s]
    | trap => exact (of_trap hfx).congr fun b s ↦ by simp [hnone b s]

end Decides

/-! ### Every command -/

/-- The recorder decides the command as `Accepts` says. -/
def DecidesBy (r : Recorder) (j : Journal) (c : GraphicsDevice.Command) : Prop :=
  Decides r j c.answer fun a s ↦ ∃ r', r.Accepts c a r' ∧ s = (r', j)

theorem decides_createTexture (d : TextureDesc) : r.DecidesBy j (.createTexture d) := by
  refine Decides.congr (.map <| .accept fun _ ↦ .store (m := textures) fun _ ↦ rfl)
    fun _ s ↦ ⟨?_, ?_⟩
  · rintro ⟨_, rfl, hv, hk, m, hm, rfl⟩
    exact ⟨_, .createTexture hv hk hm, rfl⟩
  · rintro ⟨_, hr, rfl⟩
    cases hr with
    | createTexture hv hk hm => exact ⟨_, rfl, hv, hk, _, hm, rfl⟩

theorem decides_createMesh (d : MeshDesc) : r.DecidesBy j (.createMesh d) := by
  have hvalid : ∀ u, d.validate.mapError (fun e ↦ EngineError.invalid (.mesh d.name e)) = .ok u ↔
      d.validate = .ok () := by
    rintro ⟨⟩
    cases d.validate <;> simp [Checked.mapError]
  refine Decides.congr (.map <| .ofChecked fun _ _ ↦ .store (m := meshes) fun _ ↦ rfl)
    fun _ s ↦ ⟨?_, ?_⟩
  · rintro ⟨_, rfl, _, hv, hk, m, hm, rfl⟩
    exact ⟨_, .createMesh ((hvalid _).1 hv) hk hm, rfl⟩
  · rintro ⟨_, hr, rfl⟩
    cases hr with
    | createMesh hv hk hm => exact ⟨_, rfl, (), (hvalid _).2 hv, hk, _, hm, rfl⟩

theorem decides_createShader (d : ShaderDesc) : r.DecidesBy j (.createShader d) := by
  refine Decides.congr (.map <| .accept fun _ ↦ .store (m := shaders) fun _ ↦ rfl)
    fun _ s ↦ ⟨?_, ?_⟩
  · rintro ⟨_, rfl, hv, hk, m, hm, rfl⟩
    exact ⟨_, .createShader hv hk hm, rfl⟩
  · rintro ⟨_, hr, rfl⟩
    cases hr with
    | createShader hv hk hm => exact ⟨_, rfl, hv, hk, _, hm, rfl⟩

theorem decides_createPipeline (d : PipelineDesc) : r.DecidesBy j (.createPipeline d) := by
  refine Decides.congr (.map <| .accept fun _ ↦ .current <| .failIf fun _ ↦
    .store (m := pipelines) fun _ ↦ rfl) fun _ s ↦ ⟨?_, ?_⟩
  · rintro ⟨_, rfl, hv, hs, hk, m, hm, rfl⟩
    exact ⟨_, .createPipeline hv (by simpa using hs) hk hm, rfl⟩
  · rintro ⟨_, hr, rfl⟩
    cases hr with
    | createPipeline hv hs hk hm => exact ⟨_, rfl, hv, by simpa using hs, hk, _, hm, rfl⟩

theorem decides_createPass (d : PassDesc) : r.DecidesBy j (.createPass d) := by
  have hpass : Decides r j (createPass d) _ :=
    .current <| .accept fun _ ↦ .accept fun _ ↦ .accept fun _ ↦ .store (m := passes) fun _ ↦ rfl
  refine Decides.congr (.map hpass) fun _ s ↦ ⟨?_, ?_⟩
  · rintro ⟨_, rfl, hv, ha, hd, hk, m, hm, rfl⟩
    exact ⟨_, .createPass hv ha hd hk hm, rfl⟩
  · rintro ⟨_, hr, rfl⟩
    cases hr with
    | createPass hv ha hd hk hm => exact ⟨_, rfl, hv, ha, hd, hk, _, hm, rfl⟩

theorem decides_destroy (id : ResourceId) : r.DecidesBy j (.destroy id) := by
  have hcases : Decides r j (destroy id) fun _ s ↦ ∃ r', r.remove? id = some r' ∧
      s = ({ r' with destroyed := r'.destroyed.bump id.kind }, j) := by
    refine .current ?_
    rcases hr : r.remove? id with _ | r'
    · exact (Decides.of_error rfl rfl).congr (by simp)
    · exact Decides.change.congr (by simp)
  refine Decides.congr (.map hcases) fun _ s ↦ ⟨?_, ?_⟩
  · rintro ⟨_, rfl, r', hr, rfl⟩
    exact ⟨_, .destroy hr, rfl⟩
  · rintro ⟨_, hr, rfl⟩
    cases hr with
    | destroy hr => exact ⟨(), rfl, _, hr, rfl⟩

theorem decides_beginPass (pass : Option PassId) (action : PassAction) :
    r.DecidesBy j (.beginPass pass action) := by
  have hbegins : Decides r j (beginPass pass action) fun _ s ↦ ¬r.active.isSome = true ∧
      ∃ a, r.begins pass action = .ok a ∧
        s = ({ r with
          active := some a.1, commands := r.commands ++ [.beginPass pass a.2] }, j) := by
    refine .current ?_
    refine .refuseIf fun _ ↦ ?_
    cases pass with
    | some id => exact .ofChecked fun a _ ↦ .change_record
    | none =>
      refine Decides.congr (.pure_bind .change_record) fun _ s ↦ ?_
      simp [begins, beginScreen]
  refine Decides.congr (.map hbegins) fun _ s ↦ ⟨?_, ?_⟩
  · rintro ⟨_, rfl, hidle, ⟨a, colors⟩, hb, rfl⟩
    exact ⟨_, .beginPass (by simpa using hidle) hb, rfl⟩
  · rintro ⟨_, hr, rfl⟩
    cases hr with
    | beginPass hidle hb => exact ⟨(), rfl, by simp [hidle], _, hb, rfl⟩

theorem decides_applyViewport (rect : Rect) (topLeft : Bool) :
    r.DecidesBy j (.applyViewport rect topLeft) := by
  refine Decides.congr (.map <| .activePass fun a _ ↦ .record) fun _ s ↦ ⟨?_, ?_⟩
  · rintro ⟨_, rfl, a, ha, rfl⟩
    exact ⟨_, .applyViewport ha, rfl⟩
  · rintro ⟨_, hr, rfl⟩
    cases hr with
    | applyViewport ha => exact ⟨(), rfl, _, ha, rfl⟩

theorem decides_checkSampled (ids : List TextureId) :
    Decides r j (checkSampled ids) fun _ s ↦ (∀ id ∈ ids, r.Samples id) ∧ s = (r, j) := by
  induction ids with
  | nil => exact (Decides.of_ok rfl).congr (by simp)
  | cons id rest ih =>
    rw [checkSampled]
    refine .current ?_
    rcases ht : r.textures.get? id with _ | t
    · exact (Decides.of_error rfl rfl).congr (by simp [Samples, ht])
    · refine (Decides.refuseIf fun _ ↦ ih).congr fun _ s ↦ ?_
      have hsamples : r.Samples id ↔ ¬(t.samples > 1 && !r.resolved.contains id) = true := by
        simp [Samples, ht, Decidable.imp_iff_not_or]
      rw [List.forall_mem_cons, ← hsamples, and_assoc]

theorem decides_applyDrawState (state : DrawState) : r.DecidesBy j (.applyDrawState state) := by
  have hbound : Decides r j (applyDrawState state) _ :=
    .current <| .orFail fun p hp ↦ .failIf fun _ ↦ .check (decides_checkSampled _) fun _ ↦
      .activePass fun a _ ↦ .refuseIf fun _ ↦ .refuseIf fun _ ↦ .change_record
  refine Decides.congr (.map hbound) fun _ s ↦ ⟨?_, ?_⟩
  · rintro ⟨_, rfl, p, hp, hm, hs, a, ha, hapart, hfits, rfl⟩
    have hapart : ∀ id ∈ state.textures, id ∉ a.attachments := by simpa using hapart
    exact ⟨_, .applyDrawState ha hp (by simpa using hm) hs hapart (by simpa using hfits), rfl⟩
  · rintro ⟨_, hr, rfl⟩
    cases hr with
    | applyDrawState ha hp hm hs hapart hfits =>
      exact ⟨(), rfl, _, hp, by simpa using hm, hs, _, ha, by simpa using hapart,
        by simpa using hfits, rfl⟩

theorem decides_applyUniforms (stage : ShaderStage) (data : List UInt8) :
    r.DecidesBy j (.applyUniforms stage data) := by
  refine Decides.congr (.map <| .activePass fun a _ ↦ .refuseIf fun _ ↦ .record)
    fun _ s ↦ ⟨?_, ?_⟩
  · rintro ⟨_, rfl, a, ha, hb, rfl⟩
    exact ⟨_, .applyUniforms ha (by simpa [Option.isSome_iff_ne_none] using hb), rfl⟩
  · rintro ⟨_, hr, rfl⟩
    cases hr with
    | applyUniforms ha hb =>
      exact ⟨(), rfl, _, ha, by simpa [Option.isSome_iff_ne_none] using hb, rfl⟩

theorem decides_draw (group : Nat) : r.DecidesBy j (.draw group) := by
  have hdraw : Decides r j (draw group) fun _ s ↦ ∃ a, r.active = some a ∧
      ∃ state, a.drawState = some state ∧
        ¬((r.meshes.get? state.mesh).elim 0 (·.groups.length) ≤ group) ∧
        s = ({ r with commands := r.commands ++ [.draw group] }, j) := by
    refine .activePass fun a _ ↦ ?_
    rcases a.drawState with _ | state
    · exact Decides.congr (.of_error rfl rfl) (by simp)
    · exact .congr (.current <| .refuseIf fun _ ↦ .record) (by simp)
  refine Decides.congr (.map hdraw) fun _ s ↦ ⟨?_, ?_⟩
  · rintro ⟨_, rfl, a, ha, state, hb, hg, rfl⟩
    exact ⟨_, .draw ha hb (Nat.lt_of_not_le hg), rfl⟩
  · rintro ⟨_, hr, rfl⟩
    cases hr with
    | draw ha hb hg => exact ⟨(), rfl, _, ha, _, hb, Nat.not_le_of_lt hg, rfl⟩

theorem decides_fillRects (color : Vec4) (rects : List Rect) :
    r.DecidesBy j (.fillRects color rects) := by
  refine Decides.congr (.map <| .activePass fun a _ ↦ .record) fun _ s ↦ ⟨?_, ?_⟩
  · rintro ⟨_, rfl, a, ha, rfl⟩
    exact ⟨_, .fillRects ha, rfl⟩
  · rintro ⟨_, hr, rfl⟩
    cases hr with
    | fillRects ha => exact ⟨(), rfl, _, ha, rfl⟩

theorem decides_endPass : r.DecidesBy j .endPass := by
  have hend : Decides r j endPass fun _ s ↦ ∃ a, r.active = some a ∧
      s = ({ r with
        active := none
        resolved := if r.resolvesAtEnd a then r.resolved ++ a.attachments else r.resolved
        commands := r.commands ++ [.endPass] }, j) := by
    refine .current ?_
    rcases r.active with _ | a
    · exact Decides.congr (.of_error rfl rfl) (by simp)
    · exact Decides.congr .change_record (by simp)
  refine Decides.congr (.map hend) fun _ s ↦ ⟨?_, ?_⟩
  · rintro ⟨_, rfl, a, ha, rfl⟩
    exact ⟨_, .endPass ha, rfl⟩
  · rintro ⟨_, hr, rfl⟩
    cases hr with
    | endPass ha => exact ⟨(), rfl, _, ha, rfl⟩

theorem decides_commitFrame : r.DecidesBy j .commitFrame := by
  have hcommit : Decides r j commitFrame _ := .current <| .refuseIf fun _ ↦ .change_record
  refine Decides.congr (.map hcommit) fun _ s ↦ ⟨?_, ?_⟩
  · rintro ⟨_, rfl, hidle, rfl⟩
    exact ⟨_, .commitFrame (by simpa using hidle), rfl⟩
  · rintro ⟨_, hr, rfl⟩
    cases hr with
    | commitFrame hidle => exact ⟨(), rfl, by simp [hidle], rfl⟩

theorem decides_requestQuit : r.DecidesBy j .requestQuit := by
  have hquit : Decides r j requestQuit _ := .change
  refine Decides.congr (.map hquit) fun _ s ↦ ⟨?_, ?_⟩
  · rintro ⟨_, rfl, rfl⟩
    exact ⟨_, .requestQuit, rfl⟩
  · rintro ⟨_, hr, rfl⟩
    cases hr with
    | requestQuit => exact ⟨(), rfl, rfl⟩

/-- Every command is decided as `Accepts` says. -/
theorem decides (c : GraphicsDevice.Command) : r.DecidesBy j c := by
  cases c with
  | createTexture d => exact decides_createTexture d
  | createMesh d => exact decides_createMesh d
  | createShader d => exact decides_createShader d
  | createPipeline d => exact decides_createPipeline d
  | createPass d => exact decides_createPass d
  | destroy id => exact decides_destroy id
  | beginPass pass action => exact decides_beginPass pass action
  | applyViewport rect topLeft => exact decides_applyViewport rect topLeft
  | applyDrawState state => exact decides_applyDrawState state
  | applyUniforms stage data => exact decides_applyUniforms stage data
  | draw group => exact decides_draw group
  | fillRects color rects => exact decides_fillRects color rects
  | endPass => exact decides_endPass
  | commitFrame => exact decides_commitFrame
  | requestQuit => exact decides_requestQuit

/-- A command answers exactly when it is accepted, and leaves the journal alone. -/
theorem answer_ok_iff {c : GraphicsDevice.Command} {a : Option ResourceId}
    {s : Recorder × Journal} : c.answer (r, j) = .ok a s ↔ ∃ r', r.Accepts c a r' ∧ s = (r', j) :=
  (decides c).ok a s

/-- A command that fails leaves the recorder as it was. -/
theorem answer_error {c : GraphicsDevice.Command} {e : EngineError} {s : Recorder × Journal}
    (h : c.answer (r, j) = .error (.error e) s) : s.1 = r :=
  (decides c).error e s h

/-- A command that is accepted does what `Accepts` says. -/
theorem Accepts.perform {c : GraphicsDevice.Command} {a : Option ResourceId}
    (h : r.Accepts c a r') : (c.perform : Recording Unit) (r, j) = .ok () (r', j) := by
  rw [← c.map_answer]
  simp only [Functor.map, EStateM.map, answer_ok_iff.2 ⟨r', h, rfl⟩]

/-- What is known of an accepted command is known of its step. -/
theorem meets_perform {c : GraphicsDevice.Command} {P : Recorder × Journal → Prop}
    {Q : Unit → Recorder × Journal → Prop} {E : EngineError → Recorder × Journal → Prop}
    (hok : ∀ r j a r', P (r, j) → r.Accepts c a r' → Q () (r', j))
    (herr : ∀ r j e j', P (r, j) → E e (r, j')) : Meets P c.perform Q E := by
  rw [← c.map_answer]
  refine .map fun s hs ↦ ?_
  rcases hx : c.answer s with ⟨a, t⟩ | ⟨e | _, ⟨r', j'⟩⟩
  · obtain ⟨r', hr, rfl⟩ := answer_ok_iff.1 hx
    exact hok s.1 s.2 a r' hs hr
  · obtain rfl : r' = s.1 := answer_error hx
    exact herr s.1 s.2 e j' hs
  · trivial

end RenderTargets.Recorder
