import RenderTargets.App.Application
import RenderTargets.Proofs.Device.View
/-!
# The application on devices seen as others

The application talks to its device through the interface alone, so on two devices of which the one
is seen as the other it does the same. This is said of each of its steps, from the bottom up; a step
of the application beside a device is seen through `beside f`, which forgets what `f` forgets of the
device and nothing of the application.
-/

namespace RenderTargets.App

open StepWith

/-- The state beside what is seen of a device. -/
def beside {α σ τ : Type} (f : σ → τ) (s : α × σ) : α × τ := (s.1, f s.2)

variable {σ τ : Type} [GraphicsDevice σ] [GraphicsDevice τ] {f : σ → τ}

omit [GraphicsDevice σ] [GraphicsDevice τ] in
theorem seen_snd {α β : Type} {x : Step σ β} {y : Step τ β} (h : Seen f x y) :
    Seen (beside (α := α) f) (StepWith.within .snd x) (StepWith.within .snd y) :=
  h.within (fun _ ↦ rfl) fun _ _ ↦ rfl

omit [GraphicsDevice σ] [GraphicsDevice τ] in
/-- A part of what stands beside the device. -/
theorem seen_beside {α β γ : Type} {l : Lens α β} {x : Step (β × σ) γ} {y : Step (β × τ) γ}
    (h : Seen (beside f) x y) :
    Seen (beside f) (StepWith.within l.beside x) (StepWith.within l.beside y) :=
  h.within (fun _ ↦ rfl) fun _ _ ↦ rfl

theorem seen_note (V : View f) {α : Type} (severity : Log.Severity) (source message : String) :
    Seen (beside (α := α) f) (Log.note severity source message)
      (Log.note severity source message) := by
  intro s
  have h := V.note severity source message s.2
  injection h with _ h
  exact congrArg (fun t ↦ EStateM.Result.ok () (s.1, t)) h

/-! ### The arena -/

theorem seen_track (V : View f) (id : ResourceId) :
    Seen (beside f) (Arena.track id) (Arena.track id) :=
  (seen_note V _ _ _).bind fun _ ↦ .update fun _ ↦ rfl

theorem seen_releaseEach (V : View f) (ids : List ResourceId) (n : Nat) (e : Option EngineError) :
    Seen f (Arena.releaseEach ids n e) (Arena.releaseEach ids n e) := by
  induction ids generalizing n e with
  | nil =>
    cases e with
    | none => exact .pure _
    | some e => exact .fail e
  | cons id rest ih =>
    rw [Arena.releaseEach, Arena.releaseEach]
    refine (V.destroy id).attempt.bind fun r ↦ ?_
    cases r with
    | ok _ => exact ih _ _
    | error e => exact (V.note _ _ _).bind fun _ ↦ ih _ _

theorem seen_rollbackTo (V : View f) (mark : Nat) :
    Seen (beside f) (Arena.rollbackTo mark) (Arena.rollbackTo mark) := by
  rw [Arena.rollbackTo, Arena.rollbackTo]
  refine .get_bind fun s ↦ Seen.bind (.update fun _ ↦ rfl) fun _ ↦ ?_
  exact seen_snd (seen_releaseEach V _ _ _)

/-! ### Making -/

theorem seen_canShowScene (V : View f) : Seen f canShowScene canShowScene := by
  rw [canShowScene, canShowScene]
  refine .get_bind fun s ↦ ?_
  rw [GraphicsDevice.supports, GraphicsDevice.supports, V.features, V.maxColors]
  refine .ite ?_ (.ite ?_ ?_)
  all_goals exact (V.note _ _ _).bind fun _ ↦ .pure _

theorem seen_effectiveSamples (V : View f) (requested : UInt32) :
    Seen f (effectiveSamples requested) (effectiveSamples requested) := by
  rw [effectiveSamples, effectiveSamples]
  refine .get_bind fun s ↦ ?_
  rw [GraphicsDevice.supports, GraphicsDevice.supports, V.features]
  exact .ite ((V.note _ _ _).bind fun _ ↦ .pure _) (.pure _)

/-- A resource made and tracked. -/
theorem seen_make (V : View f) {κ : ResourceKind} {β : Type} {x : Step σ (Slot.Handle κ)}
    {y : Step τ (Slot.Handle κ)} {wrap : Slot.Handle κ → ResourceId}
    {k : Slot.Handle κ → Step (Arena × σ) β} {k' : Slot.Handle κ → Step (Arena × τ) β}
    (hx : Seen f x y) (hk : ∀ id, Seen (beside f) (k id) (k' id)) :
    Seen (beside f)
      (StepWith.within .snd x >>= fun id ↦ Arena.track (wrap id) >>= fun _ ↦ k id)
      (StepWith.within .snd y >>= fun id ↦ Arena.track (wrap id) >>= fun _ ↦ k' id) :=
  (seen_snd hx).bind fun id ↦ (seen_track V _).bind fun _ ↦ hk id

theorem seen_createTargets (V : View f) (b : TargetsBuilder) :
    Seen (beside f) b.create b.create := by
  have hsurface : ∀ i, Seen (beside f) (b.createSurface i) (b.createSurface i) :=
    fun i ↦ seen_make V (V.createTexture _) fun _ ↦ .pure _
  refine (hsurface 0).bind fun _ ↦ ?_
  refine (hsurface 1).bind fun _ ↦ ?_
  exact (hsurface 2).bind fun _ ↦ seen_make V (V.createPass _) fun _ ↦ .pure _

theorem seen_buildTargets (V : View f) (b : TargetsBuilder) :
    Seen (beside f) b.build b.build := by
  rw [TargetsBuilder.build, TargetsBuilder.build]
  refine .get_bind fun s ↦ ?_
  have hlimit : GraphicsDevice.maxColors (beside f s).2 = GraphicsDevice.maxColors s.2 :=
    (V.maxColors s.2).symm
  rw [hlimit]
  refine .ite (Seen.bind (.fail _) fun _ ↦ ?_) ?_
  all_goals
    refine .get_bind fun s ↦ (seen_createTargets V b).attempt.bind fun r ↦ ?_
    cases r with
    | ok targets => exact (seen_note V _ _ _).bind fun _ ↦ .pure _
    | error e =>
      refine (seen_rollbackTo V _).attempt.bind fun r ↦ ?_
      cases r with
      | ok n => exact .fail e
      | error r => exact (seen_note V _ _ _).bind fun _ ↦ .fail e

theorem seen_createOffscreen (V : View f) (shader : ShaderDesc) (targets : Targets)
    (config : Config) :
    Seen (beside f) (Offscreen.create shader targets config)
      (Offscreen.create shader targets config) := by
  rw [Offscreen.create, Offscreen.create]
  refine (Seen.ofChecked _).bind fun cube ↦ seen_make V (V.createMesh _) fun mesh ↦
    seen_make V (V.createShader _) fun shader ↦ seen_make V (V.createPipeline _) fun pipeline ↦ ?_
  exact .pure _

theorem seen_createComposite (V : View f) (shader : ShaderDesc) (targets : Targets)
    (config : Config) :
    Seen (beside f) (Composite.create shader targets config)
      (Composite.create shader targets config) := by
  rw [Composite.create, Composite.create]
  refine seen_make V (V.createMesh _) fun mesh ↦ seen_make V (V.createShader _) fun shader ↦
    .get_bind fun s ↦ ?_
  have hdisplay : GraphicsDevice.display (beside f s).2 = GraphicsDevice.display s.2 :=
    (V.display s.2).symm
  rw [hdisplay]
  refine seen_make V (V.createPipeline _) fun pipeline ↦ ?_
  exact (Seen.orTrap _).bind fun _ ↦ .pure _

theorem seen_createScene (V : View f) (a : Application) :
    Seen (beside f) a.createScene a.createScene := by
  refine (seen_snd (seen_effectiveSamples V _)).bind fun _ ↦ ?_
  refine (seen_buildTargets V _).bind fun _ ↦ ?_
  refine (seen_createOffscreen V _ _ _).bind fun _ ↦ ?_
  exact (seen_createComposite V _ _ _).bind fun _ ↦ .pure _

/-! ### Drawing -/

theorem seen_drawOffscreen (V : View f) (o : Offscreen) (targets : Targets) :
    Seen f (o.draw targets) (o.draw targets) := by
  refine (V.beginPass _ _).bind fun _ ↦ ?_
  refine (V.applyDrawState _).bind fun _ ↦ ?_
  exact (V.applyUniforms _ _).bind fun _ ↦ (V.draw _).bind fun _ ↦ V.endPass

theorem seen_drawComposite (V : View f) (c : Composite) : Seen f c.draw c.draw := by
  have hpanels : ∀ l, Seen f (c.drawPanels l) (c.drawPanels l) := by
    intro l
    induction l with
    | nil => exact .pure _
    | cons panel rest ih =>
      refine (V.applyViewport _ _).bind fun _ ↦ ?_
      exact (V.applyDrawState _).bind fun _ ↦ (V.draw _).bind fun _ ↦ ih
  exact (V.beginPass _ _).bind fun _ ↦ (hpanels _).bind fun _ ↦ V.endPass

theorem seen_flush (V : View f) : Seen (beside f) DebugText.flush DebugText.flush := by
  have hbatches : ∀ l : List Text.Batch,
      Seen f (DebugText.fillBatches l) (DebugText.fillBatches l) := by
    intro l
    induction l with
    | nil => exact .pure _
    | cons b rest ih => exact (V.fillRects _ _).bind fun _ ↦ ih
  rw [DebugText.flush, DebugText.flush]
  refine .get_bind fun s ↦ ?_
  refine (Seen.orTrap _).bind fun batches ↦ ?_
  refine (seen_snd (hbatches _)).bind fun _ ↦ ?_
  exact .update fun _ ↦ rfl

theorem seen_drawFallback (V : View f) : Seen (beside f) Fallback.draw Fallback.draw := by
  rw [Fallback.draw, Fallback.draw]
  refine .get_bind fun s ↦ ?_
  have hdisplay : GraphicsDevice.display (beside f s).2 = GraphicsDevice.display s.2 :=
    (V.display s.2).symm
  rw [show beside f s = (s.1, f s.2) from rfl] at hdisplay ⊢
  simp only [hdisplay]
  refine (Seen.orTrap _).bind fun place ↦ ?_
  refine (seen_snd (V.beginPass _ _)).bind fun _ ↦ ?_
  refine (Seen.orTrap _).bind fun text ↦ ?_
  refine Seen.bind (.update fun _ ↦ rfl) fun _ ↦ ?_
  refine (seen_beside (seen_flush V)).bind fun _ ↦ ?_
  exact seen_snd V.endPass

/-! ### The state machine -/

omit [GraphicsDevice σ] [GraphicsDevice τ] in
theorem seen_change {g : Application → Application} :
    Seen (beside f) (Application.change g) (Application.change g) :=
  .update fun _ ↦ rfl

theorem seen_releaseAll (V : View f) :
    Seen (beside f) (StepWith.within Application.arenaLens Arena.releaseAll)
      (StepWith.within Application.arenaLens Arena.releaseAll) :=
  seen_beside (seen_rollbackTo V 0)

theorem seen_onInit (V : View f) :
    Seen (beside f) Application.onInit Application.onInit := by
  rw [Application.onInit, Application.onInit]
  refine .get_bind fun s ↦ (seen_snd (seen_canShowScene V)).bind fun shown ↦ .ite ?_ ?_
  · exact seen_change.bind fun _ ↦ .pure _
  · refine (seen_beside (seen_createScene V s.1)).attempt.bind fun r ↦ ?_
    cases r with
    | ok scene => exact .get_bind fun s ↦ (seen_note V _ _ _).bind fun _ ↦ seen_change
    | error e =>
      refine (seen_note V _ _ _).bind fun _ ↦ (seen_releaseAll V).attempt.bind fun r ↦ ?_
      cases r with
      | ok n => exact .fail e
      | error r => exact (seen_note V _ _ _).bind fun _ ↦ .fail e

theorem seen_onRunning (V : View f) :
    Seen (beside f) Application.onRunning Application.onRunning := by
  have hdraw : Seen (beside f) Application.drawMode Application.drawMode := by
    rw [Application.drawMode, Application.drawMode]
    refine .get_bind fun s ↦ ?_
    rw [show (beside f s).1 = s.1 from rfl]
    split
    · refine seen_change.bind fun _ ↦ ?_
      exact (seen_snd (seen_drawOffscreen V _ _)).bind fun _ ↦ seen_snd (seen_drawComposite V _)
    · exact (seen_drawFallback V).within (fun _ ↦ rfl) fun _ _ ↦ rfl
    · exact .pure _
  rw [Application.onRunning, Application.onRunning]
  refine hdraw.bind fun _ ↦ ?_
  refine (seen_snd V.commitFrame).bind fun _ ↦ ?_
  refine .get_bind fun s ↦ ?_
  rw [show (beside f s).2 = f s.2 from rfl, ← V.quitRequested]
  exact .pure _

theorem seen_onCleanup (V : View f) :
    Seen (beside f) Application.onCleanup Application.onCleanup := by
  rw [Application.onCleanup, Application.onCleanup]
  refine .get_bind fun s ↦ seen_change.bind fun _ ↦ .ite (.pure _) ?_
  exact (seen_releaseAll V).bind fun n ↦ (seen_note V _ _ _).bind fun _ ↦ .pure _

theorem seen_tick (V : View f) : Seen (beside f) Application.tick Application.tick := by
  have hnext : Seen (beside f) Application.next Application.next := by
    rw [Application.next, Application.next]
    refine .get_bind fun s ↦ ?_
    rw [show (beside f s).1 = s.1 from rfl]
    split
    · refine (seen_onInit V).attempt.bind fun r ↦ ?_
      cases r with
      | ok _ => exact .pure _
      | error e => exact seen_change.bind fun _ ↦ .fail e
    · exact seen_onRunning V
    · exact (seen_onCleanup V).bind fun _ ↦ .pure _
    · exact .pure _
  rw [Application.tick, Application.tick]
  refine hnext.bind fun st ↦ .get_bind fun s ↦ .ite ?_ (.pure _)
  exact (seen_note V _ _ _).bind fun _ ↦ seen_change.bind fun _ ↦ .pure _

end RenderTargets.App
