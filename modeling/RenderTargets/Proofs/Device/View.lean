import RenderTargets.Proofs.Device.Ledger
/-!
# Devices seen as others

A device may keep more than another one and do the same otherwise. `StepWith.Seen f x y` says that
the step `x`, of whose states `f` forgets a part, **is** the step `y`: the same answers, the same
errors and the same traps, from every state.

`View f` says so of every operation of a device. What is written against the interface of graphics
devices is then the same on both, which is why an audit (`Audited`) can be trusted: it sees what
happens and has no part in it.
-/

namespace RenderTargets

open Log

namespace StepWith

variable {ε σ σ' τ τ' α β : Type}

/-- A result with its state seen through `f`. -/
def seenResult (f : σ → τ) : EStateM.Result (Fault ε) σ α → EStateM.Result (Fault ε) τ α
  | .ok a s => .ok a (f s)
  | .error e s => .error e (f s)

/-- Seen through `f`, the step `x` is the step `y`. -/
def Seen (f : σ → τ) (x : StepWith ε σ α) (y : StepWith ε τ α) : Prop :=
  ∀ s, seenResult f (x s) = y (f s)

variable {f : σ → τ} {x : StepWith ε σ α} {y : StepWith ε τ α}

theorem Seen.pure (a : α) : Seen f (Pure.pure a : StepWith ε σ α) (Pure.pure a) := fun _ ↦ rfl

theorem Seen.fail (e : ε) : Seen f (StepWith.fail e : StepWith ε σ α) (StepWith.fail e) :=
  fun _ ↦ rfl

theorem Seen.update {g : σ → σ} {g' : τ → τ} (h : ∀ s, f (g s) = g' (f s)) :
    Seen f (modify g : StepWith ε σ PUnit) (modify g') :=
  fun s ↦ congrArg (EStateM.Result.ok PUnit.unit) (h s)

theorem Seen.ofChecked (c : Checked ε α) :
    Seen f (StepWith.ofChecked c : StepWith ε σ α) (StepWith.ofChecked c) := by
  cases c <;> exact fun _ ↦ rfl

theorem Seen.orTrap (o : Option α) :
    Seen f (StepWith.orTrap o : StepWith ε σ α) (StepWith.orTrap o) :=
  .ofChecked _

theorem Seen.bind {k : α → StepWith ε σ β} {k' : α → StepWith ε τ β} (hx : Seen f x y)
    (hk : ∀ a, Seen f (k a) (k' a)) : Seen f (x >>= k) (y >>= k') := by
  intro s
  have h := hx s
  rcases hxs : x s with ⟨a, t⟩ | ⟨e, t⟩ <;> rw [hxs] at h
  · rw [bind_ok hxs, bind_ok h.symm]
    exact hk a t
  · rw [bind_error hxs, bind_error h.symm]
    rfl

/-- What is looked at is seen as well. -/
theorem Seen.get_bind {k : σ → StepWith ε σ β} {k' : τ → StepWith ε τ β}
    (hk : ∀ s, Seen f (k s) (k' (f s))) : Seen f (get >>= k) (get >>= k') :=
  fun s ↦ hk s s

theorem Seen.ite {c : Prop} [Decidable c] {x' : StepWith ε σ α} {y' : StepWith ε τ α}
    (hx : Seen f x y) (hx' : Seen f x' y') :
    Seen f (if c then x else x') (if c then y else y') := by
  split
  · exact hx
  · exact hx'

theorem Seen.attempt (hx : Seen f x y) : Seen f (StepWith.attempt x) (StepWith.attempt y) := by
  intro s
  rw [StepWith.attempt, StepWith.attempt, ← hx s]
  rcases x s with ⟨a, t⟩ | ⟨e | _, t⟩ <;> rfl

/-- A part seen as another, of states seen as others. -/
theorem Seen.within {g : σ' → τ'} {l : Lens σ' σ} {l' : Lens τ' τ} (hx : Seen f x y)
    (hget : ∀ s, f (l.get s) = l'.get (g s)) (hset : ∀ t s, g (l.set t s) = l'.set (f t) (g s)) :
    Seen g (StepWith.within l x) (StepWith.within l' y) := by
  intro s
  rw [StepWith.within, StepWith.within, ← hget, ← hx]
  rcases x (l.get s) with ⟨a, t⟩ | ⟨e, t⟩
  · exact congrArg _ (hset t s)
  · exact congrArg _ (hset t s)

/-- Runs seen as others end where these end. -/
theorem Seen.settleAll {ι : Type} {g : ι → StepWith ε σ α} {g' : ι → StepWith ε τ α}
    (h : ∀ c, Seen f (g c) (g' c)) (cs : List ι) (s : σ) :
    (settleAll (cs.map g) s).map f = settleAll (cs.map g') (f s) := by
  induction cs generalizing s with
  | nil => rfl
  | cons c cs ih =>
    have hs := h c s
    rw [List.map_cons, List.map_cons, StepWith.settleAll, StepWith.settleAll, settle, settle, ← hs]
    rcases g c s with ⟨a, t⟩ | ⟨e | _, t⟩
    · exact ih t
    · exact ih t
    · rfl

end StepWith

open StepWith

variable {σ τ : Type} [GraphicsDevice σ] [GraphicsDevice τ]

/-- Seen through `f`, the one device is the other. -/
structure View (f : σ → τ) : Prop where
  /-- The journals are the same. -/
  journal_get : ∀ s, (HasJournal.journal.get s : Journal) = HasJournal.journal.get (f s)
  /-- Entries are written into both. -/
  journal_set : ∀ (j : Journal) s, f (HasJournal.journal.set j s) = HasJournal.journal.set j (f s)
  /-- Both can do the same. -/
  features : ∀ s, GraphicsDevice.features s = GraphicsDevice.features (f s)
  /-- Both bind as many attachments. -/
  maxColors : ∀ s, GraphicsDevice.maxColors s = GraphicsDevice.maxColors (f s)
  /-- The screens look the same. -/
  display : ∀ s, GraphicsDevice.display s = GraphicsDevice.display (f s)
  /-- Both were asked to quit, or none. -/
  quitRequested : ∀ s, GraphicsDevice.quitRequested s = GraphicsDevice.quitRequested (f s)
  /-- Textures are made alike. -/
  createTexture : ∀ d, Seen f (GraphicsDevice.createTexture d) (GraphicsDevice.createTexture d)
  /-- Meshes are made alike. -/
  createMesh : ∀ d, Seen f (GraphicsDevice.createMesh d) (GraphicsDevice.createMesh d)
  /-- Shaders are made alike. -/
  createShader : ∀ d, Seen f (GraphicsDevice.createShader d) (GraphicsDevice.createShader d)
  /-- Pipelines are made alike. -/
  createPipeline : ∀ d, Seen f (GraphicsDevice.createPipeline d) (GraphicsDevice.createPipeline d)
  /-- Passes are made alike. -/
  createPass : ∀ d, Seen f (GraphicsDevice.createPass d) (GraphicsDevice.createPass d)
  /-- Resources are released alike. -/
  destroy : ∀ id, Seen f (GraphicsDevice.destroy id) (GraphicsDevice.destroy id)
  /-- Passes begin alike. -/
  beginPass : ∀ p a, Seen f (GraphicsDevice.beginPass p a) (GraphicsDevice.beginPass p a)
  /-- Rectangles restrict alike. -/
  applyViewport : ∀ r b,
    Seen f (GraphicsDevice.applyViewport r b) (GraphicsDevice.applyViewport r b)
  /-- Draw states are bound alike. -/
  applyDrawState : ∀ d, Seen f (GraphicsDevice.applyDrawState d) (GraphicsDevice.applyDrawState d)
  /-- Uniforms are passed on alike. -/
  applyUniforms : ∀ t d,
    Seen f (GraphicsDevice.applyUniforms t d) (GraphicsDevice.applyUniforms t d)
  /-- Groups are drawn alike. -/
  draw : ∀ g, Seen f (GraphicsDevice.draw g) (GraphicsDevice.draw g)
  /-- Rectangles are filled alike. -/
  fillRects : ∀ c r, Seen f (GraphicsDevice.fillRects c r) (GraphicsDevice.fillRects c r)
  /-- Passes end alike. -/
  endPass : Seen f GraphicsDevice.endPass GraphicsDevice.endPass
  /-- Frames are committed alike. -/
  commitFrame : Seen f GraphicsDevice.commitFrame GraphicsDevice.commitFrame
  /-- Wishes to quit are alike. -/
  requestQuit : Seen f GraphicsDevice.requestQuit GraphicsDevice.requestQuit

/-- Entries of both journals are the same. -/
theorem View.note {f : σ → τ} (V : View f) (severity : Severity) (source message : String) :
    Seen f (Log.note severity source message) (Log.note severity source message) :=
  .update fun s ↦ by rw [V.journal_set, V.journal_get]

namespace Audited

omit [GraphicsDevice σ] in
theorem seen_pass {α : Type} (x : Step σ α) : Seen device (pass x) x := by
  intro s
  rw [pass, StepWith.within]
  rcases hx : x s.device with ⟨a, t⟩ | ⟨e, t⟩ <;> simp only [deviceLens, hx] <;> rfl

theorem seen_destroy (id : ResourceId) :
    Seen device (destroy (σ := σ) id) (GraphicsDevice.destroy id) := by
  intro s
  rw [destroy, undoingOnError, pass, StepWith.within]
  rcases hx : (GraphicsDevice.destroy id : Step σ Unit) s.device with ⟨a, t⟩ | ⟨e | _, t⟩ <;>
    simp only [deviceLens, hx] <;> rfl

/-- An audited device is the device alone. -/
theorem view : View (device (σ := σ)) where
  journal_get _ := rfl
  journal_set _ _ := rfl
  features _ := rfl
  maxColors _ := rfl
  display _ := rfl
  quitRequested _ := rfl
  createTexture _ := seen_pass _
  createMesh _ := seen_pass _
  createShader _ := seen_pass _
  createPipeline _ := seen_pass _
  createPass _ := seen_pass _
  destroy := seen_destroy
  beginPass _ _ := seen_pass _
  applyViewport _ _ := seen_pass _
  applyDrawState _ := seen_pass _
  applyUniforms _ _ := seen_pass _
  draw _ := seen_pass _
  fillRects _ _ := seen_pass _
  endPass := seen_pass _
  commitFrame := seen_pass _
  requestQuit := seen_pass _

end Audited

end RenderTargets
