import RenderTargets.Device
/-!
# Commands of a device

What can be done with a graphics device, as data, so that a run on a device is a list.

## Replaying

A device refuses some of the commands that it is given. `accepted` are those that it takes, with the
handles that it answers, and `Replays R` says that **another device takes them as well**, answers
the same, and that `R` holds of the two devices after every command.

A command that is refused is not replayed, so `R` also says that it changed nothing that `R` sees.
After a trap there is no device, and nothing is replayed any more.
-/

namespace RenderTargets.GraphicsDevice

/-- A step of a device. -/
inductive Command where
  /-- Makes a texture. -/
  | createTexture (t : TextureDesc)
  /-- Makes a mesh. -/
  | createMesh (m : MeshDesc)
  /-- Makes a shader. -/
  | createShader (s : ShaderDesc)
  /-- Makes a pipeline. -/
  | createPipeline (p : PipelineDesc)
  /-- Makes a pass. -/
  | createPass (p : PassDesc)
  /-- Releases a resource. -/
  | destroy (id : ResourceId)
  /-- Begins a pass. -/
  | beginPass (pass : Option PassId) (action : PassAction)
  /-- Restricts drawing. -/
  | applyViewport (rect : Rect) (topLeft : Bool)
  /-- Binds what is drawn with. -/
  | applyDrawState (state : DrawState)
  /-- Passes uniforms on. -/
  | applyUniforms (stage : ShaderStage) (data : List UInt8)
  /-- Draws. -/
  | draw (group : Nat)
  /-- Fills rectangles. -/
  | fillRects (color : Vec4) (rects : List Rect)
  /-- Ends the pass. -/
  | endPass
  /-- Commits the frame. -/
  | commitFrame
  /-- Asks the window to close. -/
  | requestQuit

/-- The step of a command. What it answers is passed over. -/
def Command.perform {σ : Type} [GraphicsDevice σ] : Command → Step σ Unit
  | createTexture t => (fun _ ↦ ()) <$> GraphicsDevice.createTexture t
  | createMesh m => (fun _ ↦ ()) <$> GraphicsDevice.createMesh m
  | createShader s => (fun _ ↦ ()) <$> GraphicsDevice.createShader s
  | createPipeline p => (fun _ ↦ ()) <$> GraphicsDevice.createPipeline p
  | createPass p => (fun _ ↦ ()) <$> GraphicsDevice.createPass p
  | destroy id => GraphicsDevice.destroy id
  | beginPass pass action => GraphicsDevice.beginPass pass action
  | applyViewport rect topLeft => GraphicsDevice.applyViewport rect topLeft
  | applyDrawState state => GraphicsDevice.applyDrawState state
  | applyUniforms stage data => GraphicsDevice.applyUniforms stage data
  | draw group => GraphicsDevice.draw group
  | fillRects color rects => GraphicsDevice.fillRects color rects
  | endPass => GraphicsDevice.endPass
  | commitFrame => GraphicsDevice.commitFrame
  | requestQuit => GraphicsDevice.requestQuit

variable {σ : Type} [GraphicsDevice σ]

/-- The step of a command with the handle that it answers, if it makes something. -/
def Command.answer : Command → Step σ (Option ResourceId)
  | createTexture t => (some ∘ .texture) <$> GraphicsDevice.createTexture t
  | createMesh m => (some ∘ .mesh) <$> GraphicsDevice.createMesh m
  | createShader s => (some ∘ .shader) <$> GraphicsDevice.createShader s
  | createPipeline p => (some ∘ .pipeline) <$> GraphicsDevice.createPipeline p
  | createPass p => (some ∘ .pass) <$> GraphicsDevice.createPass p
  | c => (fun _ ↦ none) <$> c.perform

/-- Passing the answer over leaves the step of the command. -/
theorem Command.map_answer (c : Command) :
    (fun _ ↦ ()) <$> c.answer = (c.perform : Step σ Unit) := by
  cases c <;> simp only [answer, perform, Functor.map_map] <;> exact id_map _

/-! ### What is in use -/

/-- The draw state in use after a command that was taken, if `u` was in use before. -/
def Command.use (u : Option DrawState) : Command → Option DrawState
  | applyDrawState state => some state
  | beginPass .. | endPass => none
  | _ => u

/-- The draw state that the last of some commands put to use in the pass they end in. -/
def inUse (l : List Command) : Option DrawState := l.foldl Command.use none

end RenderTargets.GraphicsDevice

/-! ### Replaying -/

namespace RenderTargets.GraphicsDevice

variable {σ τ : Type} [GraphicsDevice σ] [GraphicsDevice τ]

/-- The commands that a device takes, with the handles that it answers. It goes on after errors, but
not after a trap. -/
def accepted : List Command → σ → List (Command × Option ResourceId)
  | [], _ => []
  | c :: rest, s =>
    match c.answer s with
    | .ok a t => (c, a) :: accepted rest t
    | .error (.error _) t => accepted rest t
    | .error .trap _ => []

/-- The second device takes what the first one takes and answers the same, and `R` holds of them at
the start and after every command. -/
def Replays (R : σ → τ → Prop) : List Command → σ → τ → Prop
  | [], s, t => R s t
  | c :: rest, s, t => R s t ∧
    match c.answer s with
    | .ok a s' => ∃ t', c.answer t = .ok a t' ∧ Replays R rest s' t'
    | .error (.error _) s' => Replays R rest s' t
    | .error .trap _ => True

variable {R : σ → τ → Prop} {commands : List Command} {s : σ} {t : τ}

/-- What is taken is taken in the order in which it was given. -/
theorem sublist_accepted : ((accepted commands s).map Prod.fst).Sublist commands := by
  induction commands generalizing s with
  | nil => exact .slnil
  | cons c rest ih =>
    rw [accepted]
    split
    · exact .cons_cons c ih
    · exact .cons c ih
    · exact List.nil_sublist _

/-- Given just what the first device takes, the second one takes all of it. -/
theorem Replays.accepted_eq (h : Replays R commands s t) :
    accepted ((accepted commands s).map Prod.fst) t = accepted commands s := by
  induction commands generalizing s t with
  | nil => rfl
  | cons c rest ih =>
    have h := h.2
    rw [accepted]
    rcases hc : c.answer s with ⟨a, s'⟩ | ⟨_ | _, s'⟩ <;> rw [hc] at h <;> dsimp only at h ⊢
    · obtain ⟨t', ht, h⟩ := h
      rw [List.map_cons, accepted, ht]
      dsimp only
      rw [ih h]
    · exact ih h
    · rfl

/-- Devices that stand in a relation after every history of accepted commands, as long as the
history has a property of all its beginnings. -/
theorem Replays.of_step {I : List (Command × Option ResourceId) → σ → τ → Prop}
    {P : List (Command × Option ResourceId) → Prop} (hR : ∀ l s t, I l s t → R s t)
    (hok : ∀ l (c : Command) s t a s', I l s t → c.answer s = .ok a s' → P (l ++ [(c, a)]) →
      ∃ t', c.answer t = .ok a t' ∧ I (l ++ [(c, a)]) s' t')
    (herr : ∀ l (c : Command) s t e s', I l s t → c.answer s = .error (.error e) s' → I l s' t)
    {l : List (Command × Option ResourceId)} (hI : I l s t)
    (hP : ∀ k, k <+: l ++ accepted commands s → P k) : Replays R commands s t := by
  induction commands generalizing l s t with
  | nil => exact hR l s t hI
  | cons c rest ih =>
    refine ⟨hR l s t hI, ?_⟩
    rw [accepted] at hP
    rcases hc : c.answer s with ⟨a, s'⟩ | ⟨e | _, s'⟩ <;> rw [hc] at hP <;> dsimp only at hP ⊢
    · rw [List.append_cons] at hP
      obtain ⟨t', ht, hI'⟩ := hok l c s t a s' hI hc (hP _ (List.prefix_append ..))
      exact ⟨t', ht, ih hI' hP⟩
    · exact ih (herr l c s t e s' hI hc) hP

end RenderTargets.GraphicsDevice
