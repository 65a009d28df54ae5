import RenderTargets.Device
import RenderTargets.Proofs.Step.Triple
/-!
# Devices with a ledger

A user of a device can only account for its resources if the device says what making and releasing
do. A `Ledger` is that contract, stated for **any** device: `Live l s` says that `l` lists the live
resources of the device in `s`, the oldest first.

Releasing is only asked for in the opposite order of making. That is all a stack of owned resources
needs, and of the resource made last the contract demands that releasing it never fails.

## Audits

Whether a release fails is known to nobody once the error was passed over. An `Audited` device is a
device with a list of the releases that it refused beside it. It does the same as the device alone.
-/

namespace RenderTargets

open Log StepWith

variable {σ : Type} [GraphicsDevice σ]

/-- `Live l` says which resources are alive, and every operation of the device respects it. -/
structure Ledger (Live : List ResourceId → σ → Prop) : Prop where
  /-- Entries of the journal make and release nothing. -/
  journal : ∀ l s j, Live l s → Live l (HasJournal.journal.set j s)
  /-- A texture is new and the latest, or there is none. -/
  createTexture : ∀ l d, Meets (Live l) (GraphicsDevice.createTexture (σ := σ) d)
    (fun id ↦ Live (l ++ [.texture id])) fun _ ↦ Live l
  /-- A mesh is new and the latest, or there is none. -/
  createMesh : ∀ l d, Meets (Live l) (GraphicsDevice.createMesh (σ := σ) d)
    (fun id ↦ Live (l ++ [.mesh id])) fun _ ↦ Live l
  /-- A shader is new and the latest, or there is none. -/
  createShader : ∀ l d, Meets (Live l) (GraphicsDevice.createShader (σ := σ) d)
    (fun id ↦ Live (l ++ [.shader id])) fun _ ↦ Live l
  /-- A pipeline is new and the latest, or there is none. -/
  createPipeline : ∀ l d, Meets (Live l) (GraphicsDevice.createPipeline (σ := σ) d)
    (fun id ↦ Live (l ++ [.pipeline id])) fun _ ↦ Live l
  /-- A pass is new and the latest, or there is none. -/
  createPass : ∀ l d, Meets (Live l) (GraphicsDevice.createPass (σ := σ) d)
    (fun id ↦ Live (l ++ [.pass id])) fun _ ↦ Live l
  /-- The latest resource can be released. -/
  destroy : ∀ l id, Meets (Live (l ++ [id])) (GraphicsDevice.destroy (σ := σ) id)
    (fun _ ↦ Live l) fun _ _ ↦ False
  /-- Passes make and release nothing. -/
  beginPass : ∀ l p a, Keeps (Live l) (GraphicsDevice.beginPass (σ := σ) p a)
  /-- Rectangles make and release nothing. -/
  applyViewport : ∀ l r b, Keeps (Live l) (GraphicsDevice.applyViewport (σ := σ) r b)
  /-- Draw states make and release nothing. -/
  applyDrawState : ∀ l d, Keeps (Live l) (GraphicsDevice.applyDrawState (σ := σ) d)
  /-- Uniforms make and release nothing. -/
  applyUniforms : ∀ l t d, Keeps (Live l) (GraphicsDevice.applyUniforms (σ := σ) t d)
  /-- Draws make and release nothing. -/
  draw : ∀ l g, Keeps (Live l) (GraphicsDevice.draw (σ := σ) g)
  /-- Colors make and release nothing. -/
  fillRects : ∀ l c r, Keeps (Live l) (GraphicsDevice.fillRects (σ := σ) c r)
  /-- The end of a pass makes and releases nothing. -/
  endPass : ∀ l, Keeps (Live l) (GraphicsDevice.endPass : Step σ Unit)
  /-- Frames make and release nothing. -/
  commitFrame : ∀ l, Keeps (Live l) (GraphicsDevice.commitFrame : Step σ Unit)
  /-- The wish to quit makes and releases nothing. -/
  requestQuit : ∀ l, Keeps (Live l) (GraphicsDevice.requestQuit : Step σ Unit)

/-! ### Audits -/

/-- A device beside the releases that it refused, the latest last. -/
structure Audited (σ : Type) where
  /-- The device. -/
  device : σ
  /-- What it refused to release. -/
  refused : List ResourceId := []

namespace Audited

/-- The place of the device. -/
def deviceLens : Lens (Audited σ) σ := ⟨Audited.device, fun d s ↦ { s with device := d }⟩

/-- Something done with the device. -/
def pass {α : Type} (x : Step σ α) : Step (Audited σ) α := StepWith.within deviceLens x

/-- Releases a resource, and notes a refusal. -/
def destroy (id : ResourceId) : Step (Audited σ) Unit :=
  StepWith.undoingOnError (pass (GraphicsDevice.destroy id))
    (modify fun s ↦ { s with refused := s.refused ++ [id] })

instance : GraphicsDevice (Audited σ) where
  journal := deviceLens.comp HasJournal.journal
  features s := GraphicsDevice.features s.device
  maxColors s := GraphicsDevice.maxColors s.device
  display s := GraphicsDevice.display s.device
  createTexture d := pass (GraphicsDevice.createTexture d)
  createMesh d := pass (GraphicsDevice.createMesh d)
  createShader d := pass (GraphicsDevice.createShader d)
  createPipeline d := pass (GraphicsDevice.createPipeline d)
  createPass d := pass (GraphicsDevice.createPass d)
  destroy := destroy
  beginPass p a := pass (GraphicsDevice.beginPass p a)
  applyViewport r b := pass (GraphicsDevice.applyViewport r b)
  applyDrawState d := pass (GraphicsDevice.applyDrawState d)
  applyUniforms t d := pass (GraphicsDevice.applyUniforms t d)
  draw g := pass (GraphicsDevice.draw g)
  fillRects c r := pass (GraphicsDevice.fillRects c r)
  endPass := pass GraphicsDevice.endPass
  commitFrame := pass GraphicsDevice.commitFrame
  quitRequested s := GraphicsDevice.quitRequested s.device
  requestQuit := pass GraphicsDevice.requestQuit

/-- The ledger of the device, with no release refused. -/
def Clean (Live : List ResourceId → σ → Prop) (l : List ResourceId) (s : Audited σ) : Prop :=
  Live l s.device ∧ s.refused = []

omit [GraphicsDevice σ] in
/-- What a step does to the device it does to the device of an audit, and it refuses nothing. -/
theorem meets_pass {α : Type} {P : σ → Prop} {Q : α → σ → Prop} {E : EngineError → σ → Prop}
    {x : Step σ α} (h : Meets P x Q E) :
    Meets (fun s ↦ P s.device ∧ s.refused = []) (pass x)
      (fun a s ↦ Q a s.device ∧ s.refused = []) fun e s ↦ E e s.device ∧ s.refused = [] :=
  .within fun _ hs ↦ h.mono (fun _ ht ↦ ht ▸ hs.1) (fun _ _ hq ↦ ⟨hq, hs.2⟩)
    fun _ _ he ↦ ⟨he, hs.2⟩

theorem meets_destroy {Live : List ResourceId → σ → Prop} (L : Ledger Live) (l : List ResourceId)
    (id : ResourceId) :
    Meets (Clean Live (l ++ [id])) (destroy id) (fun _ ↦ Clean Live l) fun _ _ ↦ False :=
  (meets_pass (L.destroy l id)).undoingOnError fun _ _ hs ↦ hs.1.elim

/-- Under audit, a device that keeps its ledger refuses no release. -/
theorem ledger {Live : List ResourceId → σ → Prop} (L : Ledger Live) : Ledger (Clean Live) where
  journal l s j hs := ⟨L.journal l s.device j hs.1, hs.2⟩
  createTexture l d := meets_pass (L.createTexture l d)
  createMesh l d := meets_pass (L.createMesh l d)
  createShader l d := meets_pass (L.createShader l d)
  createPipeline l d := meets_pass (L.createPipeline l d)
  createPass l d := meets_pass (L.createPass l d)
  destroy := meets_destroy L
  beginPass l p a := meets_pass (L.beginPass l p a)
  applyViewport l r b := meets_pass (L.applyViewport l r b)
  applyDrawState l d := meets_pass (L.applyDrawState l d)
  applyUniforms l t d := meets_pass (L.applyUniforms l t d)
  draw l g := meets_pass (L.draw l g)
  fillRects l c r := meets_pass (L.fillRects l c r)
  endPass l := meets_pass (L.endPass l)
  commitFrame l := meets_pass (L.commitFrame l)
  requestQuit l := meets_pass (L.requestQuit l)

end Audited

end RenderTargets
