import RenderTargets.Proofs.Device.Attachments
import RenderTargets.Proofs.Vulkan.Device.Drawing
/-!
# Draw states that are refused

A recorder that refuses a draw state is as it was, so its pass uses the draw state that it took
last. A Vulkan device checks a draw state first and then binds it, and the **last** call of binding
may fail: the descriptor set for the images may not be had. The device refuses the draw state then,
but its pass uses the new pipeline and mesh all the same, and they can be drawn with.

So what holds of a Vulkan device holds up to a set that is lacking (`applyDrawState_refused`), and
does not hold when one is (`applyDrawState_refused_lacking`).
-/

namespace RenderTargets

open StepWith GraphicsDevice

variable {l : List (GraphicsDevice.Command × Option ResourceId)} {state : DrawState}
  {e : EngineError}

namespace Recorder

variable {r r' : Recorder} {s t : Recorder × Log.Journal} {c : GraphicsDevice.Command}
  {answer : Option ResourceId}

/-- The draw state that the pass uses. -/
def drawState? (r : Recorder) : Option DrawState := r.active.bind (·.drawState)

/-- A pass begins without a draw state. -/
theorem drawState_of_begins {pass : Option PassId} {action : PassAction} {a : ActivePass}
    {colors : List Vec4} (h : r.begins pass action = .ok (a, colors)) : a.drawState = none := by
  cases pass with
  | none =>
    cases h
    rfl
  | some id =>
    obtain ⟨d, head, rest, first, -, -, -, he⟩ := beginOffscreen_eq_ok_iff.1 h
    cases he
    rfl

/-- What a command puts to use, the pass uses. -/
theorem Accepts.drawState? (h : r.Accepts c answer r') : r'.drawState? = c.use r.drawState? := by
  cases h with
  | beginPass _ hbegins => exact drawState_of_begins hbegins
  | destroy hr =>
    rw [remove?_frame hr]
    rfl
  | applyDrawState | endPass => rfl
  | createTexture | createMesh | createShader | createPipeline | createPass | applyViewport
  | applyUniforms | draw | fillRects | commitFrame | requestQuit => rfl

/-- **The pass uses the draw state that was taken last in it.** -/
theorem Reached.drawState? (h : Reached l s) : s.1.drawState? = inUse (l.map Prod.fst) := by
  induction h with
  | start h =>
    obtain ⟨_, _, _, _, _, hs⟩ := h
    rw [hs]
    rfl
  | taken _ took ih =>
    obtain ⟨r', hr, rfl⟩ := answer_ok_iff.1 took
    rw [inUse, List.map_append, List.foldl_append]
    exact hr.drawState?.trans (congrArg (Command.use · _) ih)
  | refused _ hrefused ih =>
    rw [answer_error hrefused]
    exact ih
  | between _ done ih =>
    cases done
    exact ih

theorem applyDrawState_error (h : GraphicsDevice.applyDrawState state s = .error (.error e) t) :
    t.1 = s.1 := by
  have hanswer : (GraphicsDevice.Command.applyDrawState state).answer s = .error (.error e) t := by
    simp only [Command.answer, Command.perform, Functor.map, EStateM.map, h]
  exact answer_error hanswer

end Recorder

namespace Vulkan.Device

variable {s t : Device × Host}

/-- Only a set that could not be had leaves a trace of a draw state that was refused. -/
theorem applyDrawState_error (h : GraphicsDevice.applyDrawState state s = .error (.error e) t) :
    t.1 = s.1 ∧ t.2.driver = s.2.driver ∨
      ∃ pool layout code past, t.2.driver.calls = .failed .allocateDescriptorSets
        (.allocateDescriptorSet .null pool layout) code :: past := by
  have hrefuses : Refuses s.1 s.2 t := meets_applyDrawState_move.error ⟨rfl, rfl⟩ h
  cases hrefuses with
  | rests hrests => exact .inl hrests
  | misbinds _ hfailed => exact .inr ⟨_, _, _, _, hfailed⟩

end Vulkan.Device

namespace GraphicsDevice

open Vulkan

/-- **What a draw state that is refused changes.** A recorder is left alone, so its pass uses the
draw state that was taken last. So is a Vulkan device, unless a descriptor set could not be had: its
pass uses the draw state that was taken last, and a draw with images reads them through a set that
was written and bound for that draw state, unless a set is lacking. -/
theorem applyDrawState_refused (l : List (Command × Option ResourceId)) (state : DrawState)
    (e : EngineError) :
    (∀ s t : Recorder × Log.Journal,
      applyDrawState state s = .error (.error e) t → t.1 = s.1) ∧
      (∀ s : Recorder × Log.Journal, Recorder.Reached l s →
        s.1.drawState? = inUse (l.map Prod.fst)) ∧
      (∀ s t : Device × Host, applyDrawState state s = .error (.error e) t →
        t.1 = s.1 ∧ t.2.driver = s.2.driver ∨
          ∃ pool layout code past, t.2.driver.calls = .failed .allocateDescriptorSets
            (.allocateDescriptorSet .null pool layout) code :: past) ∧
      ∀ t : Device × Host, Device.Reached l t →
        (∀ a, t.1.active = some a →
          a.Uses (inUse (l.map Prod.fst)) ∨ LacksSet t.2.driver.calls) ∧
        ∀ later past b r, t.2.driver.calls = later ++ .record b r :: past → r.IsDraw →
          ∃ l' after s a p, l = l' ++ after ∧ Device.Reached l' s ∧ s.2.driver.calls = past ∧
            Device.Drawing (inUse (l'.map Prod.fst)) b a p s :=
  ⟨fun _ _ ↦ Recorder.applyDrawState_error, fun _ hs ↦ hs.drawState?,
    fun _ _ ↦ Device.applyDrawState_error, fun _ ht ↦
      ⟨fun _ ha ↦ ((Device.Reached.inPass ht).used _ ha).imp_right And.right,
        fun _ _ _ _ ↦ Device.Reached.exists_drawing ht⟩⟩

/-! ### Drawing with an image -/

/-- A shader whose second stage reads images: variables that are bound in set 0 at a binding. -/
def imagesShader (images : List (UInt32 × UInt32)) : ShaderDesc :=
  -- The header, what the module needs, how memory is used, and where a stage starts.
  let plain : List UInt32 :=
    [0x07230203, 0x10000, 0, 19, 0, 0x20011, 1, 0x3000e, 0, 1, 0x5000f, 0, 8, 0x6e69616d, 0]
  let bound := images.flatMap fun i ↦ [0x40047, i.1, 34, 0, 0x40047, i.1, 33, i.2]
  -- The variables are images with a sampler.
  let sampling : List UInt32 :=
    [0x30016, 1, 32, 0x90019, 4, 1, 1, 0, 0, 0, 1, 0, 0x3001b, 5, 4, 0x40020, 6, 0, 5]
  let declared := images.flatMap fun i ↦ [0x4003b, 6, i.1, 0]
  .ofCode "sampling" (plain.flatMap Word.bytes)
    ((plain ++ bound ++ sampling ++ declared).flatMap Word.bytes)

/-- A shader whose second stage reads an image. -/
def samplingShader : ShaderDesc := imagesShader [(7, 0)]

/-- A quad is drawn to the screen with a pipeline that reads a texture. -/
def samplingDraw : List Command :=
  [.createMesh (.fullScreenQuad true), .createShader samplingShader,
   .createPipeline (Device.plainPipeline ⟨1, .bgra8Unorm, some screenDepthFormat, 1⟩),
   .createTexture ⟨"color", 4, 4, .rgba8Unorm, .sampledAndRenderTarget, 1, none⟩,
   .beginPass none {}, .applyDrawState ⟨⟨1, 1⟩, ⟨1, 1⟩, [⟨1, 1⟩]⟩, .draw 0]

/-- A recorder whose screen is that of the pipeline. -/
def screenRecorder : Recorder :=
  .fresh .every 4 ⟨640, 480, .bgra8Unorm, some screenDepthFormat, 1⟩ none none

/-- A draw state of a pipeline that was never made. -/
def unknownState : DrawState := ⟨⟨9, 1⟩, ⟨1, 1⟩, []⟩

/-- The step is refused. -/
def refuses {σ α : Type} (x : Step σ α) (s : σ) : Bool :=
  match x s with
  | .error (.error _) _ => true
  | _ => false

theorem refuses_iff {σ α : Type} {x : Step σ α} {s : σ} :
    refuses x s ↔ ∃ e t, x s = .error (.error e) t := by
  rw [refuses]
  split
  · next e t hx => exact ⟨fun _ ↦ ⟨e, t, hx⟩, fun _ ↦ rfl⟩
  · next hx => exact ⟨nofun, fun ⟨e, t, he⟩ ↦ (hx e t he).elim⟩

/-- Both devices refuse a draw state after such a draw, which has a set of its own. -/
theorem applyDrawState_refused_samplingDraw :
    (∃ l e, ∃ s t : Recorder × Log.Journal, Recorder.Reached l s ∧
      applyDrawState unknownState s = .error (.error e) t ∧ t.1 = s.1 ∧
      s.1.drawState? = inUse (l.map Prod.fst)) ∧
      ∃ l e past b, ∃ t u : Device × Host, Device.Reached l t ∧
        applyDrawState unknownState t = .error (.error e) u ∧
        (u.1 = t.1 ∧ u.2.driver = t.2.driver ∨
          ∃ pool layout code past, u.2.driver.calls = .failed .allocateDescriptorSets
            (.allocateDescriptorSet .null pool layout) code :: past) ∧
        (∀ a, t.1.active = some a → a.Uses (inUse (l.map Prod.fst)) ∨ LacksSet t.2.driver.calls) ∧
        t.2.driver.calls = .record b (.drawIndexed 6 0) :: past ∧
        ∃ l' after s a p, l = l' ++ after ∧ Device.Reached l' s ∧ s.2.driver.calls = past ∧
          Device.Drawing (inUse (l'.map Prod.fst)) b a p s := by
  constructor
  · have hrun : (settleAll (samplingDraw.map Command.answer)
        (screenRecorder, ({} : Log.Journal))).any
          (refuses (applyDrawState unknownState)) := by decide +kernel
    obtain ⟨s, hs, hcheck⟩ := exists_accepted Recorder.IsFresh Recorder.Drains
      ⟨_, _, _, _, _, rfl⟩ hrun
    obtain ⟨e, t, ht⟩ := refuses_iff.1 hcheck
    obtain ⟨hrefused, huse, -⟩ := applyDrawState_refused
      (accepted samplingDraw (screenRecorder, ({} : Log.Journal))) unknownState e
    exact ⟨_, e, s, t, hs, ht, hrefused s t ht, huse s hs⟩
  · obtain ⟨s₀, hs₀, hcheck⟩ := Device.exists_new Device.plainSurface []
      (fun s ↦ (settleAll (samplingDraw.map Command.answer) s).any fun t ↦
        refuses (applyDrawState unknownState) t &&
          t.2.driver.calls.head? == some (.record ⟨1⟩ (.drawIndexed 6 0))) (by decide +kernel)
    obtain ⟨t, ht, hcheck⟩ := exists_accepted Device.IsNew Device.Happens hs₀ hcheck
    obtain ⟨hrefuses, hdraw⟩ := Bool.and_eq_true_iff.1 hcheck
    obtain ⟨e, u, hu⟩ := refuses_iff.1 hrefuses
    obtain ⟨past, hcalls⟩ := List.head?_eq_some_iff.1 (eq_of_beq hdraw)
    obtain ⟨-, -, hrefused, hreached⟩ :=
      applyDrawState_refused (accepted samplingDraw s₀) unknownState e
    obtain ⟨huse, hdraws⟩ := hreached t ht
    exact ⟨_, e, past, ⟨1⟩, t, u, ht, hu, hrefused t u hu, huse, hcalls,
      hdraws [] past ⟨1⟩ _ hcalls trivial⟩

/-- The set for the draw state could not be had. No draw state was taken, but the pass uses a
pipeline that reads an image, and a draw with it was recorded while no set was bound. -/
theorem applyDrawState_refused_lacking :
    ∃ l past b a p, ∃ t : Device × Host, Device.Reached l t ∧ inUse (l.map Prod.fst) = none ∧
      t.1.active = some a ∧ a.pipeline = some ⟨1, 1⟩ ∧ a.mesh = some ⟨1, 1⟩ ∧
      t.1.pipelines.get? ⟨1, 1⟩ = some p ∧ p.bindings ≠ [] ∧
      t.2.driver.calls = .record b (.drawIndexed 6 0) :: past ∧
      pipelineOf (contents b past) = some p.pipeline ∧ setOf (contents b past) = none := by
  obtain ⟨s, hs, hcheck⟩ := Device.exists_new Device.plainSurface
    [⟨.allocateDescriptorSets, 1, ⟨-1000069000⟩⟩]
    (fun s ↦ decide (inUse ((accepted samplingDraw s).map Prod.fst) = none) &&
      (settleAll (samplingDraw.map Command.answer) s).any fun t ↦
        t.1.active.any (fun a ↦ a.pipeline == some ⟨1, 1⟩ && a.mesh == some ⟨1, 1⟩) &&
        (t.1.pipelines.get? ⟨1, 1⟩).any fun p ↦ !p.bindings.isEmpty &&
          t.2.driver.calls.head? == some (.record ⟨1⟩ (.drawIndexed 6 0)) &&
          pipelineOf (contents ⟨1⟩ t.2.driver.calls.tail) == some p.pipeline &&
          setOf (contents ⟨1⟩ t.2.driver.calls.tail) == none) (by decide +kernel)
  obtain ⟨hnone, hcheck⟩ := Bool.and_eq_true_iff.1 hcheck
  obtain ⟨t, ht, hcheck⟩ := exists_accepted Device.IsNew Device.Happens hs hcheck
  obtain ⟨hactive, hpipeline⟩ := Bool.and_eq_true_iff.1 hcheck
  obtain ⟨a, ha, hstate⟩ := (Option.any_eq_true _ _).1 hactive
  obtain ⟨p, hp, hcheck⟩ := (Option.any_eq_true _ _).1 hpipeline
  simp only [Bool.and_eq_true, beq_iff_eq, Bool.not_eq_true', List.isEmpty_eq_false_iff]
    at hstate hcheck
  obtain ⟨⟨⟨hneeds, hdraw⟩, hbound⟩, hset⟩ := hcheck
  obtain ⟨past, hcalls⟩ := List.head?_eq_some_iff.1 hdraw
  rw [hcalls] at hbound hset
  exact ⟨_, past, ⟨1⟩, a, p, t, ht, of_decide_eq_true hnone, ha, hstate.1, hstate.2, hp, hneeds,
    hcalls, hbound, hset⟩

end GraphicsDevice

end RenderTargets
