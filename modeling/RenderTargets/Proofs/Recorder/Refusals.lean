import RenderTargets.Proofs.Device.DrawStates
/-!
# Refusals of a recorder

A recorder refuses a command for many reasons: a description does not make sense, a handle is
unknown, the resource is the one to refuse, the order is wrong, a pipeline does not fit the pass, a
texture was not resolved, a group is out of range. Several of them are found out late, after the
recorder looked at its pass or counted.

Whatever the reason is, **a command that is refused changes nothing** but the journal. So a recorder
that is given just the commands that another one takes is the same recorder at all times and answers
the same (`answer_atomic`).
-/

namespace RenderTargets.Recorder

open Log StepWith GraphicsDevice

/-- **A command that is refused changes nothing in the recorder.** So it may as well be left out: a
recorder that is given only what is taken answers the same and is the same after every command. -/
theorem answer_atomic (commands : List GraphicsDevice.Command) (s : Recorder × Journal) :
    (∀ (c : GraphicsDevice.Command) (e : EngineError) (t : Recorder × Journal),
      c.answer s = .error (.error e) t → t.1 = s.1) ∧
      ∀ j, Replays (fun u v : Recorder × Journal ↦ u.1 = v.1) commands s (s.1, j) := by
  refine ⟨fun _ _ _ ↦ answer_error, fun j ↦ ?_⟩
  refine Replays.of_step (I := fun _ u v ↦ u.1 = v.1) (P := fun _ ↦ True) (fun _ _ _ h ↦ h)
    (fun l c u v a u' huv hc _ ↦ ?_) (fun l c u v e u' huv hc ↦ ?_) (l := []) rfl fun _ _ ↦ trivial
  · obtain ⟨r, hr, rfl⟩ := answer_ok_iff.1 hc
    rw [huv] at hr
    exact ⟨(r, v.2), answer_ok_iff.2 ⟨r, hr, rfl⟩, rfl⟩
  · exact (answer_error hc).trans huv

/-- A pass into the screen was begun, and a draw state is in use. There is also a pipeline that does
not fit the pass, and a texture with several samples. -/
def screenPass : List GraphicsDevice.Command :=
  [.createMesh (.fullScreenQuad true), .createShader Vulkan.Device.plainShader,
   .createPipeline (Vulkan.Device.plainPipeline ⟨1, .bgra8Unorm, some Vulkan.screenDepthFormat, 1⟩),
   .createPipeline (Vulkan.Device.plainPipeline ⟨1, .rgba8Unorm, none, 4⟩),
   .createTexture ⟨"color", 4, 4, .rgba8Unorm, .sampledAndRenderTarget, 4, none⟩,
   .beginPass none {}, .applyDrawState ⟨⟨1, 1⟩, ⟨1, 1⟩, []⟩]

/-- Commands with a flaw each. -/
def flawed : List GraphicsDevice.Command :=
  -- A texture without pixels, an unknown handle, and the mesh to refuse.
  [.createTexture ⟨"flat", 4, 0, .rgba8Unorm, .sampledAndRenderTarget, 1, none⟩,
   .destroy (.texture ⟨2, 1⟩), .createMesh (.fullScreenQuad true),
   -- The wrong order.
   .beginPass none {}, .commitFrame,
   -- A pipeline that does not fit, a texture that was not resolved, and an unknown group.
   .applyDrawState ⟨⟨2, 1⟩, ⟨1, 1⟩, []⟩, .applyDrawState ⟨⟨1, 1⟩, ⟨1, 1⟩, [⟨1, 1⟩]⟩, .draw 7]

/-- All of them are refused in the pass, and change nothing. -/
theorem answer_atomic_flawed :
    ∃ l, ∃ s : Recorder × Journal, Reached l s ∧ s.1.active.isSome ∧
      (∀ c ∈ flawed, ∃ (e : EngineError) (t : Recorder × Journal),
        c.answer s = .error (.error e) t ∧ t.1 = s.1) ∧
      Replays (fun u v : Recorder × Journal ↦ u.1 = v.1) flawed s s := by
  let start : Recorder × Journal :=
    ({ screenRecorder with failAt := some (.mesh, 2) }, {})
  have hrun : (settleAll (screenPass.map Command.answer) start).any fun s ↦
      s.1.active.isSome && flawed.all fun c ↦ refuses c.answer s := by decide +kernel
  obtain ⟨s, hs, hcheck⟩ := exists_accepted IsFresh Drains ⟨_, _, _, _, _, rfl⟩ hrun
  obtain ⟨hactive, hrefused⟩ := Bool.and_eq_true_iff.1 hcheck
  obtain ⟨hsame, hreplays⟩ := answer_atomic flawed s
  refine ⟨_, s, hs, hactive, fun c hc ↦ ?_, hreplays s.2⟩
  obtain ⟨e, t, ht⟩ := refuses_iff.1 (List.all_eq_true.1 hrefused c hc)
  exact ⟨e, t, ht, hsame c e t ht⟩

end RenderTargets.Recorder
