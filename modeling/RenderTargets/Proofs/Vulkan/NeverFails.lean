import RenderTargets.Proofs.Vulkan.PartsOutsideFrames
/-!
# Drivers on which no call fails

No call of a driver without a script fails, and no step of a device gives it a script
(`Host.NeverFails`). What is done outside frames is known to leave the script alone; here it is
shown of the steps of frames, and that a frame never runs out of descriptor sets then.
-/

namespace RenderTargets.Vulkan

open StepWith Run

variable {α : Type} {uploads : Object .commandPool}

/-! ### Scripts -/

namespace Driver

variable {d : Driver} {name : CallName}

theorem script_perform {c : Call} : (d.perform name c).2.script = d.script := by
  rcases hd : d.perform name c with ⟨_ | _, d'⟩
  · exact perform_error hd ▸ rfl
  · exact perform_ok hd ▸ rfl

/-- Without a script everything can be made. -/
theorem exists_create {kind : ObjectKind} (name : CallName) (hd : d.script = [])
    (c : Object kind → Call) :
    ∃ o d', d.create name c = (.ok o, d') ∧ d'.script = [] := by
  have hscripted : d.scripted name (d.count name + 1) = none := by simp [scripted, hd]
  rw [create, tally, hscripted]
  exact ⟨_, _, rfl, hd⟩

end Driver

/-- No call of the driver fails. -/
def Host.NeverFails (h : Host) : Prop := h.driver.script = []

namespace Run

theorem IsOutsideFrames.neverFails {x : Run α} (hx : IsOutsideFrames uploads x) :
    Keeps Host.NeverFails x :=
  fun s hs ↦ (hx s.driver s (.refl _)).mono (fun _ _ h ↦ h.script.trans hs)
    fun _ _ h ↦ h.script.trans hs

theorem neverFails_work {action : String} {name : CallName} {c : Call} :
    Keeps Host.NeverFails (work action (Driver.perform name c)) := by
  have hstays : ∀ (s : Host) r d, s.NeverFails → s.driver.perform name c = (r, d) →
      { s with driver := d }.NeverFails := fun s r d hs hd ↦ by
    have hscript : (s.driver.perform name c).2.script = s.driver.script := Driver.script_perform
    rw [hd] at hscript
    exact hscript.trans hs
  exact meets_work (fun s _ d ↦ hstays s _ d) (fun s _ d ↦ hstays s _ d) fun _ _ hs ↦ hs

theorem neverFails_record {buffer : Object .commandBuffer} {c : Recorded}
    {E : EngineError → Host → Prop} :
    Meets Host.NeverFails (record buffer c) (fun _ ↦ Host.NeverFails) E :=
  meets_changeDriver fun _ hs ↦ hs

end Run

namespace FrameSlot

theorem neverFails_begin {f : FrameSlot} : Keeps Host.NeverFails f.begin := by
  refine .bind neverFails_work fun _ ↦ ?_
  exact .bind neverFails_work fun _ ↦ .bind neverFails_work fun _ ↦ neverFails_work

theorem neverFails_submit {ctx : Context} {f : FrameSlot}
    {screen : Option (Object .semaphore × Object .semaphore)} :
    Keeps Host.NeverFails (f.submit ctx screen) :=
  .bind neverFails_work fun _ ↦ .bind neverFails_work fun _ ↦ neverFails_work

/-- There is a descriptor set for every draw state. -/
theorem neverFails_allocateSet {f : FrameSlot} {layout : Object .setLayout} :
    Meets Host.NeverFails (f.allocateSet layout) (fun _ ↦ Host.NeverFails) fun _ _ ↦ False := by
  intro s hs
  obtain ⟨o, d, hd, hnever⟩ := Driver.exists_create .allocateDescriptorSets hs
    (.allocateDescriptorSet · f.pool layout)
  refine meets_work (P := (· = s)) (Q := fun _ ↦ Host.NeverFails) (S := fun _ ↦ False) ?_ ?_
    (fun _ _ h ↦ h) s rfl
  · rintro _ _ _ rfl hok
    cases hd.symm.trans hok
    exact hnever
  · rintro _ _ _ rfl herr
    cases hd.symm.trans herr

end FrameSlot

namespace Mesh

theorem neverFails_bind {m : Mesh} {buffer : Object .commandBuffer}
    {E : EngineError → Host → Prop} :
    Meets Host.NeverFails (m.bind buffer) (fun _ ↦ Host.NeverFails) E := by
  refine .bind neverFails_record fun _ ↦ ?_
  split
  · exact neverFails_record
  · exact .pure fun _ hs ↦ hs

end Mesh

end RenderTargets.Vulkan
