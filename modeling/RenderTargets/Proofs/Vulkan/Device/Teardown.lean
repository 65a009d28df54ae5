import RenderTargets.Proofs.Vulkan.Device.Estate
import RenderTargets.Vulkan.Device.Setup
/-!
# Giving a device up

Giving a device up ends its estate part by part, so that nothing is left but the hold on the context
that the device itself has. It always completes: no call is made on the way whose failure counts,
and the hold on the context is found to be the last one, so that nothing is written to the journal.

## Order

The command pool of the frames ends with all their command buffers. Nothing else in the estate has a
home by then, so the other pool ends alone. The device ends after all but the connection.
-/

namespace RenderTargets.Vulkan

open StepWith Run

variable {b : Backdrop} {r : Estate} {E : EngineError → Host → Prop}

namespace Device

variable {d : Device} {now : Prop}

/-! ### The parts of an estate -/

/-- The command buffers of the slots. -/
def buffers (d : Device) : Estate := (d.slots.map fun f ↦ .one (f.buffer d.framePool)).sum

/-- What is left when all but the context is given up. -/
def lastEstate (d : Device) : Estate := d.context.device.sole + (d.connection.sole + .share)

/-- What is left when the pools are given up. -/
def coreEstate (d : Device) : Estate := Swapchain.soles d.messenger.toList + d.lastEstate

theorem mem_buffers {x : Holding} (h : x ∈ d.buffers.1) :
    x.home = some d.framePool.any ∧ x.object.kind = .commandBuffer := by
  rw [buffers] at h
  generalize d.slots = slots at h
  induction slots with
  | nil => exact (Estate.mem_zero.1 h).elim
  | cons f slots ih =>
    rcases Estate.mem_add.1 h with h | h
    · obtain rfl := Estate.mem_one.1 h
      exact ⟨rfl, rfl⟩
    · exact ih h

theorem mem_lastEstate {x : Holding} :
    x ∈ d.lastEstate.1 ↔ x = ⟨d.context.device.any, none⟩ ∨ x = ⟨d.connection.any, none⟩ := by
  simp [lastEstate]

theorem mem_coreEstate {x : Holding} (h : x ∈ d.coreEstate.1) :
    x.home = none ∧ x.object.kind ≠ .swapchain := by
  rcases Estate.mem_add.1 h with h | h
  · obtain ⟨hhome, hkind⟩ := Swapchain.mem_soles h
    exact ⟨hhome, by rw [hkind]; decide⟩
  · rcases mem_lastEstate.1 h with rfl | rfl <;> exact ⟨rfl, by simp [Object.any]⟩

/-- The estate in the order in which it is given up. -/
theorem estate_eq (d : Device) :
    d.estate = d.resourceEstate + ((d.slots.map FrameSlot.ownEstate).sum + (d.screen.estate +
      (d.sampler.sole + (d.framePool.sole + d.buffers +
        (d.context.uploadPool.sole + d.coreEstate))))) := by
  have hslots : d.slotEstate = (d.slots.map FrameSlot.ownEstate).sum + d.buffers := by
    rw [slotEstate, buffers, ← List.sum_map_add]
    rfl
  simp only [estate, otherEstate, fixedEstate, coreEstate, lastEstate, hslots]
  abel

/-! ### Giving up -/

theorem silent_dropResources (d : Device) : Silent d.dropResources := by
  refine .bind (.each fun p _ ↦ p.silent_drop) fun _ ↦ ?_
  refine .bind (.each fun p _ ↦ p.silent_drop) fun _ ↦ ?_
  refine .bind (.each fun s _ ↦ s.silent_drop) fun _ ↦ ?_
  exact .bind (.each fun m _ ↦ m.silent_drop) fun _ ↦ .each fun t _ ↦ t.silent_drop

theorem meets_dropResources (d : Device) :
    Meets (Held b (d.resourceEstate + r)) d.dropResources (fun _ ↦ Held b r) E := by
  simp only [resourceEstate, add_assoc, stock]
  refine .bind (meets_each (fun p _ ↦ p.meets_drop) _) fun _ ↦ ?_
  refine .bind (meets_each (fun p _ ↦ p.meets_drop) _) fun _ ↦ ?_
  refine .bind (meets_each (fun s _ ↦ s.meets_drop) _) fun _ ↦ ?_
  exact .bind (meets_each (fun m _ ↦ m.meets_drop) _) fun _ ↦ meets_each (fun t _ ↦ t.meets_drop) _

/-- The command pool of the frames ends with their command buffers. -/
theorem meets_destroyFramePool (hb : b.frames = d.framePool.any) (hr : ∀ x ∈ r.1, x.home = none) :
    Meets (Held b (d.framePool.sole + d.buffers + r)) (Run.destroy d.framePool)
      (fun _ ↦ Held b r) E := by
  refine meets_changeDriver fun h hh ↦ ?_
  have ho : d.framePool.any.number ≠ 0 :=
    hh.number_ne_zero (x := ⟨d.framePool.any, none⟩) (by simp)
  have hforget : Held b (d.framePool.sole + d.buffers + r)
      { h with driver := h.driver.forget d.framePool.any } := hh.congr Driver.continues_forget
  rw [Driver.destroy, if_neg ho]
  refine Books.push_ending hforget (c := .destroy d.framePool.any) (b.push trivial hforget.backdrop)
    rfl (Books.fits hforget rfl ?_ ?_) ?_ ?_ ?_
  · exact fun o hmem ↦ Books.covered hforget (List.mem_singleton.1 hmem ▸ by simp)
  · -- Only this pool may end with what comes from it.
    rintro _ ⟨⟩ x - hneeds
    exact hneeds.2 hb.symm
  · intro x hx
    rcases Estate.mem_add.1 hx with hx | hx
    · exact .inl (congrArg some (congrArg Holding.object (Object.mem_sole.1 hx)).symm)
    · exact .inr ⟨_, (mem_buffers hx).1, rfl⟩
  · rintro x hx (hend | ⟨pool, hhome, -⟩)
    · exact Books.object_ne hh (x := ⟨d.framePool.any, none⟩) (by simp) hx (Option.some.inj hend)
    · rw [hr x hx] at hhome
      cases hhome
  · show 0 + d.buffers.2 = 0
    rw [buffers]
    induction d.slots with
    | nil => rfl
    | cons f slots ih => exact (congrArg (0 + ·) (Nat.zero_add _)).trans ih

/-- A command pool that nothing comes from any more. -/
theorem meets_destroyUploadPool (hr : ∀ x ∈ r.1, x.home = none) :
    Meets (Held b (d.context.uploadPool.sole + r)) (Run.destroy d.context.uploadPool)
      (fun _ ↦ Held b r) E := by
  refine meets_changeDriver fun h hh ↦ hh.destroy (fun x hx hneeds ↦ ?_) fun _ x hx hhome ↦ ?_
  · have hhome : x.home = some d.context.uploadPool.any := hneeds.1
    rw [hr x hx] at hhome
    cases hhome
  · rw [hr x hx] at hhome
    cases hhome

theorem calls_destroy {kind : ObjectKind} {o : Object kind} {h : Host}
    (hh : Held b (o.sole + r) h) :
    (h.driver.destroy o.any).calls = .destroy o.any :: h.driver.calls := by
  have ho : o.any.number ≠ 0 := hh.number_ne_zero (x := ⟨o.any, none⟩) (by simp)
  rw [Driver.destroy, if_neg ho]
  exact congrArg _ Driver.continues_forget.calls

/-- Device and connection end last. -/
theorem meets_destroyLast (d : Device) :
    Meets (Held b d.lastEstate) (do Run.destroy d.context.device; Run.destroy d.connection)
      (fun _ h ↦ Held b .share h ∧
        ∃ past, h.driver.calls = .destroy d.connection.any :: .destroy d.context.device.any :: past)
      E := by
  refine .bind (Q := fun _ h ↦ Held b (d.connection.sole + .share) h ∧
    ∃ past, h.driver.calls = .destroy d.context.device.any :: past)
    (meets_changeDriver fun h hh ↦ ⟨hh.destroy (fun x hx hneeds ↦ ?_) (fun hk ↦ by cases hk), _,
      calls_destroy hh⟩)
    fun _ ↦ meets_changeDriver ?_
  · have hx : x = ⟨d.connection.any, none⟩ := by simpa using hx
    subst hx
    exact hneeds.1 rfl
  · rintro h ⟨hh, past, hpast⟩
    refine ⟨hh.destroy (fun x hx ↦ (Estate.mem_share.1 hx).elim) (fun hk ↦ by cases hk), past, ?_⟩
    rw [calls_destroy hh, hpast]

/-- Giving a device up completes, and of its estate only its own hold on the context is left. -/
theorem completes_drop (d : Device) (hb : b.frames = d.framePool.any) :
    Completes (Held b d.estate) d.drop fun _ h ↦ Held b .share h ∧
      ∃ past, h.driver.calls =
        .destroy d.connection.any :: .destroy d.context.device.any :: past := by
  have hcore : ∀ x ∈ d.coreEstate.1, x.home = none := fun x hx ↦ (mem_coreEstate hx).1
  have hpools : ∀ x ∈ (d.context.uploadPool.sole + d.coreEstate).1, x.home = none := by
    intro x hx
    rcases Estate.mem_add.1 hx with hx | hx
    · rw [Object.mem_sole.1 hx]
    · exact hcore x hx
  have hrest : ∀ x ∈ (d.sampler.sole + (d.framePool.sole + d.buffers +
      (d.context.uploadPool.sole + d.coreEstate))).1, x.object.kind ≠ .swapchain := by
    intro x hx
    simp only [Estate.mem_add, Object.mem_sole] at hx
    rcases hx with rfl | (rfl | hx) | rfl | hx
    · simp [Object.any]
    · simp [Object.any]
    · rw [(mem_buffers hx).2]
      decide
    · simp [Object.any]
    · exact (mem_coreEstate hx).2
  have hdevice : d.coreEstate.Covers d.context.device.any := by simp [coreEstate, lastEstate]
  refine .bind (Silent.tryOut.completes (meets_tryPerform ⟨rfl, rfl, rfl⟩ trivial ?_)) fun _ ↦ ?_
  · simpa [Call.uses] using covers_other d.covers_device
  rw [estate_eq]
  refine .bind (d.silent_dropResources.completes d.meets_dropResources) fun _ ↦ ?_
  refine .bind ((Silent.each fun f _ ↦ f.silent_drop).completes
    (meets_each (fun f _ ↦ f.meets_drop) _)) fun _ ↦ ?_
  refine .bind ((d.screen.silent_drop d.context).completes
    (d.screen.meets_drop (by simp [hdevice]) hrest)) fun _ ↦ ?_
  refine .bind (Silent.destroy.completes (meets_destroy trivial)) fun _ ↦ ?_
  refine .bind (Silent.destroy.completes (meets_destroyFramePool hb hpools)) fun _ ↦ ?_
  refine .bind (Silent.destroy.completes (meets_destroyUploadPool hcore)) fun _ ↦ ?_
  -- The device itself is the last that holds on to the context.
  refine .get_bind fun h hh ↦ ?_
  have howners : h.owners = 1 := by
    rw [Books.owners_eq hh]
    show (Swapchain.soles d.messenger.toList).2 + 1 = 1
    rw [Swapchain.snd_soles]
  simp only [howners, ne_eq, not_true, if_false]
  refine .bind (Q := fun _ ↦ Held b d.coreEstate) (.update fun _ hh ↦ ⟨rfl, hh⟩) fun _ ↦ ?_
  refine .bind ((Silent.each fun _ _ ↦ .destroy).completes
    (Swapchain.meets_destroyAll _ trivial)) fun _ ↦ ?_
  exact (Silent.bind .destroy fun _ ↦ .destroy).completes d.meets_destroyLast

end Device

end RenderTargets.Vulkan
