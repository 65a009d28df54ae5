import RenderTargets.Proofs.Vulkan.Device.InPass
/-!
# What is drawn with

Every draw in the trace of a device was recorded in a state that the device was in, and there the
device was **drawing** (`Device.Drawing`): inside a pass with a target, with the pipeline of the
active pass bound. So what is known of devices that are reached is known of every draw
(`Reached.exists_draws`, `Reached.exists_drawing`), whatever became of the device since.
-/

namespace RenderTargets.Vulkan.Device

open StepWith GraphicsDevice

variable {l : List (GraphicsDevice.Command × Option ResourceId)} {s t : Device × Host}
  {u : Option DrawState} {uploads : Object .commandPool} {slots : List FrameSlot}
  {base later past : List Call} {b : Object .commandBuffer} {r : Recorded} {group : ℕ}
  {d : Device} {k : Host}

/-- The device draws into the buffer, in a pass and with a pipeline. -/
structure Drawing (u : Option DrawState) (b : Object .commandBuffer) (a : ActivePass) (p : Pipeline)
    (s : Device × Host) : Prop where
  /-- The pass. -/
  active : s.1.active = some a
  /-- It uses what is in use, unless a set is lacking. -/
  uses : a.Uses u ∨ LacksSet s.2.driver.calls
  /-- The pipeline is that of the pass. -/
  pipeline : ∃ id, a.pipeline = some id ∧ s.1.pipelines.get? id = some p
  /-- It can be used in the pass. -/
  signature : p.signature = a.signature
  /-- The buffer is in a render pass instance of the pass. -/
  target : ∃ info, passOf (contents b s.2.driver.calls) = some info ∧ s.1.Targets a info
  /-- The pipeline is bound. -/
  bound : pipelineOf (contents b s.2.driver.calls) = some p.pipeline
  /-- It has its images. -/
  set : s.1.SetFor u a p (contents b s.2.driver.calls) s.2.driver.calls

/-- A draw is recorded in a pass with a target only. -/
theorem Draws.recording (h : Draws uploads group (d, k) b r)
    (ht : InTurn uploads slots base (d, k)) (hf : d.frame.isSome = true) :
    ∃ a f, d.active = some a ∧ a.recording = true ∧ d.slots[d.slotIndex]? = some f ∧
      f.commands = b := by
  cases h with
  | @intro a _ _ _ _ _ f x ha _ _ _ _ _ hslot hx =>
    refine ⟨a, f, ha, ?_, hslot, rfl⟩
    by_contra hnot
    -- Otherwise nothing was set since the frame began.
    obtain ⟨g, hg, hstands⟩ := ht.outside hf fun a' ha' ↦ by
      obtain rfl := Option.some.inj (ha.symm.trans ha')
      exact Bool.eq_false_iff.2 hnot
    have hslot' : slots[d.slotIndex]? = some f := ht.hasSlots.slots ▸ hslot
    obtain rfl := Option.some.inj (hslot'.symm.trans hg)
    have hphase := hstands.phases f (List.mem_of_getElem? hslot')
    rw [if_pos rfl] at hphase
    cases hx.symm.trans hphase

/-- Where a draw is recorded the device is drawing. -/
theorem InPass.drawing (h : InPass u s) (hd : Draws uploads group s b r)
    (ht : InTurn uploads slots base s) : ∃ a p, Drawing u b a p s := by
  have hframe : s.1.frame.isSome = true := by
    cases hd with
    | intro ha => exact h.framed (ha ▸ rfl)
  obtain ⟨a, f, ha, hrecording, hslot, hf⟩ := Draws.recording (d := s.1) (k := s.2) hd ht hframe
  obtain ⟨g, hg, hholds⟩ := h.holds a ha hrecording
  obtain rfl := Option.some.inj (hslot.symm.trans hg)
  cases hd with
  | @intro a' pid p _ _ _ _ _ ha' hpid hp =>
    rw [← hf]
    obtain rfl := Option.some.inj (ha.symm.trans ha')
    obtain ⟨p', hp', hsignature, hbound, hset⟩ := hholds.bound pid hpid
    obtain rfl := Option.some.inj (hp.symm.trans hp')
    exact ⟨a, p, ha, (h.used a ha).imp_right And.right, ⟨pid, hpid, hp⟩, hsignature, hholds.target,
      hbound, hset⟩

/-- A draw of a command was there before the command, or is what the command did. -/
theorem Reached.draw_cases {c : GraphicsDevice.Command} (hs : Reached l s)
    (hc : c.answer.settle s = some t)
    (hcalls : t.2.driver.calls = later ++ .record b r :: past) (hr : r.IsDraw) :
    (∃ earlier, s.2.driver.calls = earlier ++ .record b r :: past) ∨
      s.2.driver.calls = past ∧ ∃ uploads slots base group,
        InTurn uploads slots base s ∧ Draws uploads group s b r := by
  obtain ⟨uploads, slots, hslots, hturn⟩ := hs.inTurn
  rw [← settle_map (f := fun _ ↦ ()), c.map_answer] at hc
  rcases inTurn_perform (e := .command c) hslots hturn hc with ht | ⟨_, _, _, _, hdraw, hlast, -⟩
  · exact .inl ((InTurn.quiet (d := t.1) ht).of_isDraw hcalls hr)
  · rw [hlast] at hcalls
    cases later with
    | nil =>
      obtain ⟨hrecord, hpast⟩ := List.cons.inj hcalls
      obtain ⟨rfl, rfl⟩ := Call.record.inj hrecord
      exact .inr ⟨hpast, _, _, _, _, hturn, hdraw⟩
    | cons x earlier => exact .inl ⟨earlier, (List.cons.inj hcalls).2⟩

/-- A draw was recorded by a device that was reached before. -/
theorem Reached.exists_draws (h : Reached l t)
    (hcalls : t.2.driver.calls = later ++ .record b r :: past) (hr : r.IsDraw) :
    ∃ l' after s uploads slots base group, l = l' ++ after ∧ Reached l' s ∧
      s.2.driver.calls = past ∧ InTurn uploads slots base s ∧ Draws uploads group s b r := by
  induction h generalizing later with
  | start hs =>
    obtain ⟨earlier, hearlier⟩ := (InTurn.quiet (d := _) hs.inTurn.2).of_isDraw hcalls hr
    simp at hearlier
  | @taken l s a t c hs took ih =>
    have hcases := Reached.draw_cases hs (settle_of_ok took) hcalls hr
    rcases hcases with ⟨earlier, he⟩ | ⟨hpast, uploads, slots, base, group, hdraws⟩
    · obtain ⟨l', after, u, uploads, slots, base, group, rfl, hu⟩ := ih he
      exact ⟨l', after ++ [(c, a)], u, uploads, slots, base, group, List.append_assoc l' _ _, hu⟩
    · exact ⟨l, _, s, uploads, slots, base, group, rfl, hs, hpast, hdraws⟩
  | @refused l s e t c hs hrefused ih =>
    have hcases := Reached.draw_cases hs (settle_of_error hrefused) hcalls hr
    rcases hcases with ⟨earlier, he⟩ | ⟨hpast, uploads, slots, base, group, hdraws⟩
    · exact ih he
    · exact ⟨l, [], s, uploads, slots, base, group, (List.append_nil l).symm, hs, hpast, hdraws⟩
  | between _ done ih =>
    cases done with
    | resize size => exact ih hcalls
    | surround around => exact ih hcalls

/-- **Every draw was recorded while the device was drawing.** -/
theorem Reached.exists_drawing (h : Reached l t)
    (hcalls : t.2.driver.calls = later ++ .record b r :: past) (hr : r.IsDraw) :
    ∃ l' after s a p, l = l' ++ after ∧ Reached l' s ∧ s.2.driver.calls = past ∧
      Drawing (inUse (l'.map Prod.fst)) b a p s := by
  obtain ⟨l', after, s, uploads, slots, base, group, hl, hs, hpast, hturn, hdraws⟩ :=
    h.exists_draws hcalls hr
  obtain ⟨a, p, hdrawing⟩ := hs.inPass.drawing hdraws hturn
  exact ⟨l', after, s, a, p, hl, hs, hpast, hdrawing⟩

end RenderTargets.Vulkan.Device
