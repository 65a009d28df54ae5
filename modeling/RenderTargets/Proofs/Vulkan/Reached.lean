import RenderTargets.Proofs.Device.Reached
import RenderTargets.Proofs.Vulkan.Device.Stores
import RenderTargets.Proofs.Vulkan.Records
/-!
# Where a Vulkan device gets

A run is a list of events, and passes over what commands answer. `Reached` keeps that: the commands
that were taken, with their answers. Every state that is reached is that of a run (`exists_run`), so
a device that was reached is sound and records in turn, whatever the driver let fail, and its trace
grows.
-/

namespace RenderTargets.Vulkan

open StepWith Run GraphicsDevice

namespace Device

variable {l : List (GraphicsDevice.Command × Option ResourceId)} {s t : Device × Host}
  {start : Device × Host → Prop} {c : GraphicsDevice.Command} {events events' : List Event}

/-- What happens to a device beside commands. -/
inductive Happens (s : Device × Host) : Device × Host → Prop
  /-- The window changed its size. -/
  | resize (size : Extent) : Happens s (s.1.resize size, s.2)
  /-- The surroundings changed. -/
  | surround (around : Surroundings) :
      Happens s (s.1, { s.2 with driver := s.2.driver.surround around })

/-- What a new device gets to. -/
abbrev Reached : List (GraphicsDevice.Command × Option ResourceId) → Device × Host → Prop :=
  GraphicsDevice.Reached IsNew Happens

theorem run_append : run (events ++ events') s = (run events s).bind (run events') := by
  rw [run, List.map_append, settleAll_append]
  rfl

/-- Whatever is reached is the end of a run. -/
theorem exists_run (h : GraphicsDevice.Reached start Happens l t) :
    ∃ s events, start s ∧ run events s = some t := by
  have hlast {s u t : Device × Host} {events : List Event} (hu : run events s = some u) (e : Event)
      (ht : e.perform.settle u = some t) : run (events ++ [e]) s = some t := by
    rw [run_append, hu, Option.bind_some, run, List.map_singleton, settleAll, ht]
    rfl
  have hcommand {u t : Device × Host} {c : GraphicsDevice.Command}
      (h : c.answer.settle u = some t) : (Event.command c).perform.settle u = some t := by
    rw [Event.perform, ← c.map_answer, settle_map]
    exact h
  induction h with
  | start h => exact ⟨_, [], h, rfl⟩
  | taken _ took ih =>
    obtain ⟨s, events, hs, hu⟩ := ih
    exact ⟨s, _, hs, hlast hu _ (hcommand (settle_of_ok took))⟩
  | refused _ hrefused ih =>
    obtain ⟨s, events, hs, hu⟩ := ih
    exact ⟨s, _, hs, hlast hu _ (hcommand (settle_of_error hrefused))⟩
  | between _ done ih =>
    obtain ⟨s, events, hs, hu⟩ := ih
    cases done with
    | resize size => exact ⟨s, _, hs, hlast hu (.resize size) rfl⟩
    | surround around => exact ⟨s, _, hs, hlast hu (.surround around) rfl⟩

/-- A device that was reached is sound. -/
theorem Reached.sound (h : Reached l t) : Sound False False t := by
  obtain ⟨s, events, hs, ht⟩ := exists_run h
  exact hs.sound False.elim ht

/-- A device that was reached records in turn. -/
theorem Reached.inTurn (h : Reached l t) : ∃ uploads slots, Apart slots ∧
    InTurn uploads slots t.2.driver.calls t := by
  obtain ⟨s, events, hs, ht⟩ := exists_run h
  obtain ⟨hslots, hnew⟩ := hs.inTurn
  exact ⟨_, _, hslots, (inTurn_run hslots (InTurn.rebase (d := s.1) hnew) ht).1⟩

/-- A command adds to the trace. -/
theorem Reached.suffix (h : Reached l s) (hc : c.answer.settle s = some t) :
    s.2.driver.calls <:+ t.2.driver.calls := by
  obtain ⟨uploads, slots, hslots, hturn⟩ := h.inTurn
  rw [← settle_map (f := fun _ ↦ ()), c.map_answer] at hc
  rcases inTurn_perform (e := .command c) hslots hturn hc with ht | ⟨_, _, b, r, _, hdraw, -⟩
  · obtain ⟨later, hlater, -⟩ := InTurn.quiet (d := t.1) ht
    exact ⟨later, hlater.symm⟩
  · exact ⟨[.record b r], hdraw.symm⟩

end Device

end RenderTargets.Vulkan
