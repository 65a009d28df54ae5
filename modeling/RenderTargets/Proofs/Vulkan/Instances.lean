import RenderTargets.Proofs.Vulkan.Contents
import RenderTargets.Proofs.Vulkan.Phases
/-!
# What becomes of render pass instances

A render pass instance that was recorded did nothing yet. It counts once the buffer that holds it is
handed over, and if a call of the frame fails before, the buffer is **lost** with all that it holds
(`Loses`), because it has to be reset before it is recorded into again.

There is no third way out. From the trace alone, and as long as the steps of a slot come in turn, an
instance in the buffer of the slot stays there until it is handed over or lost (`Fate.append`).
-/

namespace RenderTargets.Vulkan

/-! ### Instances -/

/-- The render pass instances that the commands begin and end, the latest first. -/
def instancesOf : List Recorded → List PassBegin
  | [] => []
  | .endPass :: past => (passOf past).toList ++ instancesOf past
  | _ :: past => instancesOf past

/-- The instances that were handed over to the GPU, the latest first. -/
def executedInstances : List Call → List PassBegin
  | [] => []
  | .submit _ work _ :: past => instancesOf (contents work.commands past) ++ executedInstances past
  | _ :: past => executedInstances past

/-- The buffer is recorded into, or it is complete. -/
def Phase.IsOpen : Phase → Prop
  | recording _ | ended => True
  | _ => False

/-- A step of a frame failed. -/
def Call.isFailedStep (c : Call) : Bool := c.failedName?.any (·.isFrameStep)

/-- A call of the frame failed while the buffer of the slot held the commands. -/
def Loses (uploads : Object .commandPool) (f : FrameSlot) (held : List Recorded)
    (calls : List Call) : Prop :=
  ∃ later name wanted code past p, calls = later ++ .failed name wanted code :: past ∧
    name.isFrameStep = true ∧ Progress.after uploads f past = some ⟨false, p⟩ ∧ p.IsOpen ∧
    contents f.commands past = held

/-- What became of an instance that was recorded into the buffer of the slot. -/
inductive Fate (uploads : Object .commandPool) (f : FrameSlot) (info : PassBegin)
    (calls : List Call) : Prop
  /-- It was handed over. -/
  | executed (handed : info ∈ executedInstances calls)
  /-- It was lost. -/
  | lost {held} (loses : Loses uploads f held calls) (ended : info ∈ instancesOf held)
  /-- It is in the buffer still. -/
  | waits {p} (progress : Progress.after uploads f calls = some p) (isOpen : p.phase.IsOpen)
      (ended : info ∈ instancesOf (contents f.commands calls))

variable {uploads : Object .commandPool} {f : FrameSlot} {info : PassBegin} {r : Recorded}
  {held rs post : List Recorded} {c : Call} {l calls past : List Call} {p : Progress}

/-- An instance that ended stays. -/
theorem instancesOf_append (post rs : List Recorded) :
    instancesOf rs <:+ instancesOf (post ++ rs) := by
  induction post with
  | nil => exact List.suffix_refl _
  | cons r post ih =>
    cases r with
    | endPass => exact ih.trans (List.suffix_append _ _)
    | _ => exact ih

theorem executedInstances_append (l calls : List Call) :
    executedInstances calls <:+ executedInstances (l ++ calls) := by
  induction l with
  | nil => exact List.suffix_refl _
  | cons c l ih =>
    cases c with
    | submit => exact ih.trans (List.suffix_append _ _)
    | _ => exact ih

/-- What is lost stays lost. -/
theorem Loses.append (h : Loses uploads f held calls) (l : List Call) :
    Loses uploads f held (l ++ calls) := by
  obtain ⟨later, name, wanted, code, past, p, rfl, h⟩ := h
  exact ⟨l ++ later, name, wanted, code, past, p, (List.append_assoc ..).symm, h⟩

/-- Nothing is lost unless a step of a frame fails. -/
theorem Loses.exists_failed (h : Loses uploads f held calls) : ∃ c ∈ calls, c.isFailedStep := by
  obtain ⟨later, name, wanted, code, past, p, rfl, hname, -⟩ := h
  exact ⟨_, List.mem_append_right _ List.mem_cons_self, hname⟩

/-! ### Fates -/

/-- A call that is no step of the slot leaves its buffer alone. -/
theorem Call.contents_of_not_concerns (h : c.concerns f = false) :
    c.contents f.commands held = held := by
  cases c with
  | record | resetCommandBuffer | beginCommandBuffer => exact if_neg (by simpa [concerns] using h)
  | _ => rfl

/-- A step of the slot adds to what its buffer holds, or hands it over. -/
theorem Fate.of_concerns (hc : c.concerns f = true) (hp : p.phase.IsOpen) {q : Phase}
    (hq : p.phase.next? f c = some q)
    (hafter : Progress.after uploads f (c :: calls) = some { p with phase := q })
    (h : info ∈ instancesOf (contents f.commands calls)) :
    Fate uploads f info (c :: calls) := by
  obtain ⟨uploading, phase⟩ := p
  cases phase with
  | recording inside =>
    cases c with
    | record b r =>
      obtain rfl : b = f.commands := eq_of_beq hc
      obtain ⟨next, -, rfl⟩ := Option.map_eq_some_iff.1 hq
      refine .waits hafter trivial ?_
      rw [contents_record_self]
      exact (instancesOf_append [r] _).subset h
    | endCommandBuffer =>
      cases inside with
      | none =>
        obtain rfl := Option.some.inj hq
        exact .waits hafter trivial h
      | some => cases hq
    | _ => cases hq
  | ended =>
    cases c with
    | submit queue work fence =>
      have hwork : work.commands = f.commands := eq_of_beq hc
      refine .executed (List.mem_append_left _ ?_)
      rw [hwork]
      exact h
    | _ => cases hq
  | rest | waited | reset => exact hp.elim

/-- One more call. -/
theorem Fate.cons (h : Fate uploads f info calls)
    (hnext : (Progress.after uploads f (c :: calls)).isSome = true) :
    Fate uploads f info (c :: calls) := by
  cases h with
  | executed handed => exact .executed ((executedInstances_append [c] calls).subset handed)
  | lost loses ended => exact .lost (loses.append [c]) ended
  | @waits p progress isOpen ended =>
    have hafter : Progress.after uploads f (c :: calls) = p.next? uploads f c := by
      rw [Progress.after, progress, Option.bind_some]
    have hpass (hc : c.concerns f = false) (hp : p.next? uploads f c = some p) :
        Fate uploads f info (c :: calls) := by
      refine .waits (hafter.trans hp) isOpen ?_
      show info ∈ instancesOf (c.contents f.commands (contents f.commands calls))
      rwa [Call.contents_of_not_concerns hc]
    have hstep (hp : p.next? uploads f c = if c.concerns f then
        (p.phase.next? f c).map ({ p with phase := · }) else some p) :
        Fate uploads f info (c :: calls) := by
      by_cases hc : c.concerns f = true
      · rw [if_pos hc] at hp
        rw [hafter, hp, Option.isSome_map] at hnext
        obtain ⟨q, hq⟩ := Option.isSome_iff_exists.1 hnext
        rw [hp, hq] at hafter
        exact .of_concerns hc isOpen hq hafter ended
      · rw [if_neg hc] at hp
        exact hpass (Bool.eq_false_iff.2 hc) hp
    cases c with
    | failed name wanted code =>
      by_cases hfails : (name.isFrameStep && !p.uploading) = true
      · -- The step that fails may be one of any frame, but this is the buffer that is open.
        obtain ⟨hname, hquiet⟩ := Bool.and_eq_true_iff.1 hfails
        obtain ⟨uploading, phase⟩ := p
        obtain rfl : uploading = false := by simpa using hquiet
        exact .lost ⟨[], name, wanted, code, calls, phase, rfl, hname, progress, isOpen, rfl⟩ ended
      · exact hpass rfl (by rw [Progress.next?, if_neg hfails])
    | allocateCommandBuffer b pool =>
      refine .waits (p := if pool = uploads then { p with uploading := true } else p)
        hafter ?_ ended
      split <;> exact isOpen
    | freeCommandBuffer pool b =>
      refine .waits (p := if pool = uploads then { p with uploading := false } else p)
        hafter ?_ ended
      split <;> exact isOpen
    | _ => exact hstep rfl

/-- An instance waits when its end was recorded. -/
theorem Fate.of_endPass (h : passOf (contents f.commands calls) = some info)
    (hnext : (Progress.after uploads f (.record f.commands .endPass :: calls)).isSome = true) :
    Fate uploads f info (.record f.commands .endPass :: calls) := by
  obtain ⟨q, hq⟩ := Option.isSome_iff_exists.1 hnext
  obtain ⟨⟨uploading, phase⟩, -, hp⟩ := Option.bind_eq_some_iff.1 hq
  rw [Progress.next?_of_concerns (by simp [Call.concerns])] at hp
  obtain ⟨phase', hphase, rfl⟩ := Option.map_eq_some_iff.1 hp
  cases phase with
  | recording inside =>
    obtain ⟨next, -, rfl⟩ := Option.map_eq_some_iff.1 hphase
    refine .waits hq trivial ?_
    rw [contents_record_self, instancesOf, h]
    exact List.mem_cons_self
  | rest | waited | reset | ended => cases hphase

/-- **An instance is handed over, lost, or waits.** -/
theorem Fate.append (h : Fate uploads f info calls)
    (hnext : (Progress.after uploads f (l ++ calls)).isSome = true) :
    Fate uploads f info (l ++ calls) := by
  induction l with
  | nil => exact h
  | cons c l ih =>
    refine (ih ?_).cons hnext
    obtain ⟨q, hq⟩ := Option.isSome_iff_exists.1 hnext
    obtain ⟨p, hp, -⟩ := Option.bind_eq_some_iff.1 hq
    exact Option.isSome_of_eq_some hp

end RenderTargets.Vulkan
