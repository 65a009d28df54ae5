import RenderTargets.Proofs.Vulkan.PartsOutsideFrames
/-!
# Phases of the command buffers of frames

Of the frame slots of a device at most one is not at rest. `Stands uploads slots base f p` says so:
the buffer of the slot `f` is in the phase `p`, and those of all other slots rest. The steps of a
frame go from one phase to the next; when one of them fails, all slots rest again. Whatever is done
outside frames leaves the phases alone.

## Draws

Only a draw records a draw. Since the trace was `base`, there was none; a draw is pushed with a new
`base` (`Stands.push`).
-/

namespace RenderTargets.Vulkan

open StepWith Run

/-- Since the trace was `base`, nothing was drawn. -/
def Quiet (base calls : List Call) : Prop :=
  ∃ l, calls = l ++ base ∧ ∀ b c, .record b c ∈ l → ¬c.IsDraw

/-- The slots differ in their buffers and in their fences. -/
structure Apart (slots : List FrameSlot) : Prop where
  /-- The buffers. -/
  commands : (slots.map (·.commands)).Nodup
  /-- The fences. -/
  fences : (slots.map (·.fence)).Nodup

/-- All slots but one rest. -/
structure Stands (uploads : Object .commandPool) (slots : List FrameSlot) (base : List Call)
    (f : FrameSlot) (p : Phase) (h : Host) : Prop where
  /-- No buffer made later has the number of one of theirs. -/
  numbered : ∀ g ∈ slots, g.commands.number ≤ h.driver.made.count .commandBuffer
  /-- The phases. -/
  phases : ∀ g ∈ slots,
    Progress.after uploads g h.driver.calls = some ⟨false, if g = f then p else .rest⟩
  /-- Into buffers of nobody else only preparations were recorded. -/
  others : ∀ b c, .record b c ∈ h.driver.calls → (∃ g ∈ slots, g.commands = b) ∨ c.IsPreparation
  /-- There was no draw. -/
  quiet : Quiet base h.driver.calls

variable {uploads : Object .commandPool} {slots : List FrameSlot} {base base' calls : List Call}
  {f g : FrameSlot} {p q : Phase} {k k' : Host} {c : Call} {name : CallName} {action : String}
  {α τ : Type}

/-- What is not in the front of a list is in the rest, with the same before it. -/
theorem exists_append_of_notMem {l rest later past : List α} {a : α} (ha : a ∉ l)
    (h : l ++ rest = later ++ a :: past) : ∃ earlier, rest = earlier ++ a :: past := by
  rcases List.append_eq_append_iff.1 h with ⟨m, -, hrest⟩ | ⟨m, hlater, hpast⟩
  · exact ⟨m, hrest⟩
  · cases m with
    | nil => exact ⟨[], hpast.symm⟩
    | cons x m =>
      obtain ⟨rfl, -⟩ := List.cons.inj hpast
      exact (ha (by simp [hlater])).elim

theorem Recorded.IsPreparation.not_isDraw {c : Recorded} (h : c.IsPreparation) : ¬c.IsDraw := by
  cases c <;> simp_all [IsPreparation, IsDraw]

namespace Quiet

theorem refl (calls : List Call) : Quiet calls calls := ⟨[], rfl, by simp⟩

theorem append (h : Quiet base calls) {l : List Call}
    (hl : ∀ b c, .record b c ∈ l → ¬c.IsDraw) : Quiet base (l ++ calls) := by
  obtain ⟨m, rfl, hm⟩ := h
  refine ⟨l ++ m, (List.append_assoc ..).symm, fun b c hc ↦ ?_⟩
  exact (List.mem_append.1 hc).elim (hl b c) (hm b c)

theorem cons (h : Quiet base calls) (hc : ∀ b r, c = .record b r → ¬r.IsDraw) :
    Quiet base (c :: calls) :=
  h.append (l := [c]) fun b r hr ↦ hc b r (List.mem_singleton.1 hr).symm

/-- A draw was there before. -/
theorem of_isDraw (h : Quiet base calls) {later past : List Call} {b : Object .commandBuffer}
    {r : Recorded} (hc : calls = later ++ .record b r :: past) (hr : r.IsDraw) :
    ∃ earlier, base = earlier ++ .record b r :: past := by
  obtain ⟨l, rfl, hl⟩ := h
  exact exists_append_of_notMem (fun hmem ↦ hl b r hmem hr) hc

end Quiet

namespace Apart

/-- A call of one slot is not one of another. -/
theorem not_concerns (h : Apart slots) (hf : f ∈ slots) (hg : g ∈ slots) (hne : g ≠ f)
    (hc : c.concerns f) : c.concerns g = false := by
  have hcommands : f.commands ≠ g.commands := fun he ↦
    hne (List.inj_on_of_nodup_map h.commands hg hf he.symm)
  have hfence : f.fence ≠ g.fence := fun he ↦ hne (List.inj_on_of_nodup_map h.fences hg hf he.symm)
  cases c <;> simp_all [Call.concerns]

end Apart

namespace Progress

/-- A call that concerns a slot is one of its steps. -/
theorem next?_of_concerns (hc : c.concerns f) (p : Progress) :
    p.next? uploads f c = (p.phase.next? f c).map ({ p with phase := · }) := by
  cases c <;> simp_all [next?, Call.concerns]

/-- A call that concerns one slot is passed over by another. -/
theorem next?_of_not_concerns (hc : c.concerns f) (hg : c.concerns g = false) (p : Progress) :
    p.next? uploads g c = some p := by
  cases c <;> simp_all [next?, Call.concerns]

/-- After a step that failed, a slot rests. -/
theorem next?_failed (hname : name.isFrameStep) (wanted : Call) (code : ResultCode) :
    next? uploads f ⟨false, p⟩ (.failed name wanted code) = some ⟨false, .rest⟩ := by
  simp [next?, hname]

end Progress

namespace Stands

/-- Of slots that all rest, any may be named. -/
theorem rest (h : Stands uploads slots base f .rest k) (g : FrameSlot) :
    Stands uploads slots base g .rest k where
  numbered := h.numbered
  phases x hx := by
    rw [h.phases x hx, ite_self, ite_self]
  others := h.others
  quiet := h.quiet

/-- Only calls count, and what was made. -/
theorem congr (h : Stands uploads slots base f p k) (hc : k'.driver.calls = k.driver.calls)
    (hm : k'.driver.made = k.driver.made) : Stands uploads slots base f p k' where
  numbered := hm ▸ h.numbered
  phases := hc ▸ h.phases
  others := hc ▸ h.others
  quiet := hc ▸ h.quiet

/-- A step of the slot. -/
theorem push (h : Stands uploads slots base f p k) (ha : Apart slots) (hf : f ∈ slots)
    (hc : c.concerns f) (hn : p.next? f c = some q) (hq : Quiet base' (c :: k.driver.calls)) :
    Stands uploads slots base' f q { k with driver := k.driver.push c } where
  numbered := h.numbered
  phases g hg := by
    show Progress.after uploads g (c :: k.driver.calls) = _
    rw [Progress.after, h.phases g hg, Option.bind_some]
    by_cases hgf : g = f
    · subst hgf
      rw [if_pos rfl, if_pos rfl, Progress.next?_of_concerns hc, hn]
      rfl
    · rw [if_neg hgf, if_neg hgf]
      exact Progress.next?_of_not_concerns hc (ha.not_concerns hf hg hgf hc) _
  others b r hr := by
    rcases List.mem_cons.1 hr with rfl | hr
    · exact .inl ⟨f, hf, (beq_iff_eq.1 hc).symm⟩
    · exact h.others b r hr
  quiet := hq

/-- A step of a frame that failed. -/
theorem push_failed (h : Stands uploads slots base f p k) (hname : name.isFrameStep)
    {wanted : Call} {code : ResultCode} :
    Stands uploads slots base f .rest
      { k with driver := k.driver.push (.failed name wanted code) } where
  numbered := h.numbered
  phases g hg := by
    show Progress.after uploads g (.failed name wanted code :: k.driver.calls) = _
    rw [Progress.after, h.phases g hg, Option.bind_some, Progress.next?_failed hname, ite_self]
  others b r hr := h.others b r ((List.mem_cons.1 hr).resolve_left (by simp))
  quiet := h.quiet.cons (by simp)

/-- A call that is a step of no slot. -/
theorem pass (h : Stands uploads slots base f p k)
    (hc : ∀ g q, Progress.next? uploads g ⟨false, q⟩ c = some ⟨false, q⟩)
    (hr : ∀ b r, c ≠ .record b r) :
    Stands uploads slots base f p { k with driver := k.driver.push c } where
  numbered := h.numbered
  phases g hg := by
    show Progress.after uploads g (c :: k.driver.calls) = _
    rw [Progress.after, h.phases g hg, Option.bind_some, hc]
  others b r hmem := h.others b r ((List.mem_cons.1 hmem).resolve_left fun he ↦ hr b r he.symm)
  quiet := h.quiet.cons fun b r he ↦ (hr b r he).elim

/-- What is done outside frames leaves the phases alone. -/
theorem adds (h : Stands uploads slots base f p k) (ha : k.driver.Grows uploads k'.driver) :
    Stands uploads slots base f p k' := by
  obtain ⟨l, hcalls, hl⟩ := ha.calls
  refine ⟨fun g hg ↦ (h.numbered g hg).trans (ha.count_le _), fun g hg ↦ ?_, fun b r hr ↦ ?_, ?_⟩
  · rw [hcalls]
    exact hl.after (fun hmem ↦ absurd (hl.of_allocate hmem) (h.numbered g hg).not_gt)
      (h.phases g hg)
  · rw [hcalls] at hr
    rcases List.mem_append.1 hr with hr | hr
    · exact .inr (hl.of_record hr).2
    · exact h.others b r hr
  · rw [hcalls]
    exact h.quiet.append fun b r hr ↦ (hl.of_record hr).2.not_isDraw

end Stands

/-! ### Steps of hosts -/

/-- A step of the slot that may fail. -/
theorem meets_step (ha : Apart slots) (hf : f ∈ slots) (hname : name.isFrameStep)
    (hc : c.concerns f) (hn : p.next? f c = some q) (hr : ∀ b r, c ≠ .record b r) :
    Meets (Stands uploads slots base f p) (work action (Driver.perform name c))
      (fun _ ↦ Stands uploads slots base f q) fun _ ↦ Stands uploads slots base f .rest := by
  have htally {k : Host} (hk : Stands uploads slots base f p k) :
      Stands uploads slots base f p { k with driver := (k.driver.tally name).2 } := hk.congr rfl rfl
  refine meets_work (fun k _ d hk hd ↦ ?_) (fun k code d hk hd ↦ ?_) fun _ _ hk ↦ hk.congr rfl rfl
  · rw [Driver.perform_ok hd]
    exact (htally hk).push ha hf hc hn (hk.quiet.cons fun b r he ↦ (hr b r he).elim)
  · rw [Driver.perform_error hd]
    exact (htally hk).push_failed hname

/-- A step of a frame that has nothing to do with the buffer. -/
theorem meets_stepOutsideFrames (hname : name.isFrameStep) (hc : c.IsOutsideFrames uploads) :
    Meets (Stands uploads slots base f p) (work action (Driver.perform name c))
      (fun _ ↦ Stands uploads slots base f p) fun _ ↦ Stands uploads slots base f .rest := by
  refine meets_work (fun k _ d hk hd ↦ ?_) (fun k code d hk hd ↦ ?_) fun _ _ hk ↦ hk.congr rfl rfl
  · rw [Driver.perform_ok hd]
    exact hk.adds (Driver.adds_tally.trans (Driver.adds_push hc)).toGrows
  · rw [Driver.perform_error hd]
    exact (hk.congr rfl rfl : Stands uploads slots base f p
      { k with driver := (k.driver.tally name).2 }).push_failed hname

/-- A command in its turn, other than a draw. -/
theorem meets_recordInTurn {r : Recorded} {i j : Option Instance}
    {E : EngineError → Host → Prop} (ha : Apart slots) (hf : f ∈ slots) (hn : r.next? i = some j)
    (hr : ¬r.IsDraw) :
    Meets (Stands uploads slots base f (.recording i)) (Run.record f.commands r)
      (fun _ ↦ Stands uploads slots base f (.recording j)) E := by
  refine meets_changeDriver fun k hk ↦ hk.push ha hf (by simp [Call.concerns]) ?_ ?_
  · simp [Phase.next?, hn]
  · refine hk.quiet.cons ?_
    rintro _ _ ⟨⟩
    exact hr

namespace FrameSlot

theorem meets_beginInTurn (ha : Apart slots) (hf : f ∈ slots) :
    Meets (Stands uploads slots base f .rest) f.begin
      (fun _ ↦ Stands uploads slots base f (.recording none))
      fun _ ↦ Stands uploads slots base f .rest := by
  refine .bind (meets_step (q := .waited) ha hf rfl (by simp [Call.concerns]) rfl (by simp))
    fun _ ↦ ?_
  refine .bind (meets_stepOutsideFrames rfl trivial) fun _ ↦ ?_
  exact .bind (meets_step (q := .reset) ha hf rfl (by simp [Call.concerns]) rfl (by simp)) fun _ ↦
    meets_step ha hf rfl (by simp [Call.concerns]) rfl (by simp)

theorem meets_submitInTurn {ctx : Context} {screen : Option (Object .semaphore × Object .semaphore)}
    (ha : Apart slots) (hf : f ∈ slots) :
    Meets (Stands uploads slots base f (.recording none)) (f.submit ctx screen)
      (fun _ ↦ Stands uploads slots base f .rest) fun _ ↦ Stands uploads slots base f .rest := by
  refine .bind (meets_step (q := .ended) ha hf rfl (by simp [Call.concerns]) rfl (by simp))
    fun _ ↦ ?_
  refine .bind (meets_stepOutsideFrames rfl trivial) fun _ ↦ ?_
  refine meets_step ha hf rfl ?_ (by simp [Phase.next?]) (by simp)
  cases screen <;> simp [Call.concerns, submission]

end FrameSlot

end RenderTargets.Vulkan
