import RenderTargets.Proofs.Vulkan.Held
import RenderTargets.Vulkan.Frame
/-!
# Frame slots

What a frame slot has to end and what its steps do to its fence. A slot begins with a wait for its
fence and is handed over with the fence reset, so that these are the steps that `Fenced` is about.

A slot never gives its command buffer back: that goes with the command pool.

## The two states of a fence

A frame slot is waited for without a limit of time, so its fence should be one that will be
signalled. Like the lives of objects, that is read off a trace, the latest call first.

A fence is **awaitable** if it was made, or handed over with work, after it was reset last. It is
**lost** if the submission that it was reset for failed. It is never both, and the fence of a slot
is always one of the two, except between its reset and the submission.

Waits are therefore exact: the fence of a wait is awaitable unless it is lost (`WaitsFit`).
-/

namespace RenderTargets.Vulkan

open StepWith Run

/-! ### Fences in a trace -/

/-- The fence was made or handed over with work after its last reset. -/
def Awaitable : List Call → Object .fence → Prop
  | [], _ => False
  | c :: past, f =>
    c = .createFence f ∨ (∃ queue work, c = .submit queue work f) ∨
      Awaitable past f ∧ c ≠ .resetFence f

/-- The call after the last reset of the fence was a submission with it that failed, and the fence
was not made or handed over since. -/
def Lost : List Call → Object .fence → Prop
  | c :: d :: past, f =>
    (∃ queue work code, c = .failed .submit (.submit queue work f) code) ∧ d = .resetFence f ∨
      Lost (d :: past) f ∧ c ≠ .resetFence f ∧ c ≠ .createFence f ∧
        ∀ queue work, c ≠ .submit queue work f
  | _, _ => False

/-- Every fence that was waited for was awaitable or lost, and not both. -/
def WaitsFit : List Call → Prop
  | [] => True
  | c :: past => WaitsFit past ∧ ∀ f, c = .waitForFence f → (Awaitable past f ↔ ¬Lost past f)

variable {c d : Call} {past : List Call} {f g : Object .fence}

theorem Awaitable.cons (h : Awaitable past f) (hc : c ≠ .resetFence f) : Awaitable (c :: past) f :=
  .inr (.inr ⟨h, hc⟩)

/-- A lost fence stays lost until it is reset, made or handed over. -/
theorem Lost.cons (h : Lost past f) (hc : c ≠ .resetFence f) :
    Awaitable (c :: past) f ∨ Lost (c :: past) f := by
  by_cases hmade : c = .createFence f
  · exact .inl (.inl hmade)
  · by_cases hwork : ∃ queue work, c = .submit queue work f
    · exact .inl (.inr (.inl hwork))
    · cases past with
      | nil => exact h.elim
      | cons d past => exact .inr (.inr ⟨h, hc, hmade, fun q w hq ↦ hwork ⟨q, w, hq⟩⟩)

theorem Lost.not_awaitable (h : Lost past f) : ¬Awaitable past f := by
  induction past with
  | nil => exact h.elim
  | cons c past ih =>
    cases past with
    | nil => exact h.elim
    | cons d past =>
      rcases h with ⟨⟨queue, work, code, rfl⟩, rfl⟩ | ⟨hlost, -, hmade, hwork⟩
      · rintro (hm | ⟨q, w, hw⟩ | ⟨hm | ⟨q, w, hw⟩ | ⟨-, hr⟩, -⟩)
        · cases hm
        · cases hw
        · cases hm
        · cases hw
        · exact hr rfl
      · rintro (hm | ⟨q, w, hw⟩ | ⟨ha, -⟩)
        · exact hmade hm
        · exact hwork q w hw
        · exact ih hlost ha

theorem WaitsFit.of_append {later : List Call} (h : WaitsFit (later ++ .waitForFence f :: past)) :
    Awaitable past f ↔ ¬Lost past f := by
  induction later with
  | nil => exact h.2 f rfl
  | cons c later ih => exact ih h.1

/-- A fence is only lost if a submission with it failed. -/
theorem Lost.exists_failed (h : Lost past f) :
    ∃ queue work code, .failed .submit (.submit queue work f) code ∈ past := by
  induction past with
  | nil => exact h.elim
  | cons c past ih =>
    cases past with
    | nil => exact h.elim
    | cons d past =>
      rcases h with ⟨⟨queue, work, code, rfl⟩, -⟩ | ⟨h, -⟩
      · exact ⟨queue, work, code, List.mem_cons_self⟩
      · obtain ⟨queue, work, code, hc⟩ := ih h
        exact ⟨queue, work, code, List.mem_cons_of_mem c hc⟩

/-- What is chosen for a window of the size has pixels. -/
def SurfaceOffer.HasPixels (o : SurfaceOffer) (size : Extent) : Prop :=
  ∀ extent, chooseExtent? o.capabilities size.width size.height = some extent →
    extent.width ≠ 0 ∧ extent.height ≠ 0

/-- The waits fit, each of the fences is awaitable or lost, and the surface offers what it is known
to. -/
structure Fenced (offered : SurfaceOffer → Prop) (fences : List (Object .fence)) (calls : List Call)
    (offer : SurfaceOffer) : Prop where
  /-- The waits so far. -/
  waits : WaitsFit calls
  /-- The fences. -/
  fences : ∀ f ∈ fences, Awaitable calls f ∨ Lost calls f
  /-- The surface. -/
  offer : offered offer

namespace Fenced

variable {offered : SurfaceOffer → Prop} {fences fences' : List (Object .fence)} {calls : List Call}
  {offer : SurfaceOffer}

theorem cons (h : Fenced offered fences calls offer)
    (hc : ∀ f, c = .waitForFence f → f ∈ fences)
    (hf : ∀ f ∈ fences', Awaitable (c :: calls) f ∨ c ≠ .resetFence f ∧ f ∈ fences) :
    Fenced offered fences' (c :: calls) offer where
  waits := by
    refine ⟨h.waits, fun f hw ↦ ⟨fun ha hl ↦ hl.not_awaitable ha, fun hl ↦ ?_⟩⟩
    exact (h.fences f (hc f hw)).resolve_right hl
  fences f hmem := by
    rcases hf f hmem with ha | ⟨hr, hmem⟩
    · exact .inl ha
    · rcases h.fences f hmem with ha | hl
      · exact .inl (ha.cons hr)
      · exact hl.cons hr
  offer := h.offer

theorem push (h : Fenced offered fences calls offer) (hc : c.IsOrdinary) :
    Fenced offered fences (c :: calls) offer := by
  refine h.cons (fun f hw ↦ ?_) fun f hf ↦ .inr ⟨?_, hf⟩
  · subst hw
    exact hc.elim
  · rintro rfl
    exact hc

end Fenced

/-- The backdrop of a device with these fences. -/
def fenced (offered : SurfaceOffer → Prop) (frames : Object .commandPool)
    (fences : List (Object .fence)) : Backdrop :=
  ⟨frames.any, Fenced offered fences, fun hc h ↦ h.push hc⟩

end RenderTargets.Vulkan

namespace RenderTargets.Vulkan

open StepWith Run

variable {offered : SurfaceOffer → Prop} {frames : Object .commandPool}
    {fences : List (Object .fence)}
  {b : Backdrop} {e r : Estate} {name : CallName} {action logged : String}

/-! ### Calls about fences and pools -/

/-- A fence that was made is one more to know of. -/
theorem meets_createFence :
    Meets (Held (fenced offered frames fences) r)
      (setUp logged action (Driver.create name .createFence))
      (fun o ↦ Held (fenced offered frames (fences ++ [o])) (o.sole + r))
      fun _ ↦ Held (fenced offered frames fences) r := by
  have hc : Makes .fence .createFence none r :=
    .of_nil (fun _ ↦ rfl) (fun _ ↦ trivial) fun _ ↦ rfl
  refine meets_setUp (fun s o d hs hd ↦ ?_) (fun _ _ _ hs hd ↦ hs.of_create_error hd) fun _ _ h ↦ h
  obtain ⟨rfl, rfl⟩ := Driver.create_ok hd
  have hb : Fenced offered fences s.driver.calls s.driver.surface := Books.backdrop hs
  refine (hs.tally.make hc (by decide)).reframe rfl (hb.cons (by simp) fun f hf ↦ ?_)
  rcases List.mem_append.1 hf with hf | hf
  · exact .inr ⟨by simp, hf⟩
  · exact .inl (.inl (List.mem_singleton.1 hf ▸ rfl))

/-- Waiting for a fence that is known. -/
theorem keeps_wait {f : Object .fence} (hf : f ∈ fences) (hc : e.Covers f.any) :
    Keeps (Held (fenced offered frames fences) e)
      (work action (Driver.perform name (.waitForFence f))) := by
  refine meets_work (fun h _ d hh hd ↦ ?_) (fun _ _ _ hh hd ↦ hh.of_perform_error hd) fun _ _ h ↦ h
  obtain rfl := Driver.perform_ok hd
  have hb : Fenced offered fences h.driver.calls h.driver.surface := Books.backdrop hh
  refine hh.tally.push_of_holds ⟨rfl, rfl, rfl⟩ rfl (hb.cons ?_ fun g hg ↦ .inr ⟨by simp, hg⟩) ?_
  · rintro _ ⟨⟩
    exact hf
  · exact fun o ho ↦ Books.covered hh (List.mem_singleton.1 ho ▸ hc)

/-- The sets of a pool are in nobody's estate. -/
theorem keeps_resetPool {p : Object .descriptorPool} (hc : e.Covers p.any) :
    Keeps (Held b e) (work action (Driver.perform name (.resetDescriptorPool p))) := by
  refine meets_work (fun h _ d hh hd ↦ ?_) (fun _ _ _ hh hd ↦ hh.of_perform_error hd) fun _ _ h ↦ h
  obtain rfl := Driver.perform_ok hd
  have hu : ∀ o ∈ (Call.resetDescriptorPool p).uses, o.IsOwned →
      ∃ x, Alive h.driver.calls x ∧ x.object = o :=
    fun o ho ↦ Books.covered hh (List.mem_singleton.1 ho ▸ hc)
  have hz : Books b (0 + e) h.driver.calls h.driver.made h.driver.surface h.owners :=
    (zero_add e).symm ▸ hh
  refine hz.push_ending (b.push trivial (Books.backdrop hh)) rfl
    (Books.fits hh rfl hu fun _ hend ↦ by cases hend)
    (fun x hx ↦ (Estate.mem_zero.1 hx).elim) (fun x hx ↦ ?_) rfl
  rintro (hend | ⟨pool, hhome, hpool⟩)
  · cases hend
  · obtain rfl := Option.some.inj hpool
    cases (Books.home_kind hh hx hhome).2

namespace FrameSlot

/-- The command buffer with its pool. -/
def buffer (frames : Object .commandPool) (f : FrameSlot) : Holding :=
  ⟨f.commands.any, some frames.any⟩

/-- What a slot gives back. -/
def ownEstate (f : FrameSlot) : Estate := f.pool.sole + f.fence.sole + .share

/-- The command buffer, the fence, the descriptor pool and the context. -/
def estate (frames : Object .commandPool) (f : FrameSlot) : Estate :=
  f.ownEstate + .one (f.buffer frames)

theorem covers_commands (f : FrameSlot) : (f.estate frames).Covers f.commands.any := by
  simp [estate, buffer]

theorem covers_fence (f : FrameSlot) : (f.estate frames).Covers f.fence.any := by
  simp [estate, ownEstate]

theorem covers_pool (f : FrameSlot) : (f.estate frames).Covers f.pool.any := by
  simp [estate, ownEstate]

theorem silent_drop (f : FrameSlot) : Silent f.drop :=
  .bind .destroy fun _ ↦ .bind .destroy fun _ ↦ .unshare

theorem meets_drop {E : EngineError → Host → Prop} (f : FrameSlot) :
    Meets (Held b (f.ownEstate + r)) f.drop (fun _ ↦ Held b r) E := by
  simp only [ownEstate, add_assoc]
  exact .bind (meets_destroy trivial) fun _ ↦ .bind (meets_destroy trivial) fun _ ↦ meets_unshare

theorem meets_create (hp : ⟨frames.any, none⟩ ∈ r.1) :
    Meets (Held (fenced offered frames fences) r) (create frames)
      (fun f ↦ Held (fenced offered frames (fences ++ [f.fence])) (f.estate frames + r))
      fun _ _ ↦ True := by
  have hcover : r.Covers frames.any := Estate.covers_of_mem hp
  have hm : Makes .commandBuffer (.allocateCommandBuffer · frames) (some frames.any)
      r := by
    refine ⟨fun _ ↦ rfl, fun _ ↦ trivial, fun _ ↦ by simpa [Call.uses] using hcover, ?_⟩
    rintro _ ⟨⟩
    exact ⟨_, hp, rfl⟩
  refine .bind (meets_setUpMake hm (by decide)).lax fun commands ↦ .bind meets_share fun _ ↦ ?_
  refine RunOn.meets_construct ?_
  refine RunOn.meets_lift_bind meets_createFence.lax (fun _ _ _ ↦ trivial) fun fence ↦ ?_
  refine RunOn.meets_change_bind ?_
  have hpool : Makes .descriptorPool (.createDescriptorPool · setLimit imageLimit) none
      (fence.sole + (.share + (Estate.one ⟨commands.any, some frames.any⟩ + r))) :=
    .of_nil (fun _ ↦ rfl) (fun _ ↦ trivial) fun _ ↦ rfl
  refine RunOn.meets_lift_bind (meets_setUpMake hpool (by decide)).lax (fun _ _ _ ↦ trivial)
    fun pool ↦ ?_
  refine RunOn.meets_change.post ?_
  rintro _ ⟨f, h⟩ ⟨rfl, hh⟩
  refine hh.of_eq ?_
  simp only [estate, ownEstate, buffer, Object.sole]
  abel

/-- The slots are made one after the other, with their fences in the same order. -/
theorem meets_createMany {slots : List FrameSlot} {n : ℕ} (hp : ⟨frames.any, none⟩ ∈ r.1) :
    Meets (Held (fenced offered frames (slots.map (·.fence)))
        ((slots.map (FrameSlot.estate frames)).sum + r))
      (createMany frames slots n)
      (fun l ↦ Held (fenced offered frames (l.map (·.fence)))
        ((l.map (FrameSlot.estate frames)).sum + r))
      fun _ _ ↦ True := by
  induction n generalizing slots with
  | zero => exact .pure fun _ hh ↦ hh
  | succ n ih =>
    refine .bind (Run.meets_undoing (meets_create (Estate.mem_add.2 (.inr hp)))) fun f ↦ ?_
    refine ih.pre fun h hh ↦ ?_
    rw [List.map_append, List.map_append, List.sum_append, List.map_singleton, List.map_singleton,
      List.sum_singleton]
    exact hh.of_eq (by abel)

theorem meets_createAll {n : ℕ} (hp : ⟨frames.any, none⟩ ∈ r.1) :
    Meets (Held (fenced offered frames []) r) (createMany frames [] n)
      (fun l ↦ Held (fenced offered frames (l.map (·.fence)))
        ((l.map (FrameSlot.estate frames)).sum + r))
      fun _ _ ↦ True :=
  (meets_createMany hp).pre fun _ hh ↦ hh.of_eq (zero_add r).symm

theorem keeps_begin {f : FrameSlot} (hf : f.fence ∈ fences)
    (he : ∀ o, (f.estate frames).Covers o → e.Covers o) :
    Keeps (Held (fenced offered frames fences) e) f.begin := by
  refine .bind (keeps_wait hf (he _ f.covers_fence)) fun _ ↦ ?_
  refine .bind (keeps_resetPool (he _ f.covers_pool)) fun _ ↦ ?_
  refine .bind (keeps_perform ⟨rfl, rfl, rfl⟩ trivial ?_) fun _ ↦
    keeps_perform ⟨rfl, rfl, rfl⟩ trivial ?_
  · simpa [Call.uses] using he _ f.covers_commands
  · simpa [Call.uses] using he _ f.covers_commands

/-- A set that was made lives, although it is in nobody's estate. -/
theorem meets_allocateSet {f : FrameSlot} {layout : Object .setLayout}
    (hp : ⟨f.pool.any, none⟩ ∈ r.1) (hl : r.Covers layout.any) :
    Meets (Held b r) (f.allocateSet layout)
      (fun o h ↦ Held b r h ∧ ∃ x, Alive h.driver.calls x ∧ x.object = o.any)
      fun _ ↦ Held b r := by
  refine meets_work (fun s o d hs hd ↦ ?_) (fun _ _ _ hs hd ↦ hs.of_create_error hd) fun _ _ h ↦ h
  obtain ⟨rfl, rfl⟩ := Driver.create_ok hd
  let c : Call := .allocateDescriptorSet ⟨s.driver.made.count .descriptorSet + 1⟩ f.pool layout
  have hc : c.IsOrdinary := trivial
  have hm : c.made? = some
      ⟨⟨.descriptorSet, s.driver.made.count .descriptorSet + 1⟩, some f.pool.any⟩ := rfl
  refine ⟨Books.push_set hs.tally hc hm rfl rfl (Books.fits_made hs.tally hm rfl ?_ ?_), ?_⟩
  · have hpool : r.Covers f.pool.any := Estate.covers_of_mem hp
    simp [c, Call.uses, hpool, hl]
  · rintro _ ⟨⟩
    exact ⟨_, hp, rfl⟩
  · exact ⟨_, .inl hm, rfl⟩

/-- The other fences are known between the reset and the submission. -/
theorem meets_reset {f : Object .fence} (hc : e.Covers f.any) :
    Meets (Held (fenced offered frames fences) e)
      (work action (Driver.perform name (.resetFence f)))
      (fun _ h ↦ Held (fenced offered frames (fences.filter (· ≠ f))) e h ∧
        ∃ past, h.driver.calls = .resetFence f :: past)
      fun _ ↦ Held (fenced offered frames fences) e := by
  refine meets_work (fun s _ d hs hd ↦ ?_) (fun _ _ _ hs hd ↦ hs.of_perform_error hd) fun _ _ h ↦ h
  obtain rfl := Driver.perform_ok hd
  have hb : Fenced offered fences s.driver.calls s.driver.surface := Books.backdrop hs
  have hu : ∀ o ∈ (Call.resetFence f).uses, o.IsOwned →
      ∃ x, Alive s.driver.calls x ∧ x.object = o :=
    fun o ho ↦ Books.covered hs (List.mem_singleton.1 ho ▸ hc)
  refine ⟨hs.tally.push_of_holds ⟨rfl, rfl, rfl⟩ rfl (hb.cons (by simp) fun g hg ↦ .inr ?_) hu, _,
    rfl⟩
  obtain ⟨hg, hne⟩ := List.mem_filter.1 hg
  refine ⟨fun h ↦ ?_, hg⟩
  cases h
  simp at hne

/-- The submission makes the fence awaitable, or lost if it fails. -/
theorem meets_submit {f : Object .fence} {queue : Object .queue} {w : Submission}
    (hc : ∀ o ∈ (Call.submit queue w f).uses, e.Covers o) :
    Meets (fun h ↦ Held (fenced offered frames (fences.filter (· ≠ f))) e h ∧
        ∃ past, h.driver.calls = .resetFence f :: past)
      (work action (Driver.perform .submit (.submit queue w f)))
      (fun _ ↦ Held (fenced offered frames fences) e)
      fun _ ↦ Held (fenced offered frames fences) e := by
  refine meets_work ?_ ?_ fun _ _ h ↦ h
  · rintro s _ d ⟨hs, -⟩ hd
    obtain rfl := Driver.perform_ok hd
    have hb : Fenced offered (fences.filter (· ≠ f)) s.driver.calls s.driver.surface :=
      Books.backdrop hs
    refine hs.tally.push_of_holds ⟨rfl, rfl, rfl⟩ rfl (hb.cons (by simp) fun g hg ↦ ?_) fun o ho ↦
      Books.covered hs (hc o ho)
    by_cases hgf : g = f
    · exact .inl (.inr (.inl ⟨queue, w, by rw [hgf]⟩))
    · exact .inr ⟨by simp, List.mem_filter.2 ⟨hg, by simpa using hgf⟩⟩
  · rintro s code d ⟨hs, past, hpast⟩ hd
    obtain rfl := Driver.perform_error hd
    have hb : Fenced offered (fences.filter (· ≠ f)) (.failed .submit (.submit queue w f) code ::
        s.driver.calls) s.driver.surface := Fenced.push (Books.backdrop hs) trivial
    refine hs.tally.push_of_holds ⟨rfl, rfl, rfl⟩ rfl ⟨hb.waits, fun g hg ↦ ?_, hb.offer⟩
      (List.forall_mem_nil _)
    by_cases hgf : g = f
    · refine .inr ?_
      show Lost (.failed .submit (.submit queue w f) code :: s.driver.calls) g
      rw [hpast, hgf]
      exact .inl ⟨⟨queue, w, code, rfl⟩, rfl⟩
    · exact hb.fences g (List.mem_filter.2 ⟨hg, by simpa using hgf⟩)

theorem keeps_submit {ctx : Context} {f : FrameSlot}
    {screen : Option (Object .semaphore × Object .semaphore)}
    (he : ∀ o, (f.estate frames).Covers o → e.Covers o)
    (hs : ∀ wait signal, screen = some (wait, signal) → e.Covers wait.any ∧ e.Covers signal.any) :
    Keeps (Held (fenced offered frames fences) e) (f.submit ctx screen) := by
  have hcommands := he _ f.covers_commands
  have hfence := he _ f.covers_fence
  refine .bind (keeps_perform ⟨rfl, rfl, rfl⟩ trivial ?_) fun _ ↦ ?_
  · simpa [Call.uses] using hcommands
  refine .bind (meets_reset hfence) fun _ ↦ meets_submit ?_
  rcases screen with _ | ⟨wait, signal⟩
  · simp [Call.uses, submission, hcommands, hfence]
  · obtain ⟨hwait, hsignal⟩ := hs wait signal rfl
    simp [Call.uses, submission, hcommands, hfence, hwait, hsignal]

end FrameSlot

end RenderTargets.Vulkan
