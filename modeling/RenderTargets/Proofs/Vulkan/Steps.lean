import RenderTargets.Proofs.Step.Triple
import RenderTargets.Vulkan.Host
/-!
# Triples of steps on a host

The rules for what a device is made of: calls of the driver, whose failure is an error or is passed
over, and steps of a part with a state of its own beside the host.

## Parts

Most steps leave their part alone. `RunOn.At t P` says that the part is `t` and the host has `P`, so
that the part need not be looked for in what is known of the host.

## Silence

What gives something up has to be **silent**: it answers from every host and writes nothing to the
journal. Only then may it stand in for an undoing. A silent step with a triple **completes**.
-/

namespace RenderTargets.Vulkan

open StepWith Log

variable {α β τ : Type}

namespace Run

variable {P S : Host → Prop} {Q : α → Host → Prop} {E : EngineError → Host → Prop}

/-! ### Calls -/

theorem meets_driving {f : Driver → α × Driver}
    (h : ∀ s, P s → Q (f s.driver).1 { s with driver := (f s.driver).2 }) :
    Meets P (driving f) Q E :=
  h

theorem meets_changeDriver {f : Driver → Driver} {Q : Unit → Host → Prop}
    (h : ∀ s, P s → Q () { s with driver := f s.driver }) : Meets P (changeDriver f) Q E :=
  h

section Answers

variable {f : Driver → Except ResultCode α × Driver}
  (hok : ∀ s a d, P s → f s.driver = (.ok a, d) → Q a { s with driver := d })
  (herr : ∀ s code d, P s → f s.driver = (.error code, d) → S { s with driver := d })
  (hnote : ∀ s j, S s → S { s with journal := j })
include hok herr

/-- What is known of the two answers of a call is known after it was made. -/
theorem meets_answer :
    Meets P (driving f) (fun r s ↦ r.casesOn (fun _ ↦ S s) fun a ↦ Q a s) E := by
  refine meets_driving fun s hs ↦ ?_
  rcases hf : f s.driver with ⟨_ | a, d⟩
  · exact herr s _ d hs hf
  · exact hok s a d hs hf

include hnote

theorem meets_work {action : String} : Meets P (work action f) Q fun _ ↦ S := by
  refine .bind (meets_answer hok herr) fun r ↦ ?_
  cases r with
  | ok a => exact .pure fun _ h ↦ h
  | error code => exact .refuse fun s j h ↦ hnote s j h

theorem meets_setUp {logged action : String} : Meets P (setUp logged action f) Q fun _ ↦ S := by
  refine .bind (meets_answer hok herr) fun r ↦ ?_
  cases r with
  | ok a => exact .pure fun _ h ↦ h
  | error code =>
    exact .bind (Meets.note (Q := fun _ ↦ S) fun s j h ↦ hnote s j h) fun _ ↦ .fail fun _ h ↦ h

end Answers

theorem meets_giveUp {words : String} {cause : InitializationCause}
    (hnote : ∀ s j, S s → S { s with journal := j }) :
    Meets S (giveUp words cause : Run α) Q fun _ ↦ S :=
  .bind (Meets.note (Q := fun _ ↦ S) fun s j h ↦ hnote s j h) fun _ ↦ .fail fun _ h ↦ h

theorem meets_giveUp_bind {words : String} {cause : InitializationCause} {f : α → Run β}
    {R : β → Host → Prop} (h : ∀ s j, P s → E (.initialization cause) { s with journal := j }) :
    Meets P (giveUp words cause >>= f) R E :=
  .bind (Q := fun _ _ ↦ False) (.bind (Meets.note (Q := fun _ ↦ E (.initialization cause)) h)
    fun _ ↦ .fail fun _ h ↦ h) fun _ _ h ↦ h.elim

/-! ### Silence -/

/-- The step answers from every host and leaves the journal alone. -/
def Silent (x : Run α) : Prop := ∀ s, ∃ a t, x s = .ok a t ∧ t.journal = s.journal

namespace Silent

variable {x : Run α}

theorem pure {a : α} : Silent (Pure.pure a : Run α) := fun s ↦ ⟨a, s, rfl, rfl⟩

theorem bind {f : α → Run β} (hx : Silent x) (hf : ∀ a, Silent (f a)) : Silent (x >>= f) := by
  intro s
  obtain ⟨a, t, ht, hj⟩ := hx s
  obtain ⟨b, u, hu, hk⟩ := hf a t
  exact ⟨b, u, (bind_ok ht).trans hu, hk.trans hj⟩

theorem update {f : Host → Host} (h : ∀ s, (f s).journal = s.journal) :
    Silent (modify f : Run PUnit) :=
  fun s ↦ ⟨⟨⟩, f s, rfl, h s⟩

theorem changeDriver {f : Driver → Driver} : Silent (Run.changeDriver f) :=
  .update fun _ ↦ rfl

theorem destroy {kind : ObjectKind} {o : Object kind} : Silent (Run.destroy o) := .changeDriver

theorem unshare : Silent Run.unshare := .update fun _ ↦ rfl

theorem tryOut {f : Driver → Except ResultCode α × Driver} : Silent (Run.tryOut f) :=
  .bind (fun _ ↦ ⟨_, _, rfl, rfl⟩) fun _ ↦ .pure

theorem each {f : α → Run Unit} {l : List α} (h : ∀ a ∈ l, Silent (f a)) :
    Silent (Run.each f l) := by
  induction l with
  | nil => exact .pure
  | cons a l ih =>
    exact .bind (h a List.mem_cons_self) fun _ ↦ ih fun b hb ↦ h b (List.mem_cons_of_mem a hb)

/-- A silent step does not fail. -/
theorem meets (h : Silent x) (hx : Meets P x Q E) {E' : EngineError → Host → Prop} :
    Meets P x Q E' := by
  intro s hs
  obtain ⟨a, t, ht, -⟩ := h s
  have ha : Q a t := hx.ok hs ht
  rw [ht]
  exact ha

/-- What a silent step undoes after a fault. -/
theorem undoing {undo : Run Unit} {E' : EngineError → Host → Prop} (h : Silent undo)
    (hx : Meets P x Q E') (hu : ∀ e, Meets (E' e) undo (fun _ ↦ E e) E) :
    Meets P (StepWith.undoing x undo) Q E := by
  have htrap : Meets (fun _ ↦ True) undo (fun _ _ ↦ True) fun _ _ ↦ True := by
    intro s _
    rcases undo s with ⟨_, _⟩ | ⟨_ | _, _⟩ <;> trivial
  exact .undoing hx (fun e ↦ h.meets (hu e)) (h.meets htrap)

end Silent

/-! ### Completion -/

/-- From a host with `P` the step answers, with `Q`, and leaves the journal alone. -/
def Completes (P : Host → Prop) (x : Run α) (Q : α → Host → Prop) : Prop :=
  ∀ s, P s → ∃ a t, x s = .ok a t ∧ t.journal = s.journal ∧ Q a t

theorem Silent.completes {x : Run α} (h : Silent x) (hx : Meets P x Q fun _ _ ↦ True) :
    Completes P x Q := by
  intro s hs
  obtain ⟨a, t, ht, hj⟩ := h s
  exact ⟨a, t, ht, hj, hx.ok hs ht⟩

namespace Completes

variable {x : Run α} {R : β → Host → Prop}

theorem update {f : Host → Host} {Q : PUnit → Host → Prop}
    (h : ∀ s, P s → (f s).journal = s.journal ∧ Q ⟨⟩ (f s)) :
    Completes P (modify f : Run PUnit) Q :=
  fun s hs ↦ ⟨⟨⟩, f s, rfl, h s hs⟩

theorem bind {f : α → Run β} (hx : Completes P x Q) (hf : ∀ a, Completes (Q a) (f a) R) :
    Completes P (x >>= f) R := by
  intro s hs
  obtain ⟨a, t, ht, hj, hq⟩ := hx s hs
  obtain ⟨b, u, hu, hk, hr⟩ := hf a t hq
  exact ⟨b, u, (bind_ok ht).trans hu, hk.trans hj, hr⟩

theorem get_bind {f : Host → Run β} (h : ∀ s, P s → Completes P (f s) R) :
    Completes P (MonadState.get >>= f) R := fun s hs ↦ h s hs s hs

end Completes

/-- After a fault it does not matter what was undone. -/
theorem meets_undoing {x : Run α} {undo : Run Unit} {E' : EngineError → Host → Prop}
    (hx : Meets P x Q E') : Meets P (StepWith.undoing x undo) Q fun _ _ ↦ True := by
  intro s hs
  have h := hx s hs
  rw [StepWith.undoing]
  rcases hxs : x s with ⟨a, t⟩ | ⟨e, t⟩ <;> rw [hxs] at h
  · exact h
  · simp only
    rcases undo t with ⟨_, u⟩ | ⟨f | _, u⟩
    · cases e <;> trivial
    · trivial
    · trivial

end Run

namespace RunOn

variable {P : Host → Prop} {t : τ}

/-- The part is `t` and the host has `P`. -/
def At (t : τ) (P : Host → Prop) : τ × Host → Prop := fun s ↦ s.1 = t ∧ P s.2

variable {R : β → τ × Host → Prop} {E : EngineError → τ × Host → Prop}

/-- What holds of each part with its host holds of all. -/
theorem meets_at {I : τ × Host → Prop} {x : RunOn τ β}
    (h : ∀ t, Meets (At t fun s ↦ I (t, s)) x R E) : Meets I x R E :=
  fun s hs ↦ h s.1 s ⟨rfl, hs⟩

theorem part_bind_apply (f : τ → RunOn τ β) (s : τ × Host) : (part >>= f) s = f s.1 s := rfl

theorem meets_part_bind {f : τ → RunOn τ β} (h : Meets (At t P) (f t) R E) :
    Meets (At t P) (part >>= f) R E := by
  rintro ⟨u, s⟩ ⟨rfl, hs⟩
  exact h (u, s) ⟨rfl, hs⟩

theorem meets_get_bind {f : τ × Host → RunOn τ β}
    (h : ∀ s, P s → Meets (At t P) (f (t, s)) R E) :
    Meets (At t P) (MonadState.get >>= f) R E := by
  rintro ⟨u, s⟩ ⟨rfl, hs⟩
  exact h s hs (u, s) ⟨rfl, hs⟩

theorem meets_change {f : τ → τ} : Meets (At t P) (change f) (fun _ ↦ At (f t) P) E := by
  rintro ⟨u, s⟩ ⟨rfl, hs⟩
  exact ⟨rfl, hs⟩

theorem meets_change_bind {f : τ → τ} {y : Unit → RunOn τ β} (h : Meets (At (f t) P) (y ()) R E) :
    Meets (At t P) (change f >>= y) R E :=
  .bind meets_change fun _ ↦ h

/-- A step on the host leaves the part alone. -/
theorem meets_lift {x : Run α} {Q : α → Host → Prop} {F : EngineError → Host → Prop}
    (h : Meets P x Q F) :
    Meets (At t P) (liftM x : RunOn τ α) (fun a ↦ At t (Q a)) fun e ↦ At t (F e) := by
  refine .within ?_
  rintro ⟨u, s⟩ ⟨rfl, hs⟩
  exact h.mono (fun v hv ↦ hv ▸ hs) (fun a v hv ↦ ⟨rfl, hv⟩) fun e v hv ↦ ⟨rfl, hv⟩

theorem meets_lift_bind {x : Run α} {Q : α → Host → Prop} {F : EngineError → Host → Prop}
    {f : α → RunOn τ β} (h : Meets P x Q F) (hE : ∀ e s, F e s → E e (t, s))
    (hf : ∀ a, Meets (At t (Q a)) (f a) R E) :
    Meets (At t P) ((liftM x : RunOn τ α) >>= f) R E := by
  refine .bind ((meets_lift h).mono (fun _ hs ↦ hs) (fun _ _ hs ↦ hs) ?_) hf
  rintro e ⟨u, s⟩ ⟨rfl, hs⟩
  exact hE e s hs

/-- What is undone on the host leaves the part as the fault left it. -/
theorem meets_undoing {I : τ × Host → Prop} {x : RunOn τ β} {undo : Run Unit}
    {F : EngineError → τ × Host → Prop} (h : Run.Silent undo) (hx : Meets I x R F)
    (hu : ∀ e t, Meets (fun s ↦ F e (t, s)) undo (fun _ s ↦ E e (t, s)) fun _ _ ↦ True) :
    Meets I (StepWith.undoing x (liftM undo : RunOn τ Unit)) R E := by
  have hlift : ∀ s : τ × Host, ∃ u, undo s.2 = .ok () u ∧
      (liftM undo : RunOn τ Unit) s = .ok () (s.1, u) := by
    intro s
    obtain ⟨⟨⟩, u, hus, -⟩ := h s.2
    refine ⟨u, hus, ?_⟩
    show StepWith.within .snd undo s = _
    simp only [StepWith.within, Lens.snd, hus]
  refine .undoing hx (fun e s hs ↦ ?_) fun s _ ↦ ?_
  · obtain ⟨u, hus, hl⟩ := hlift s
    have hE : E e (s.1, u) := (hu e s.1).ok hs hus
    rw [hl]
    exact hE
  · obtain ⟨u, -, hl⟩ := hlift s
    rw [hl]
    trivial

/-- A part that was built up; nothing is known after a fault. -/
theorem meets_construct {build : RunOn τ Unit} {drop : τ → Run Unit} {Q : τ → Host → Prop}
    (h : Meets (At t P) build (fun _ s ↦ Q s.1 s.2) fun _ _ ↦ True) :
    Meets P (construct t build drop) Q fun _ _ ↦ True := by
  intro s hs
  have hb := h (t, s) ⟨rfl, hs⟩
  rw [construct]
  rcases hbs : build (t, s) with ⟨a, u, v⟩ | ⟨e, u, v⟩ <;> rw [hbs] at hb
  · exact hb
  · simp only
    rcases drop u v with ⟨_, w⟩ | ⟨f | _, w⟩
    · cases e <;> trivial
    · trivial
    · trivial

end RunOn

end RenderTargets.Vulkan
