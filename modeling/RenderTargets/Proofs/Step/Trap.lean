import RenderTargets.Proofs.Step.Triple
/-!
# Where steps trap

A triple says nothing of a trap. `StepWith.TrapsIn P x T` is what it leaves out: from a state with
`P`, a step that traps leaves a state with `T`. With `T` false the step does not trap; with `T` an
invariant, the invariant holds where a trap ends everything.

The two are kept apart because they are proved apart. What is known between two steps comes from the
triple of the first one (`TrapsIn.bind`), so a triple that was proved once serves for both, and of
most steps only their checks and their arithmetic have to be looked at again.

Where errors and traps are not told apart, `StepWith.EndsIn P x Q T` speaks of both at once: every
fault leaves a state with `T`. What is undone after a fault then needs no more than to keep `T`.
-/

namespace RenderTargets.StepWith

variable {ε σ τ α β : Type}

/-- From a state with `P`, the step leaves a state with `T` if it traps. -/
def TrapsIn (P : σ → Prop) (x : StepWith ε σ α) (T : σ → Prop) : Prop :=
  ∀ s, P s → ∀ t, x s = .error .trap t → T t

/-- From a state with `P`, the step does not trap. -/
abbrev Safe (P : σ → Prop) (x : StepWith ε σ α) : Prop := TrapsIn P x fun _ ↦ False

variable {P P' : σ → Prop} {Q : α → σ → Prop} {E : ε → σ → Prop} {T T' : σ → Prop}
  {x : StepWith ε σ α}

theorem TrapsIn.mono (h : TrapsIn P x T) (hP : ∀ s, P' s → P s) (hT : ∀ s, T s → T' s) :
    TrapsIn P' x T' :=
  fun s hs t ht ↦ hT t (h s (hP s hs) t ht)

theorem TrapsIn.pre (h : TrapsIn P x T) (hP : ∀ s, P' s → P s) : TrapsIn P' x T :=
  h.mono hP fun _ ht ↦ ht

/-- What does not depend on the state is assumed once. -/
theorem TrapsIn.assume {p : Prop} (h : p → TrapsIn P x T) : TrapsIn (fun s ↦ p ∧ P s) x T :=
  fun s hs ↦ h hs.1 s hs.2

/-- A triple and a place for traps say how a step ends. -/
theorem Safe.exists_result (h : Safe P x) {s : σ} (hs : P s) :
    (∃ a t, x s = .ok a t) ∨ ∃ e t, x s = .error (.error e) t := by
  rcases hx : x s with ⟨a, t⟩ | ⟨e | _, t⟩
  · exact .inl ⟨a, t, rfl⟩
  · exact .inr ⟨e, t, rfl⟩
  · exact (h s hs t hx).elim

/-! ### Single steps -/

theorem TrapsIn.pure {a : α} : TrapsIn P (Pure.pure a : StepWith ε σ α) T := nofun

theorem TrapsIn.update {f : σ → σ} : TrapsIn P (modify f : StepWith ε σ PUnit) T := nofun

theorem TrapsIn.fail {e : ε} : TrapsIn P (StepWith.fail e : StepWith ε σ α) T := nofun

theorem TrapsIn.ofChecked {c : Checked ε α} (h : c = .error .trap → ∀ s, P s → T s) :
    TrapsIn P (StepWith.ofChecked c) T := by
  rcases c with (e | _) | a
  · exact .fail
  · rintro s hs _ ⟨⟩
    exact h rfl s hs
  · exact .pure

theorem TrapsIn.orTrap {o : Option α} (h : o = none → ∀ s, P s → T s) :
    TrapsIn P (StepWith.orTrap o : StepWith ε σ α) T := by
  cases o with
  | some a => exact .pure
  | none =>
    rintro s hs _ ⟨⟩
    exact h rfl s hs

theorem TrapsIn.note [Log.HasJournal σ] {severity : Log.Severity} {source message : String} :
    TrapsIn P (Log.note severity source message) T := nofun

theorem TrapsIn.refuse [Log.HasJournal σ] {source : String} {cause : BackendCause} :
    TrapsIn P (Log.refuse source cause : Step σ α) T := nofun

/-! ### Steps put together -/

theorem TrapsIn.bind {f : α → StepWith ε σ β} (hx : TrapsIn P x T) (hQ : Meets P x Q E)
    (hf : ∀ a, TrapsIn (Q a) (f a) T) : TrapsIn P (x >>= f) T := by
  intro s hs t ht
  rcases hxs : x s with ⟨a, u⟩ | ⟨e, u⟩
  · rw [bind_ok hxs] at ht
    exact hf a u (hQ.ok hs hxs) t ht
  · rw [bind_error hxs] at ht
    cases ht
    exact hx s hs t hxs

/-- Nothing has to be known between the steps. -/
theorem TrapsIn.bind_any {f : α → StepWith ε σ β} (hx : TrapsIn P x T)
    (hf : ∀ a, TrapsIn (fun _ ↦ True) (f a) T) : TrapsIn P (x >>= f) T :=
  (hx.bind (Q := fun _ _ ↦ True) (Meets.any.pre fun _ _ ↦ trivial) hf)

theorem TrapsIn.pure_bind {a : α} {f : α → StepWith ε σ β} (h : TrapsIn P (f a) T) :
    TrapsIn P (Pure.pure a >>= f) T :=
  h

/-- Nothing follows a failure. -/
theorem TrapsIn.fail_bind {e : ε} {f : α → StepWith ε σ β} :
    TrapsIn P ((StepWith.fail e : StepWith ε σ α) >>= f) T := nofun

theorem TrapsIn.map {f : α → β} (h : TrapsIn P x T) : TrapsIn P (f <$> x) T := by
  intro s hs t ht
  rcases hxs : x s with ⟨a, u⟩ | ⟨e, u⟩
  · simp only [Functor.map, EStateM.map, hxs] at ht
    cases ht
  · rw [map_error hxs] at ht
    cases ht
    exact h s hs t hxs

theorem TrapsIn.get_bind {f : σ → StepWith ε σ β} (h : ∀ s, TrapsIn P (f s) T) :
    TrapsIn P (MonadState.get >>= f) T :=
  fun s hs ↦ h s s hs

/-- What was looked at is the state. -/
theorem TrapsIn.get_bind_eq {f : σ → StepWith ε σ β} (h : ∀ s, P s → TrapsIn (· = s) (f s) T) :
    TrapsIn P (MonadState.get >>= f) T :=
  fun s hs ↦ h s hs s rfl

theorem TrapsIn.ite {c : Prop} [Decidable c] {y : StepWith ε σ α} (hx : c → TrapsIn P x T)
    (hy : ¬c → TrapsIn P y T) : TrapsIn P (if c then x else y) T := by
  split
  · exact hx ‹_›
  · exact hy ‹_›

theorem TrapsIn.within {l : Lens σ τ} {x : StepWith ε τ α}
    (h : ∀ s, P s → TrapsIn (· = l.get s) x fun t ↦ T (l.set t s)) :
    TrapsIn P (StepWith.within l x) T := by
  intro s hs t ht
  rw [StepWith.within] at ht
  rcases hxs : x (l.get s) with ⟨a, u⟩ | ⟨e, u⟩ <;> rw [hxs] at ht <;> cases ht
  exact h s hs (l.get s) rfl u hxs

/-- A step on the second half of a pair. -/
theorem TrapsIn.snd {x : StepWith ε τ α} {P T : σ × τ → Prop}
    (h : ∀ s, TrapsIn (fun t ↦ P (s, t)) x fun t ↦ T (s, t)) :
    TrapsIn P (StepWith.within .snd x) T :=
  .within fun s hs ↦ (h s.1).pre fun _ ht ↦ ht ▸ hs

theorem TrapsIn.attempt (h : TrapsIn P x T) : TrapsIn P (StepWith.attempt x) T := by
  intro s hs t ht
  rw [StepWith.attempt] at ht
  rcases hxs : x s with ⟨a, u⟩ | ⟨e | _, u⟩ <;> rw [hxs] at ht <;> cases ht
  exact h s hs _ hxs

/-! ### Every fault -/

/-- Where a step leaves the state, however it ends. -/
def last (x : StepWith ε σ α) (s : σ) : σ :=
  match x s with
  | .ok _ t | .error _ t => t

theorem last_of_ok {s t : σ} {a : α} (h : x s = .ok a t) : x.last s = t := by
  rw [last, h]

theorem last_of_error {s t : σ} {e : Fault ε} (h : x s = .error e t) : x.last s = t := by
  rw [last, h]

/-- From a state with `P`, the step answers with `Q`, and every fault leaves a state with `T`. -/
def EndsIn (P : σ → Prop) (x : StepWith ε σ α) (Q : α → σ → Prop) (T : σ → Prop) : Prop :=
  ∀ s, P s → (∀ a t, x s = .ok a t → Q a t) ∧ ∀ e t, x s = .error e t → T t

namespace EndsIn

variable {Q' : α → σ → Prop} {R : β → σ → Prop}

theorem mono (h : EndsIn P x Q T) (hP : ∀ s, P' s → P s) (hQ : ∀ a s, Q a s → Q' a s)
    (hT : ∀ s, T s → T' s) : EndsIn P' x Q' T' :=
  fun s hs ↦ ⟨fun a t hx ↦ hQ a t ((h s (hP s hs)).1 a t hx),
    fun e t hx ↦ hT t ((h s (hP s hs)).2 e t hx)⟩

/-- What does not depend on the state is assumed once. -/
theorem assume {p : Prop} (h : p → EndsIn P x Q T) : EndsIn (fun s ↦ p ∧ P s) x Q T :=
  fun s hs ↦ h hs.1 s hs.2

/-- A triple that says nothing of errors but `T`, and a place for traps. -/
theorem of_meets (h : Meets P x Q fun _ ↦ T) (ht : TrapsIn P x T) : EndsIn P x Q T := by
  refine fun s hs ↦ ⟨fun a t hx ↦ h.ok hs hx, fun e t hx ↦ ?_⟩
  cases e with
  | error e => exact h.error hs hx
  | trap => exact ht s hs t hx

theorem pure {a : α} (h : ∀ s, P s → Q a s) : EndsIn P (Pure.pure a : StepWith ε σ α) Q T :=
  of_meets (.pure h) .pure

theorem ofChecked {c : Checked ε α} (hok : ∀ a, c = .ok a → ∀ s, P s → Q a s)
    (hfault : ∀ s, P s → T s) : EndsIn P (StepWith.ofChecked c) Q T :=
  of_meets (.ofChecked hok fun _ _ ↦ hfault) (.ofChecked fun _ ↦ hfault)

theorem orTrap {o : Option α} (hok : ∀ a, o = some a → ∀ s, P s → Q a s)
    (hfault : ∀ s, P s → T s) : EndsIn P (StepWith.orTrap o : StepWith ε σ α) Q T :=
  of_meets (.orTrap hok) (.orTrap fun _ ↦ hfault)

theorem orFail {o : Option α} {e : ε} (hok : ∀ a, o = some a → ∀ s, P s → Q a s)
    (hfault : ∀ s, P s → T s) : EndsIn P (StepWith.orFail e o : StepWith ε σ α) Q T := by
  cases o with
  | some a => exact pure (hok a rfl)
  | none => exact of_meets (.fail hfault) .fail

theorem note [Log.HasJournal σ] {P T : σ → Prop} {Q : Unit → σ → Prop} {severity : Log.Severity}
    {source message : String} (h : ∀ s j, P s → Q () (Log.HasJournal.journal.set j s)) :
    EndsIn P (Log.note severity source message : Step σ Unit) Q T :=
  of_meets (.note h) .note

theorem refuse [Log.HasJournal σ] {source : String} {cause : BackendCause} {Q : α → σ → Prop}
    (h : ∀ s j, P s → T (Log.HasJournal.journal.set j s)) :
    EndsIn P (Log.refuse source cause : Step σ α) Q T :=
  of_meets (.refuse h) .refuse

theorem bind {f : α → StepWith ε σ β} (hx : EndsIn P x Q T) (hf : ∀ a, EndsIn (Q a) (f a) R T) :
    EndsIn P (x >>= f) R T := by
  intro s hs
  rcases hxs : x s with ⟨a, t⟩ | ⟨e, t⟩
  · rw [bind_ok hxs]
    exact hf a t ((hx s hs).1 a t hxs)
  · rw [bind_error hxs]
    refine ⟨nofun, fun e' t' h ↦ ?_⟩
    cases h
    exact (hx s hs).2 e t hxs

/-- A step on the second half of a pair. -/
theorem snd {x : StepWith ε τ α} {P T : σ × τ → Prop} {Q : α → σ × τ → Prop}
    (h : ∀ s, EndsIn (fun t ↦ P (s, t)) x (fun a t ↦ Q a (s, t)) fun t ↦ T (s, t)) :
    EndsIn P (StepWith.within .snd x) Q T := by
  rintro ⟨s, t⟩ hs
  have hx := h s t hs
  rw [StepWith.within]
  rcases hxs : x t with ⟨a, u⟩ | ⟨e, u⟩
  · refine ⟨fun b v hv ↦ ?_, fun e v hv ↦ ?_⟩ <;> simp only [Lens.snd, hxs] at hv <;> cases hv
    exact hx.1 a u hxs
  · refine ⟨fun b v hv ↦ ?_, fun e v hv ↦ ?_⟩ <;> simp only [Lens.snd, hxs] at hv <;> cases hv
    exact hx.2 _ u hxs

/-- An error that was turned into a value. -/
theorem attempt {Q : Except ε α → σ → Prop} (hx : EndsIn P x (fun a ↦ Q (.ok a)) T)
    (h : ∀ e s, T s → Q (.error e) s) : EndsIn P (StepWith.attempt x) Q T := by
  intro s hs
  rw [StepWith.attempt]
  rcases hxs : x s with ⟨a, t⟩ | ⟨e | _, t⟩
  · refine ⟨fun b t' h' ↦ ?_, fun e' t' h' ↦ ?_⟩ <;> cases h'
    exact (hx s hs).1 a t hxs
  · refine ⟨fun b t' h' ↦ ?_, fun e' t' h' ↦ ?_⟩ <;> cases h'
    exact h e t ((hx s hs).2 _ t hxs)
  · refine ⟨fun b t' h' ↦ ?_, fun e' t' h' ↦ ?_⟩ <;> cases h'
    exact (hx s hs).2 _ t hxs

/-- What is undone after a fault keeps what faults leave. -/
theorem undoing {undo : StepWith ε σ Unit} (hx : EndsIn P x Q T)
    (hu : EndsIn T undo (fun _ ↦ T) T) : EndsIn P (StepWith.undoing x undo) Q T := by
  intro s hs
  rw [StepWith.undoing]
  rcases hxs : x s with ⟨a, t⟩ | ⟨e, t⟩
  · refine ⟨fun b t' h ↦ ?_, fun e' t' h ↦ ?_⟩ <;> cases h
    exact (hx s hs).1 a t hxs
  · have ht := hu t ((hx s hs).2 e t hxs)
    simp only
    rcases hus : undo t with ⟨⟨⟩, u⟩ | ⟨e', u⟩
    · refine ⟨fun b t' h ↦ ?_, fun e' t' h ↦ ?_⟩ <;> cases h
      exact ht.1 () u hus
    · refine ⟨fun b t' h ↦ ?_, fun e' t' h ↦ ?_⟩ <;> cases h
      exact ht.2 _ u hus

end EndsIn

/-! ### Runs -/

/-- Steps that keep `I` and do not trap where it holds run to their end. -/
theorem exists_settleAll {I : σ → Prop} {xs : List (StepWith ε σ α)} (hkeep : ∀ x ∈ xs, Keeps I x)
    (hsafe : ∀ x ∈ xs, Safe I x) {s : σ} (hs : I s) : ∃ t, settleAll xs s = some t ∧ I t := by
  induction xs generalizing s with
  | nil => exact ⟨s, rfl, hs⟩
  | cons x xs ih =>
    obtain ⟨u, hu⟩ : ∃ u, x.settle s = some u := by
      rcases (hsafe x List.mem_cons_self).exists_result hs with ⟨a, t, h⟩ | ⟨e, t, h⟩
      · exact ⟨t, settle_of_ok h⟩
      · exact ⟨t, settle_of_error h⟩
    obtain ⟨t, ht, hi⟩ := ih (fun y hy ↦ hkeep y (List.mem_cons_of_mem x hy))
      (fun y hy ↦ hsafe y (List.mem_cons_of_mem x hy))
      ((hkeep x List.mem_cons_self).settle hs hu)
    exact ⟨t, by rw [settleAll, hu, Option.bind_some, ht], hi⟩

end RenderTargets.StepWith
