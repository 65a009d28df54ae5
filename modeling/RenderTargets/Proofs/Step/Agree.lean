import RenderTargets.Proofs.Device.Command
import RenderTargets.Proofs.Step.Triple
/-!
# Steps that agree

Two devices may answer the same although one of them does more than the other. `StepWith.Agrees`
says so of a step on the one and a step on the other, from states that are related: **both answer
the same, or both fail with the same error**, and their states are related afterwards. A trap agrees
with nothing, so here, unlike in a triple of one step, it is said that there is none.

There is a rule for each way in which steps are put together, and `Agrees.absorb` for what only one
of the two does. Devices that agree command after command go `Together`.
-/

namespace RenderTargets

namespace StepWith

variable {ε σ τ α β : Type}

/-- Both steps answered the same, with `Q`, or failed with the same error, with `E`. -/
def Agree (Q : α → σ → τ → Prop) (E : σ → τ → Prop) :
    EStateM.Result (Fault ε) σ α → EStateM.Result (Fault ε) τ α → Prop
  | .ok a s, .ok b t => a = b ∧ Q a s t
  | .error (.error e) s, .error (.error e') t => e = e' ∧ E s t
  | _, _ => False

/-- From states with `P`, the steps agree. -/
def Agrees (P : σ → τ → Prop) (x : StepWith ε σ α) (y : StepWith ε τ α) (Q : α → σ → τ → Prop)
    (E : σ → τ → Prop) : Prop :=
  ∀ s t, P s t → Agree Q E (x s) (y t)

variable {P P' : σ → τ → Prop} {Q Q' : α → σ → τ → Prop} {R : β → σ → τ → Prop}
  {E E' : σ → τ → Prop} {x : StepWith ε σ α} {y : StepWith ε τ α}

theorem Agree.mono {r : EStateM.Result (Fault ε) σ α} {r' : EStateM.Result (Fault ε) τ α}
    (h : Agree Q E r r') (hQ : ∀ a s t, Q a s t → Q' a s t) (hE : ∀ s t, E s t → E' s t) :
    Agree Q' E' r r' := by
  rcases r with ⟨a, s⟩ | ⟨e | _, s⟩ <;> rcases r' with ⟨b, t⟩ | ⟨e' | _, t⟩ <;>
    first | exact h.elim | skip
  · exact ⟨h.1, hQ a s t h.2⟩
  · exact ⟨h.1, hE s t h.2⟩

namespace Agrees

theorem mono (h : Agrees P x y Q E) (hP : ∀ s t, P' s t → P s t)
    (hQ : ∀ a s t, Q a s t → Q' a s t) (hE : ∀ s t, E s t → E' s t) : Agrees P' x y Q' E' :=
  fun s t hs ↦ (h s t (hP s t hs)).mono hQ hE

theorem pure {a : α} (h : ∀ s t, P s t → Q a s t) :
    Agrees P (Pure.pure a : StepWith ε σ α) (Pure.pure a) Q E :=
  fun s t hs ↦ ⟨rfl, h s t hs⟩

theorem fail {e : ε} (h : ∀ s t, P s t → E s t) :
    Agrees P (StepWith.fail e : StepWith ε σ α) (StepWith.fail e) Q E :=
  fun s t hs ↦ ⟨rfl, h s t hs⟩

/-- Nothing but the journals changes when a command is refused. -/
theorem refuse [Log.HasJournal σ] [Log.HasJournal τ] {source : String} {cause : BackendCause}
    (h : ∀ s t j j', P s t →
      E (Log.HasJournal.journal.set j s) (Log.HasJournal.journal.set j' t)) :
    Agrees P (Log.refuse source cause : Step σ α) (Log.refuse source cause) Q E :=
  fun s t hs ↦ ⟨rfl, h s t _ _ hs⟩

theorem bind {f : α → StepWith ε σ β} {g : α → StepWith ε τ β} (hx : Agrees P x y Q E)
    (hf : ∀ a, Agrees (Q a) (f a) (g a) R E) : Agrees P (x >>= f) (y >>= g) R E := by
  intro s t hs
  have h := hx s t hs
  rcases hxs : x s with ⟨a, s'⟩ | ⟨e | _, s'⟩ <;> rcases hyt : y t with ⟨b, t'⟩ | ⟨e' | _, t'⟩ <;>
    rw [hxs, hyt] at h <;> first | exact h.elim | skip
  · obtain ⟨rfl, hq⟩ := h
    rw [bind_ok hxs, bind_ok hyt]
    exact hf a s' t' hq
  · rw [bind_error hxs, bind_error hyt]
    exact h

theorem map {f : α → β} (hx : Agrees P x y (fun a ↦ R (f a)) E) :
    Agrees P (f <$> x) (f <$> y) R E := by
  intro s t hs
  have h := hx s t hs
  rcases hxs : x s with ⟨a, s'⟩ | ⟨e | _, s'⟩ <;> rcases hyt : y t with ⟨b, t'⟩ | ⟨e' | _, t'⟩ <;>
    rw [hxs, hyt] at h <;> first | exact h.elim | skip
  all_goals simp only [Functor.map, EStateM.map, hxs, hyt]
  · exact ⟨congrArg f h.1, h.2⟩
  · exact h

/-- Nothing follows a refusal. -/
theorem refuse_bind [Log.HasJournal σ] [Log.HasJournal τ] {source : String} {cause : BackendCause}
    {f : α → Step σ β} {g : α → Step τ β}
    (h : ∀ s t j j', P s t →
      E (Log.HasJournal.journal.set j s) (Log.HasJournal.journal.set j' t)) :
    Agrees P ((Log.refuse source cause : Step σ α) >>= f)
      ((Log.refuse source cause : Step τ α) >>= g) R E :=
  fun s t hs ↦ ⟨rfl, h s t _ _ hs⟩

theorem orFail_bind {o : Option α} {e : ε} {f : α → StepWith ε σ β} {g : α → StepWith ε τ β}
    (h : ∀ a, o = some a → Agrees P (f a) (g a) R E) (he : ∀ s t, P s t → E s t) :
    Agrees P (StepWith.orFail e o >>= f) (StepWith.orFail e o >>= g) R E := by
  cases o with
  | some a => exact h a rfl
  | none => exact fun s t hs ↦ ⟨rfl, he s t hs⟩

theorem ite {c : Prop} [Decidable c] {x' : StepWith ε σ α} {y' : StepWith ε τ α}
    (hx : c → Agrees P x y Q E) (hx' : ¬c → Agrees P x' y' Q E) :
    Agrees P (if c then x else x') (if c then y else y') Q E := by
  split
  · exact hx ‹_›
  · exact hx' ‹_›

/-- What only the first step does goes well. -/
theorem absorb {b : α} (h : ∀ s t, P s t → ∃ s', x s = .ok b s' ∧ Q b s' t) :
    Agrees P x (Pure.pure b : StepWith ε τ α) Q E := by
  intro s t hs
  obtain ⟨s', hx, hq⟩ := h s t hs
  rw [hx]
  exact ⟨rfl, hq⟩

end Agrees

end StepWith

namespace GraphicsDevice

open StepWith

variable {σ τ : Type} [GraphicsDevice σ] [GraphicsDevice τ] {R : σ → τ → Prop}
  {commands : List Command} {s : σ} {t : τ}

/-- Both devices answer each of the commands the same or refuse it with the same error, and `R`
holds of them at the start and after every command. Neither of them traps. -/
def Together (R : σ → τ → Prop) : List Command → σ → τ → Prop
  | [], s, t => R s t
  | c :: rest, s, t => R s t ∧
    Agree (fun _ s' t' ↦ Together R rest s' t') (fun s' t' ↦ Together R rest s' t')
      (c.answer s) (c.answer t)

theorem Together.of_agrees (h : ∀ c ∈ commands, Agrees R c.answer c.answer (fun _ ↦ R) R)
    (hs : R s t) : Together R commands s t := by
  induction commands generalizing s t with
  | nil => exact hs
  | cons c rest ih =>
    have hrest : ∀ s' t', R s' t' → Together R rest s' t' :=
      fun s' t' ↦ ih fun c' hc' ↦ h c' (List.mem_cons_of_mem c hc')
    exact ⟨hs, (h c List.mem_cons_self s t hs).mono (fun _ ↦ hrest) hrest⟩

/-- What holds of the devices after every command holds at the start. -/
theorem Together.start (h : Together R commands s t) : R s t := by
  cases commands with
  | nil => exact h
  | cons => exact h.1

end GraphicsDevice

end RenderTargets
