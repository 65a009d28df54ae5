import RenderTargets.Log.Journal
/-!
# Triples of steps

A step answers, fails or traps, and `StepWith.Meets` says what holds in the first two cases: from a
state with `P`, the state of an answer `a` has `Q a` and the state of an error `e` has `E e`. Of a
trap **nothing** is said, so a triple is about runs that do not trap.

## Rules follow the combinators

There is one rule for each way in which steps are put together; the rules never look into a step.
What is undone after a fault may not fail, because its own fault would take the place of the first.

## Invariants

`StepWith.Keeps I x` is the triple of a step that keeps `I` however it ends. A list of such steps,
run one after the other with errors passed over, keeps it as well.

## Steps that are the same from some states

Two steps that differ only in what they would do where they never get are the same from where they
start. `StepWith.SameFrom P x y` says that `x` and `y` end alike from every state with `P`, also if
they fail or trap there.

What is known between two steps comes from a triple of the first one (`SameFrom.bind`). So to show
that a part of a program is only ever used in some way, the program is taken with that part
exchanged for one that does the same when it is used so.
-/

namespace RenderTargets

/-- What a computation in two steps answers, the second step answers. -/
theorem exists_ok_of_bind {ε α β : Type} {x : Except ε α} {f : α → Except ε β} {y : β}
    (h : (x >>= f) = .ok y) : ∃ a, x = .ok a ∧ f a = .ok y := by
  cases x with
  | error e => cases h
  | ok a => exact ⟨a, rfl, h⟩

/-- A check is passed if there is nothing to refuse, and the checks after it are passed. -/
theorem throw_bind_eq_ok_iff {ε α : Type} {c : Prop} [Decidable c] {e : ε} {x : Except ε α}
    {a : α} : (do
      if c then throw e
      x) = .ok a ↔ ¬c ∧ x = .ok a := by
  by_cases hc : c <;> simp [hc, bind, Except.bind, throw, throwThe, MonadExceptOf.throw]

/-- A check and what follows it: what there is to refuse, or the rest. -/
theorem throw_bind_eq {ε α : Type} {c : Prop} [Decidable c] {e : ε} {x : Except ε α} :
    (do
      if c then throw e
      x) = if c then .error e else x := by
  by_cases hc : c <;> simp [hc, bind, Except.bind, throw, throwThe, MonadExceptOf.throw]

theorem ofOption_some_bind {ε α β : Type} {a : α} {f : α → Checked ε β} :
    Checked.ofOption (some a) >>= f = f a :=
  rfl

/-- What is done with a value that may lack is done with a value. -/
theorem ofOption_bind_eq_ok_iff {ε α β : Type} {o : Option α} {f : α → Checked ε β} {b : β} :
    Checked.ofOption o >>= f = .ok b ↔ ∃ a, o = some a ∧ f a = .ok b := by
  cases o with
  | none => exact iff_of_false nofun nofun
  | some a => exact ⟨fun h ↦ ⟨a, rfl, h⟩, fun ⟨_, ha, h⟩ ↦ Option.some.inj ha ▸ h⟩

namespace StepWith

variable {ε σ τ α β : Type}

/-- What a result says if answers have `Q` and errors have `E`. -/
def Ends (Q : α → σ → Prop) (E : ε → σ → Prop) : EStateM.Result (Fault ε) σ α → Prop
  | .ok a t => Q a t
  | .error (.error e) t => E e t
  | .error .trap _ => True

/-- From a state with `P`, the step answers with `Q` or fails with `E`, or it traps. -/
def Meets (P : σ → Prop) (x : StepWith ε σ α) (Q : α → σ → Prop) (E : ε → σ → Prop) : Prop :=
  ∀ s, P s → Ends Q E (x s)

/-- The step keeps `I` however it ends. -/
def Keeps (I : σ → Prop) (x : StepWith ε σ α) : Prop := Meets I x (fun _ ↦ I) fun _ ↦ I

variable {P P' : σ → Prop} {Q Q' : α → σ → Prop} {R : β → σ → Prop} {E E' : ε → σ → Prop}
  {I : σ → Prop} {x : StepWith ε σ α}

@[simp] theorem ends_ok {a : α} {t : σ} : Ends Q E (.ok a t) ↔ Q a t := Iff.rfl

@[simp] theorem ends_error {e : ε} {t : σ} : Ends Q E (.error (.error e) t) ↔ E e t := Iff.rfl

@[simp] theorem ends_trap {t : σ} : Ends Q E (.error .trap t) ↔ True := Iff.rfl

theorem Ends.mono {r : EStateM.Result (Fault ε) σ α} (h : Ends Q E r)
    (hQ : ∀ a s, Q a s → Q' a s) (hE : ∀ e s, E e s → E' e s) : Ends Q' E' r := by
  rcases r with ⟨a, t⟩ | ⟨e | _, t⟩
  · exact hQ a t h
  · exact hE e t h
  · trivial

/-! ### Results of steps one after the other -/

theorem bind_ok {f : α → StepWith ε σ β} {s t : σ} {a : α} (h : x s = .ok a t) :
    (x >>= f) s = f a t := by
  simp only [bind, EStateM.bind, h]

theorem bind_error {f : α → StepWith ε σ β} {s t : σ} {e : Fault ε} (h : x s = .error e t) :
    (x >>= f) s = .error e t := by
  simp only [bind, EStateM.bind, h]

/-- A failure is passed on whatever is made of the answer. -/
theorem map_error {f : α → β} {s t : σ} {e : Fault ε} (h : x s = .error e t) :
    (f <$> x) s = .error e t := by
  simp only [Functor.map, EStateM.map, h]

/-- A check that is passed is gone on after. -/
theorem ofChecked_bind {check : Checked ε α} {f : α → StepWith ε σ β} {s : σ} {a : α}
    (h : check = .ok a) : (ofChecked check >>= f) s = f a s := by
  rw [h]
  rfl

theorem get_bind_apply (f : σ → StepWith ε σ α) (s : σ) : (MonadState.get >>= f) s = f s s := rfl

theorem within_ok {l : Lens σ τ} {x : StepWith ε τ α} {s : σ} {t : τ} {a : α}
    (h : x (l.get s) = .ok a t) : within l x s = .ok a (l.set t s) := by
  rw [within, h]

theorem within_error {l : Lens σ τ} {x : StepWith ε τ α} {s : σ} {t : τ} {e : Fault ε}
    (h : x (l.get s) = .error e t) : within l x s = .error e (l.set t s) := by
  rw [within, h]

/-- A step on the second half of a pair leaves the first half alone. -/
theorem within_snd_ok {x : StepWith ε τ α} {s : σ} {t t' : τ} {a : α} (h : x t = .ok a t') :
    (within .snd x : StepWith ε (σ × τ) α) (s, t) = .ok a (s, t') :=
  within_ok h

/-! ### Weakening -/

theorem Meets.ok (h : Meets P x Q E) {s t : σ} {a : α} (hs : P s) (hx : x s = .ok a t) :
    Q a t := by
  have hm := h s hs
  rwa [hx] at hm

theorem Meets.error (h : Meets P x Q E) {s t : σ} {e : ε} (hs : P s)
    (hx : x s = .error (.error e) t) : E e t := by
  have hm := h s hs
  rwa [hx] at hm

/-- A weaker triple follows from a stronger one. -/
theorem Meets.mono (h : Meets P x Q E) (hP : ∀ s, P' s → P s) (hQ : ∀ a s, Q a s → Q' a s)
    (hE : ∀ e s, E e s → E' e s) : Meets P' x Q' E' :=
  fun s hs ↦ (h s (hP s hs)).mono hQ hE

theorem Meets.pre (h : Meets P x Q E) (hP : ∀ s, P' s → P s) : Meets P' x Q E :=
  fun s hs ↦ h s (hP s hs)

theorem Meets.post (h : Meets P x Q E) (hQ : ∀ a s, Q a s → Q' a s) : Meets P x Q' E :=
  fun s hs ↦ (h s hs).mono hQ fun _ _ he ↦ he

/-- Nothing is said of errors. -/
theorem Meets.lax (h : Meets P x Q E) : Meets P x Q fun _ _ ↦ True :=
  h.mono (fun _ hs ↦ hs) (fun _ _ hs ↦ hs) fun _ _ _ ↦ trivial

/-- Nothing is said at all. -/
theorem Meets.any : Meets P x (fun _ _ ↦ True) fun _ _ ↦ True := by
  intro s _
  rcases x s with ⟨a, t⟩ | ⟨e | _, t⟩ <;> trivial

/-- What does not depend on the state stays as it is. -/
theorem Keeps.const {p : Prop} : Keeps (fun _ ↦ p) x :=
  fun s hs ↦ (Meets.any (P := fun _ ↦ True) s trivial).mono (fun _ _ _ ↦ hs) fun _ _ _ ↦ hs

/-- What does not depend on the state is assumed once. -/
theorem Meets.assume {p : Prop} (h : p → Meets P x Q E) : Meets (fun s ↦ p ∧ P s) x Q E :=
  fun s hs ↦ h hs.1 s hs.2

/-- Two triples of one step hold together. -/
theorem Meets.and (h : Meets P x Q E) (h' : Meets P' x Q' E') :
    Meets (fun s ↦ P s ∧ P' s) x (fun a s ↦ Q a s ∧ Q' a s) fun e s ↦ E e s ∧ E' e s := by
  intro s hs
  have h₁ := h s hs.1
  have h₂ := h' s hs.2
  rcases hx : x s with ⟨a, t⟩ | ⟨e | _, t⟩ <;> rw [hx] at h₁ h₂
  · exact ⟨h₁, h₂⟩
  · exact ⟨h₁, h₂⟩
  · trivial

/-- Triples for all values of a parameter. -/
theorem Meets.forall {ι : Type} {P : ι → σ → Prop} {Q : ι → α → σ → Prop} {E : ι → ε → σ → Prop}
    (h : ∀ i, Meets (P i) x (Q i) (E i)) :
    Meets (fun s ↦ ∀ i, P i s) x (fun a s ↦ ∀ i, Q i a s) fun e s ↦ ∀ i, E i e s := by
  intro s hs
  have hi := fun i ↦ h i s (hs i)
  rcases hx : x s with ⟨a, t⟩ | ⟨e | _, t⟩ <;> simp only [hx] at hi
  · exact hi
  · exact hi
  · trivial

/-! ### Single steps -/

theorem Meets.pure {a : α} (h : ∀ s, P s → Q a s) : Meets P (Pure.pure a : StepWith ε σ α) Q E :=
  h

theorem Meets.get {Q : σ → σ → Prop} (h : ∀ s, P s → Q s s) :
    Meets P (MonadState.get : StepWith ε σ σ) Q E :=
  h

theorem Meets.update {f : σ → σ} {Q : PUnit → σ → Prop} (h : ∀ s, P s → Q ⟨⟩ (f s)) :
    Meets P (modify f : StepWith ε σ PUnit) Q E :=
  h

theorem Meets.fail {e : ε} (h : ∀ s, P s → E e s) :
    Meets P (StepWith.fail e : StepWith ε σ α) Q E :=
  h

theorem Meets.trap : Meets P (StepWith.trap : StepWith ε σ α) Q E :=
  fun _ _ ↦ trivial

/-- The value of a computation without state. -/
theorem Meets.ofChecked {c : Checked ε α} (hok : ∀ a, c = .ok a → ∀ s, P s → Q a s)
    (herr : ∀ e, c = .error (.error e) → ∀ s, P s → E e s) :
    Meets P (StepWith.ofChecked c) Q E := by
  rcases c with (e | _) | a
  · exact .fail (herr e rfl)
  · exact .trap
  · exact .pure (hok a rfl)

theorem Keeps.ofChecked {c : Checked ε α} : Keeps I (StepWith.ofChecked c) :=
  Meets.ofChecked (fun _ _ _ h ↦ h) fun _ _ _ h ↦ h

theorem Meets.orTrap {o : Option α} (h : ∀ a, o = some a → ∀ s, P s → Q a s) :
    Meets P (StepWith.orTrap o) Q E := by
  cases o with
  | some a => exact .pure (h a rfl)
  | none => exact .trap

theorem Meets.orFail {o : Option α} {e : ε} (hok : ∀ a, o = some a → ∀ s, P s → Q a s)
    (herr : o = none → ∀ s, P s → E e s) : Meets P (StepWith.orFail e o) Q E := by
  cases o with
  | some a => exact .pure (hok a rfl)
  | none => exact .fail (herr rfl)

/-- Nothing but the journal changes when an entry is written. -/
theorem Meets.note [Log.HasJournal σ] {E : EngineError → σ → Prop} {Q : Unit → σ → Prop}
    {severity : Log.Severity} {source message : String}
    (h : ∀ s j, P s → Q () (Log.HasJournal.journal.set j s)) :
    Meets P (Log.note severity source message) Q E :=
  fun s hs ↦ h s _ hs

/-- Nothing but the journal changes when a command is refused. -/
theorem Meets.refuse [Log.HasJournal σ] {E : EngineError → σ → Prop} {source : String}
    {cause : BackendCause}
    (h : ∀ s j, P s → E (.backend cause) (Log.HasJournal.journal.set j s)) :
    Meets P (Log.refuse source cause) Q E :=
  fun s hs ↦ h s _ hs

/-! ### Steps put together -/

theorem Meets.bind {f : α → StepWith ε σ β} (hx : Meets P x Q E)
    (hf : ∀ a, Meets (Q a) (f a) R E) : Meets P (x >>= f) R E := by
  intro s hs
  have h := hx s hs
  rcases hxs : x s with ⟨a, t⟩ | ⟨e, t⟩ <;> rw [hxs] at h
  · rw [bind_ok hxs]
    exact hf a t h
  · rw [bind_error hxs]
    cases e with
    | error e => exact h
    | trap => trivial

/-- What comes after a step matters only where the step leads. -/
theorem Meets.bind_congr {f g : α → StepWith ε σ β} (hx : Meets P x Q E)
    (h : ∀ a s, Q a s → f a s = g a s) {s : σ} (hs : P s) : (x >>= f) s = (x >>= g) s := by
  have hm := hx s hs
  rcases hxs : x s with ⟨a, t⟩ | ⟨e, t⟩
  · rw [hxs] at hm
    rw [bind_ok hxs, bind_ok hxs]
    exact h a t hm
  · rw [bind_error hxs, bind_error hxs]

/-- A step whose answer is then changed. -/
theorem Meets.map {f : α → β} (hx : Meets P x (fun a ↦ R (f a)) E) : Meets P (f <$> x) R E := by
  intro s hs
  have h := hx s hs
  rcases hxs : x s with ⟨a, t⟩ | ⟨e | _, t⟩ <;> rw [hxs] at h <;>
    simp only [Functor.map, EStateM.map, hxs] <;> exact h

/-- Looking at the state changes nothing. -/
theorem Meets.get_bind {f : σ → StepWith ε σ β} (h : ∀ s, Meets P (f s) R E) :
    Meets P (MonadState.get >>= f) R E :=
  fun s hs ↦ h s s hs

/-- What was looked at is the state. -/
theorem Meets.get_bind_eq {f : σ → StepWith ε σ β} (h : ∀ s, P s → Meets (· = s) (f s) R E) :
    Meets P (MonadState.get >>= f) R E :=
  fun s hs ↦ h s hs s rfl

theorem Meets.pure_bind {a : α} {f : α → StepWith ε σ β} (h : Meets P (f a) R E) :
    Meets P (Pure.pure a >>= f) R E :=
  h

/-- What there is no value for is not gone on with. -/
theorem Meets.orTrap_bind {o : Option α} {f : α → StepWith ε σ β}
    (h : ∀ a, o = some a → Meets P (f a) R E) : Meets P (StepWith.orTrap o >>= f) R E := by
  cases o with
  | some a => exact h a rfl
  | none => exact fun _ _ ↦ trivial

theorem Meets.orFail_bind {o : Option α} {e : ε} {f : α → StepWith ε σ β}
    (h : ∀ a, o = some a → Meets P (f a) R E) (he : ∀ s, P s → E e s) :
    Meets P (StepWith.orFail e o >>= f) R E := by
  cases o with
  | some a => exact h a rfl
  | none => exact he

/-- Nothing follows a failure. -/
theorem Meets.fail_bind {e : ε} {f : α → StepWith ε σ β} (h : ∀ s, P s → E e s) :
    Meets P ((StepWith.fail e : StepWith ε σ α) >>= f) R E :=
  h

/-- Nothing follows a refusal. -/
theorem Meets.refuse_bind [Log.HasJournal σ] {E : EngineError → σ → Prop} {source : String}
    {cause : BackendCause} {f : α → Step σ β}
    (h : ∀ s j, P s → E (.backend cause) (Log.HasJournal.journal.set j s)) :
    Meets P ((Log.refuse source cause : Step σ α) >>= f) R E :=
  fun s hs ↦ h s _ hs

theorem Meets.ite {c : Prop} [Decidable c] {y : StepWith ε σ α}
    (hx : c → Meets P x Q E) (hy : ¬c → Meets P y Q E) : Meets P (if c then x else y) Q E := by
  split
  · exact hx ‹_›
  · exact hy ‹_›

/-- One of two steps, and then the same after either. -/
theorem Meets.ite_bind {c : Prop} [Decidable c] {y : StepWith ε σ α} {f : α → StepWith ε σ β}
    (hxy : Meets P (if c then x else y) Q E) (hf : ∀ a, Meets (Q a) (f a) R E) :
    Meets P (if c then x >>= f else y >>= f) R E := by
  split
  · next hc =>
    rw [if_pos hc] at hxy
    exact .bind hxy hf
  · next hc =>
    rw [if_neg hc] at hxy
    exact .bind hxy hf

/-- A step on a part of the state. -/
theorem Meets.within {l : Lens σ τ} {x : StepWith ε τ α}
    (h : ∀ s, P s → Meets (· = l.get s) x (fun a t ↦ Q a (l.set t s)) fun e t ↦ E e (l.set t s)) :
    Meets P (StepWith.within l x) Q E := by
  intro s hs
  have hx := h s hs (l.get s) rfl
  rw [StepWith.within]
  rcases hxs : x (l.get s) with ⟨a, t⟩ | ⟨e | _, t⟩ <;> rw [hxs] at hx <;> exact hx

/-- A step on the second half of a pair. -/
theorem Meets.snd {x : StepWith ε τ α} {P : σ × τ → Prop} {Q : α → σ × τ → Prop}
    {E : ε → σ × τ → Prop}
    (h : ∀ s, Meets (fun t ↦ P (s, t)) x (fun a t ↦ Q a (s, t)) fun e t ↦ E e (s, t)) :
    Meets P (StepWith.within .snd x) Q E :=
  .within fun s hs ↦ (h s.1).pre fun _ ht ↦ ht ▸ hs

theorem Keeps.snd {I : τ → Prop} {x : StepWith ε τ α} (h : Keeps I x) :
    Keeps (fun s : σ × τ ↦ I s.2) (StepWith.within .snd x) :=
  Meets.snd fun _ ↦ h

/-- An error that was turned into a value. -/
theorem Meets.attempt {R : Except ε α → σ → Prop}
    (h : Meets P x (fun a ↦ R (.ok a)) fun e ↦ R (.error e)) :
    Meets P (StepWith.attempt x) R E := by
  intro s hs
  have hx := h s hs
  rw [StepWith.attempt]
  rcases hxs : x s with ⟨a, t⟩ | ⟨e | _, t⟩ <;> rw [hxs] at hx <;> exact hx

/-- What is undone after an error, but not after a trap. -/
theorem Meets.undoingOnError {undo : StepWith ε σ Unit} (hx : Meets P x Q E')
    (hu : ∀ e, Meets (E' e) undo (fun _ ↦ E e) E) :
    Meets P (StepWith.undoingOnError x undo) Q E := by
  intro s hs
  have h := hx s hs
  rw [StepWith.undoingOnError]
  rcases hxs : x s with ⟨a, t⟩ | ⟨e | _, t⟩ <;> rw [hxs] at h
  · exact h
  · have hut := hu e t h
    simp only
    rcases hus : undo t with ⟨_, u⟩ | ⟨e | _, u⟩ <;> rw [hus] at hut <;> exact hut
  · trivial

/-- What is undone after every fault. The undoing may not fail, not even after a trap. -/
theorem Meets.undoing {undo : StepWith ε σ Unit} (hx : Meets P x Q E')
    (hu : ∀ e, Meets (E' e) undo (fun _ ↦ E e) fun _ _ ↦ False)
    (ht : Meets (fun _ ↦ True) undo (fun _ _ ↦ True) fun _ _ ↦ False) :
    Meets P (StepWith.undoing x undo) Q E := by
  intro s hs
  have h := hx s hs
  rw [StepWith.undoing]
  rcases hxs : x s with ⟨a, t⟩ | ⟨e | _, t⟩ <;> rw [hxs] at h
  · exact h
  · have hut := hu e t h
    simp only
    rcases hus : undo t with ⟨_, u⟩ | ⟨e | _, u⟩ <;> rw [hus] at hut
    · exact hut
    · exact hut.elim
    · trivial
  · have hut := ht t trivial
    simp only
    rcases hus : undo t with ⟨_, u⟩ | ⟨e | _, u⟩ <;> rw [hus] at hut
    · trivial
    · exact hut.elim
    · trivial

/-! ### Runs -/

/-- Where a step leaves the state, unless it traps. -/
def settle (x : StepWith ε σ α) (s : σ) : Option σ :=
  match x s with
  | .ok _ t => some t
  | .error (.error _) t => some t
  | .error .trap _ => none

/-- Where steps leave the state, each taken up from where the one before it left it, unless one of
them traps. -/
def settleAll : List (StepWith ε σ α) → σ → Option σ
  | [], s => some s
  | x :: rest, s => (x.settle s).bind (settleAll rest)

theorem settleAll_append (xs ys : List (StepWith ε σ α)) (s : σ) :
    settleAll (xs ++ ys) s = (settleAll xs s).bind (settleAll ys) := by
  induction xs generalizing s with
  | nil => rfl
  | cons x xs ih => simp only [List.cons_append, settleAll, Option.bind_assoc, funext ih]

theorem settle_of_ok {s t : σ} {a : α} (h : x s = .ok a t) : x.settle s = some t := by
  rw [settle, h]

theorem settle_of_error {s t : σ} {e : ε} (h : x s = .error (.error e) t) :
    x.settle s = some t := by
  rw [settle, h]

theorem settle_map {f : α → β} {s : σ} : (f <$> x : StepWith ε σ β).settle s = x.settle s := by
  simp only [settle, Functor.map, EStateM.map]
  rcases x s with _ | ⟨_ | _, _⟩ <;> rfl

theorem Meets.settle (h : Meets P x (fun _ ↦ I) fun _ ↦ I) {s t : σ} (hs : P s)
    (hx : x.settle s = some t) : I t := by
  have hm := h s hs
  rw [StepWith.settle] at hx
  rcases hxs : x s with ⟨a, u⟩ | ⟨e | _, u⟩ <;> rw [hxs] at hm hx <;> cases hx
  · exact hm
  · exact hm

/-- What every step keeps, a run of them keeps. -/
theorem Keeps.settleAll {xs : List (StepWith ε σ α)} (h : ∀ x ∈ xs, Keeps I x) {s t : σ}
    (hs : I s) (hx : settleAll xs s = some t) : I t := by
  induction xs generalizing s with
  | nil => exact Option.some.inj hx ▸ hs
  | cons x xs ih =>
    obtain ⟨u, hu, hx⟩ := Option.bind_eq_some_iff.1 hx
    have hi : I u := (h x (by simp)).settle hs hu
    exact ih (fun y hy ↦ h y (by simp [hy])) hi hx

end StepWith

end RenderTargets

/-! ### Steps that are the same -/

namespace RenderTargets.StepWith

variable {ε σ τ α β : Type}

/-- From a state with `P`, the steps do the same. -/
def SameFrom (P : σ → Prop) (x y : StepWith ε σ α) : Prop := ∀ s, P s → x s = y s

namespace SameFrom

variable {P P' : σ → Prop} {Q : α → σ → Prop} {E : ε → σ → Prop} {x y : StepWith ε σ α}
  {f g : α → StepWith ε σ β}

theorem refl : SameFrom P x x := fun _ _ ↦ rfl

theorem pre (h : SameFrom P x y) (hP : ∀ s, P' s → P s) : SameFrom P' x y :=
  fun s hs ↦ h s (hP s hs)

/-- What does not depend on the state is assumed once. -/
theorem assume {p : Prop} (h : p → SameFrom P x y) : SameFrom (fun s ↦ p ∧ P s) x y :=
  fun s hs ↦ h hs.1 s hs.2

/-- After the same step, what follows has to be the same from where that ends. -/
theorem bind (hx : Meets P x Q E) (h : ∀ a, SameFrom (Q a) (f a) (g a)) :
    SameFrom P (x >>= f) (x >>= g) :=
  fun _ hs ↦ hx.bind_congr (fun a t ht ↦ h a t ht) hs

/-- Before the same step, only the first steps have to be the same. -/
theorem followed (h : SameFrom P x y) : SameFrom P (x >>= f) (y >>= f) := by
  intro s hs
  have hxy : x s = y s := h s hs
  simp only [Bind.bind, EStateM.bind, hxy]

theorem ite {c : Prop} [Decidable c] {x' y' : StepWith ε σ α} (ht : c → SameFrom P x y)
    (he : ¬c → SameFrom P x' y') : SameFrom P (if c then x else x') (if c then y else y') := by
  split
  · next h => exact ht h
  · next h => exact he h

theorem orTrap_bind {o : Option α} (h : ∀ a, o = some a → SameFrom P (f a) (g a)) :
    SameFrom P (orTrap o >>= f) (orTrap o >>= g) :=
  bind (E := fun _ _ ↦ True) (.orTrap fun _ ha _ hs ↦ ⟨ha, hs⟩) fun a ↦ assume (h a)

/-- Nothing follows a refusal. -/
theorem refuse_bind [Log.HasJournal σ] {P : σ → Prop} {source : String} {cause : BackendCause}
    {f g : α → Step σ β} :
    SameFrom P ((Log.refuse source cause : Step σ α) >>= f) (Log.refuse source cause >>= g) :=
  fun _ _ ↦ rfl

/-- Steps on a part of the state. -/
theorem within {l : Lens σ τ} {P : τ → Prop} {x y : StepWith ε τ α} (h : SameFrom P x y) :
    SameFrom (fun s ↦ P (l.get s)) (StepWith.within l x) (StepWith.within l y) := by
  intro s hs
  have hxy : x (l.get s) = y (l.get s) := h _ hs
  simp only [StepWith.within, hxy]

/-- The same is undone after a fault. -/
theorem undoing {undo : StepWith ε σ Unit} (h : SameFrom P x y) :
    SameFrom P (StepWith.undoing x undo) (StepWith.undoing y undo) := by
  intro s hs
  have hxy : x s = y s := h s hs
  simp only [StepWith.undoing, hxy]

end SameFrom

end RenderTargets.StepWith
