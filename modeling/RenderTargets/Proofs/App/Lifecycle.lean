import RenderTargets.Proofs.App.Ownership
/-!
# The life of the application

What each step of the state machine does to what the application owns, on any device with a ledger.
`App.At` fixes state and mode, because most of what a step does changes neither.

## Rest

Before `init` and after `destroy` the application is at **rest**: it shows nothing and owns nothing.
A failed `init` goes from the one to the other with everything made so far released. Called by
themselves, `onInit`, `onRunning` and `onCleanup` do their work in any state, so only ticks keep the
application at rest; `App.Sound` has that as a clause that can be switched off.
-/

namespace RenderTargets.App

open Log StepWith

variable {σ : Type} [GraphicsDevice σ] {Live : List ResourceId → σ → Prop} {st : State}
  {m : Option Mode}

/-- The application owns the live resources of the device beside it, and stands in a state with
something to show. -/
structure At (Live : List ResourceId → σ → Prop) (st : State) (m : Option Mode)
    (s : Application × σ) : Prop where
  /-- The arena lists the live resources. -/
  owns : Live s.1.arena s.2
  /-- The state. -/
  state : s.1.state = st
  /-- What is shown. -/
  mode : s.1.mode = m

/-- Something is shown, or nothing. -/
def Standing (Live : List ResourceId → σ → Prop) (st : State) (s : Application × σ) : Prop :=
  ∃ m, At Live st m s

omit [GraphicsDevice σ] in
theorem At.standing {s : Application × σ} (h : At Live st m s) : Standing Live st s := ⟨m, h⟩

/-! ### Steps of the parts -/

theorem At.journal (L : Ledger Live) {s : Application × σ} (h : At Live st m s) (j : Journal) :
    At Live st m (HasJournal.journal.set j s) :=
  ⟨L.journal s.1.arena s.2 j h.owns, h.state, h.mode⟩

omit [GraphicsDevice σ] in
theorem keeps_device {β : Type} {x : Step σ β} (hx : ∀ l, Keeps (Live l) x) :
    Keeps (At Live st m) (StepWith.within .snd x) :=
  Meets.snd fun a t ht ↦ (hx a.arena t ht.owns).mono (fun _ _ ho ↦ ⟨ho, ht.state, ht.mode⟩)
    fun _ _ ho ↦ ⟨ho, ht.state, ht.mode⟩

omit [GraphicsDevice σ] in
theorem keeps_arena {β : Type} {x : Step (Arena × σ) β} (hx : Keeps (Owns Live) x) :
    Keeps (At Live st m) (StepWith.within Application.arenaLens x) :=
  .within fun _ hs ↦ hx.mono (fun _ ht ↦ ht ▸ hs.owns) (fun _ _ ho ↦ ⟨ho, hs.state, hs.mode⟩)
    fun _ _ ho ↦ ⟨ho, hs.state, hs.mode⟩

omit [GraphicsDevice σ] in
/-- Another mode owns the same. -/
theorem meets_mode (f : Application → Option Mode) {E : EngineError → Application × σ → Prop} :
    Meets (At Live st m) (Application.change fun a ↦ { a with mode := f a })
      (fun _ ↦ Standing Live st) E :=
  .update fun _ hs ↦ ⟨_, hs.owns, hs.state, rfl⟩

/-- All that the application owns is released and counted. -/
theorem meets_release (L : Ledger Live) (owned : Arena) :
    Meets (fun s ↦ s.1.arena = owned ∧ At Live st m s)
      (StepWith.within Application.arenaLens Arena.releaseAll)
      (fun n s ↦ n = owned.length ∧ s.1.arena = [] ∧ At Live st m s) fun _ _ ↦ False :=
  .within fun _ hs ↦ (Arena.meets_releaseAll L owned).mono (fun _ ht ↦ ht ▸ ⟨hs.1, hs.2.owns⟩)
    (fun _ _ ho ↦ ⟨ho.1, ho.2.1, ho.2.2, hs.2.state, hs.2.mode⟩) fun _ _ he ↦ he

/-! ### The work of each state -/

/-- After a failure the application shows what it showed, and owns nothing. -/
theorem meets_onInit (L : Ledger Live) :
    Meets (At Live st m) (Application.onInit (σ := σ)) (fun _ ↦ Standing Live st)
      fun _ s ↦ s.1.arena = [] ∧ At Live st m s := by
  have hgate : Meets (At Live st m) (StepWith.within .snd (canShowScene (σ := σ)))
      (fun _ ↦ At Live st m) fun _ _ ↦ False :=
    .snd fun a t ht ↦ (meets_canShowScene L a.arena t ht.owns).mono
      (fun _ _ ho ↦ ⟨ho, ht.state, ht.mode⟩) fun _ _ he ↦ he
  have hrelease : Meets (At Live st m)
      (StepWith.attempt (StepWith.within Application.arenaLens (Arena.releaseAll (σ := σ))))
      (fun _ s ↦ s.1.arena = [] ∧ At Live st m s) fun _ _ ↦ False :=
    .attempt fun s hs ↦ (meets_release L s.1.arena s ⟨rfl, hs⟩).mono (fun _ _ ho ↦ ho.2)
      fun _ _ he ↦ he.elim
  rw [Application.onInit]
  refine .get_bind fun s ↦ ?_
  refine Meets.bind (hgate.mono (fun _ h ↦ h) (fun _ _ h ↦ h) fun _ _ h ↦ h.elim) fun shown ↦ ?_
  refine .ite (fun _ ↦ ?_) fun _ ↦ ?_
  · exact Meets.bind (meets_mode fun a ↦ some (.fallback (.ofConfig a.config)))
      fun _ ↦ .pure fun _ h ↦ h
  · refine Meets.bind (.attempt (R := fun _ ↦ At Live st m)
      (keeps_arena (keeps_createScene L s.1))) fun r ↦ ?_
    cases r with
    | ok scene =>
      refine .get_bind fun _ ↦ ?_
      refine Meets.bind (Q := fun _ ↦ At Live st m) (.note fun _ j hs ↦ hs.journal L j) fun _ ↦ ?_
      exact meets_mode fun _ ↦ some (.scene scene)
    | error e =>
      refine Meets.bind (Q := fun _ ↦ At Live st m) (.note fun _ j hs ↦ hs.journal L j) fun _ ↦ ?_
      refine Meets.bind (hrelease.mono (fun _ h ↦ h) (fun _ _ h ↦ h) fun _ _ h ↦ h.elim) fun r ↦ ?_
      cases r with
      | ok n => exact .fail fun _ h ↦ h
      | error r =>
        refine Meets.bind (Q := fun _ s ↦ s.1.arena = [] ∧ At Live st m s)
          (.note fun _ j hs ↦ ⟨hs.1, hs.2.journal L j⟩)
          fun _ ↦ ?_
        exact .fail fun _ h ↦ h

theorem keeps_drawMode (L : Ledger Live) :
    Keeps (Standing Live st) (Application.drawMode (σ := σ)) := by
  have hstanding : ∀ {β : Type} {x : Step (Application × σ) β},
      (∀ m, Meets (At Live st m) x (fun _ ↦ Standing Live st) fun _ ↦ Standing Live st) →
        Keeps (Standing Live st) x :=
    fun hx s ⟨m, hs⟩ ↦ hx m s hs
  have hpart : ∀ {x : Step σ Unit}, (∀ l, Keeps (Live l) x) →
      Keeps (Standing Live st) (StepWith.within .snd x) :=
    fun hx ↦ hstanding fun _ ↦ (keeps_device hx).mono (fun _ h ↦ h) (fun _ _ h ↦ h.standing)
      fun _ _ h ↦ h.standing
  rw [Application.drawMode]
  refine .get_bind fun s ↦ ?_
  split
  · next scene _ =>
    refine Meets.bind (hstanding fun _ ↦ meets_mode fun _ ↦ some (.scene _)) fun _ ↦ ?_
    exact (hpart fun l ↦ keeps_drawOffscreen L l _ _).bind fun _ ↦
      hpart fun l ↦ keeps_drawComposite L l _
  · next f _ =>
    refine .within fun s ⟨m, hs⟩ ↦ ?_
    refine (keeps_drawFallback L s.1.arena).mono (fun _ ht ↦ ht ▸ hs.owns) (fun _ _ ho ↦ ?_)
      fun _ _ ho ↦ ?_
    · exact ⟨_, ho, hs.state, rfl⟩
    · exact ⟨_, ho, hs.state, rfl⟩
  · exact .pure fun _ h ↦ h

/-- A frame ends in the state for another one or in the one for releasing. -/
theorem meets_onRunning (L : Ledger Live) :
    Meets (Standing Live st) (Application.onRunning (σ := σ))
      (fun st' s ↦ (st' = .running ∨ st' = .cleanup) ∧ Standing Live st s)
      fun _ ↦ Standing Live st := by
  have hcommit : Keeps (Standing Live st)
      (StepWith.within .snd (GraphicsDevice.commitFrame : Step σ Unit)) :=
    fun s ⟨_, hs⟩ ↦ (keeps_device L.commitFrame s hs).mono (fun _ _ h ↦ h.standing)
      fun _ _ h ↦ h.standing
  rw [Application.onRunning]
  refine (keeps_drawMode L).bind fun _ ↦ ?_
  refine hcommit.bind fun _ ↦ ?_
  refine .get_bind fun s ↦ ?_
  refine .pure fun _ hs ↦ ⟨?_, hs⟩
  split
  · exact .inr rfl
  · exact .inl rfl

/-- Releasing never fails, and nothing is left to show or to own. -/
theorem meets_onCleanup (L : Ledger Live) :
    Meets (At Live st m) (Application.onCleanup (σ := σ))
      (fun _ s ↦ s.1.arena = [] ∧ At Live st none s) fun _ _ ↦ False := by
  rw [Application.onCleanup]
  refine .get_bind_eq fun s hs ↦ ?_
  refine Meets.bind (Q := fun _ t ↦ t.1.arena = s.1.arena ∧ At Live st none t)
    (.update fun t ht ↦ ?_) fun _ ↦ .ite (fun hc ↦ ?_) fun _ ↦ ?_
  · subst ht
    exact ⟨rfl, hs.owns, hs.state, rfl⟩
  · simp only [Bool.and_eq_true, List.isEmpty_iff] at hc
    exact .pure fun _ ht ↦ ⟨ht.1.trans hc.2, ht.2⟩
  · refine (meets_release L s.1.arena).bind fun _ ↦ ?_
    refine Meets.bind (Q := fun _ t ↦ t.1.arena = [] ∧ At Live st none t)
      (.note fun _ j ht ↦ ⟨ht.2.1, ht.2.2.journal L j⟩) fun _ ↦ ?_
    exact .pure fun _ ht ↦ ht

/-! ### The state machine -/

/-- Nothing is shown and nothing owned. -/
structure AtRest (a : Application) : Prop where
  /-- Nothing is shown. -/
  mode : a.mode = none
  /-- Nothing is owned. -/
  arena : a.arena = []

/-- The application owns the live resources and, if `p`, is at rest before `init` and after
`destroy`. -/
structure Sound (Live : List ResourceId → σ → Prop) (p : Prop) (s : Application × σ) : Prop where
  /-- The arena lists the live resources. -/
  owns : Live s.1.arena s.2
  /-- The first and the last state are those of rest. -/
  rest : p → s.1.state = .init ∨ s.1.state = .destroy → AtRest s.1

variable {p : Prop}

omit [GraphicsDevice σ] in
theorem Sound.at {s : Application × σ} (h : Sound Live p s) :
    At Live s.1.state s.1.mode s :=
  ⟨h.owns, rfl, rfl⟩

omit [GraphicsDevice σ] in
theorem Standing.sound {s : Application × σ} (h : Standing Live st s)
    (hst : st ≠ .init ∧ st ≠ .destroy) : Sound Live p s := by
  obtain ⟨m, h⟩ := h
  refine ⟨h.owns, fun _ hs ↦ ?_⟩
  rw [h.state] at hs
  exact (hs.elim hst.1 hst.2).elim

/-- The state that follows is one of rest only if there is nothing left. -/
theorem meets_next (L : Ledger Live) :
    Meets (Sound Live p) (Application.next (σ := σ))
      (fun st s ↦ Live s.1.arena s.2 ∧ (p → st = .init ∨ st = .destroy → AtRest s.1))
      fun _ ↦ Sound Live p := by
  rw [Application.next]
  refine .get_bind_eq fun s hs ↦ ?_
  split
  · next hst =>
    refine Meets.bind (.attempt (R := fun r t ↦
      (∃ st, r = .ok () ∧ Standing Live st t) ∨
        ∃ e, r = .error e ∧ t.1.arena = [] ∧ At Live s.1.state s.1.mode t) ?_) fun r ↦ ?_
    · refine (meets_onInit L).mono (fun t ht ↦ ?_) (fun _ _ h ↦ .inl ⟨_, rfl, h⟩)
        fun e _ h ↦ .inr ⟨e, rfl, h⟩
      rw [ht]
      exact hs.at
    cases r with
    | ok u =>
      refine .pure fun t ht ↦ ?_
      obtain ⟨st, -, m, ht⟩ | ⟨e, he, -⟩ := ht
      · exact ⟨ht.owns, fun _ h ↦ by rcases h with h | h <;> cases h⟩
      · cases he
    | error e =>
      refine Meets.bind (Q := fun _ ↦ Sound Live p) (.update fun t ht ↦ ?_) fun _ ↦ .fail
        fun _ h ↦ h
      obtain ⟨st, he, -⟩ | ⟨e, -, harena, ht⟩ := ht
      · cases he
      · exact ⟨ht.owns, fun hp _ ↦ ⟨ht.mode.trans (hs.rest hp (.inl hst)).mode, harena⟩⟩
  · next hst =>
    have hrun : ∀ t, t = s → Standing Live .running t := fun t ht ↦
      ⟨s.1.mode, ht ▸ hs.owns, ht ▸ hst, ht ▸ rfl⟩
    refine (meets_onRunning L).mono hrun ?_ ?_
    · rintro st t ⟨hst, m, ht⟩
      refine ⟨ht.owns, fun _ h ↦ ?_⟩
      rcases hst with rfl | rfl <;> rcases h with h | h <;> cases h
    · exact fun _ t ht ↦ ht.sound ⟨nofun, nofun⟩
  · refine Meets.bind ((meets_onCleanup L).mono (fun t ht ↦ (by rw [ht]; exact hs.at))
      (fun _ _ h ↦ h)
      fun _ _ h ↦ h.elim) fun _ ↦ .pure fun t ht ↦ ?_
    exact ⟨ht.2.owns, fun _ _ ↦ ⟨ht.2.mode, ht.1⟩⟩
  · next hst =>
    refine .pure fun t ht ↦ ?_
    subst ht
    exact ⟨hs.owns, fun hp _ ↦ hs.rest hp (.inr hst)⟩

/-- A tick keeps the application sound. -/
theorem keeps_tick (L : Ledger Live) : Keeps (Sound Live p) (Application.tick (σ := σ)) := by
  rw [Application.tick]
  refine (meets_next L).bind fun st ↦ ?_
  refine .get_bind_eq fun s hs ↦ ?_
  refine .ite (fun _ ↦ ?_) fun hne ↦ ?_
  · refine Meets.bind (Q := fun _ t ↦
      Live t.1.arena t.2 ∧ (p → st = .init ∨ st = .destroy → AtRest t.1))
      (.note fun t j ht ↦ ?_) fun _ ↦ ?_
    · subst ht
      exact ⟨L.journal t.1.arena t.2 j hs.1, hs.2⟩
    refine Meets.bind (Q := fun _ ↦ Sound Live p) (.update fun t ht ↦ ?_) fun _ ↦ .pure fun _ h ↦ h
    refine ⟨ht.1, fun hp h ↦ ?_⟩
    obtain ⟨hmode, harena⟩ := ht.2 hp h
    exact ⟨hmode, harena⟩
  · refine .pure fun t ht ↦ ?_
    subst ht
    exact ⟨hs.1, fun hp h ↦ hs.2 hp (Decidable.not_not.1 hne ▸ h)⟩

/-- A wish to quit keeps the application sound. -/
theorem keeps_requestQuit (L : Ledger Live) :
    Keeps (Sound Live p) (StepWith.within .snd (GraphicsDevice.requestQuit : Step σ Unit)) :=
  Meets.snd fun a t ht ↦ (L.requestQuit a.arena t ht.owns).mono (fun _ _ ho ↦ ⟨ho, ht.rest⟩)
    fun _ _ ho ↦ ⟨ho, ht.rest⟩

end RenderTargets.App
