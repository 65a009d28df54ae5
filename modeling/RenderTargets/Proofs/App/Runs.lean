import RenderTargets.Proofs.App.Lifecycle
import RenderTargets.Proofs.App.View
import RenderTargets.Proofs.Recorder.Ledger
/-!
# Runs of the application on a recorder

A run is any list of calls on an application, made one after the other whether or not the ones
before failed. Only a trap ends it early.

After every run of a new application on a fresh recorder, the arena of the application is the list
of the live resources of the recorder, in order and without duplicates, and no resource was ever
released twice or after its release: the same run on an **audited** recorder is the same run, and
has refused nothing. If there were only ticks and wishes to quit, the end of the application is the
end of its resources, and nothing moves any more.
-/

namespace RenderTargets.Application

open App Log StepWith

variable {σ τ : Type} [GraphicsDevice σ] [GraphicsDevice τ]

/-- The calls on an application. -/
inductive Call where
  /-- A step of the state machine. -/
  | tick
  /-- The work of `init`. -/
  | init
  /-- The work of `running`. -/
  | running
  /-- The work of `cleanup`. -/
  | cleanup
  /-- The window is asked to close. -/
  | quit
  deriving DecidableEq, Repr

namespace Call

/-- The step of a call. What it answers is passed over. -/
def perform : Call → Step (Application × σ) Unit
  | tick => (fun _ ↦ ()) <$> Application.tick
  | init => Application.onInit
  | running => (fun _ ↦ ()) <$> Application.onRunning
  | cleanup => (fun _ ↦ ()) <$> Application.onCleanup
  | quit => StepWith.within .snd GraphicsDevice.requestQuit

/-- The call moves the application on as it is meant to be. -/
def IsRegular (c : Call) : Prop := c = tick ∨ c = quit

end Call

/-- Where calls leave an application and its device, unless one of them traps. -/
def run (calls : List Call) : Application × σ → Option (Application × σ) :=
  settleAll (calls.map Call.perform)

/-! ### Every call -/

theorem keeps_perform {Live : List ResourceId → σ → Prop} (L : Ledger Live) {p : Prop} {c : Call}
    (hc : p → c.IsRegular) : Keeps (Sound Live p) (c.perform (σ := σ)) := by
  cases c with
  | tick => exact Meets.map (keeps_tick L)
  | quit => exact keeps_requestQuit L
  | init =>
    have hp : ¬p := fun h ↦ by rcases hc h with h | h <;> cases h
    exact fun s hs ↦ (meets_onInit L s hs.at).mono (fun _ _ ⟨_, h⟩ ↦ ⟨h.owns, fun h ↦ (hp h).elim⟩)
      fun _ _ h ↦ ⟨h.2.owns, fun h ↦ (hp h).elim⟩
  | running =>
    have hp : ¬p := fun h ↦ by rcases hc h with h | h <;> cases h
    exact Meets.map fun s hs ↦ (meets_onRunning L s hs.at.standing).mono
      (fun _ _ ⟨_, _, h⟩ ↦ ⟨h.owns, fun h ↦ (hp h).elim⟩)
      fun _ _ ⟨_, h⟩ ↦ ⟨h.owns, fun h ↦ (hp h).elim⟩
  | cleanup =>
    have hp : ¬p := fun h ↦ by rcases hc h with h | h <;> cases h
    exact Meets.map fun s hs ↦ (meets_onCleanup L s hs.at).mono
      (fun _ _ h ↦ ⟨h.2.owns, fun h ↦ (hp h).elim⟩) fun _ _ h ↦ h.elim

/-- A run keeps the application sound, and at rest in the first and the last state if all its calls
are regular. -/
theorem sound_run {Live : List ResourceId → σ → Prop} (L : Ledger Live) {p : Prop}
    {calls : List Call} (hc : p → ∀ c ∈ calls, c.IsRegular) {s t : Application × σ}
    (hs : Sound Live p s) (hr : run calls s = some t) : Sound Live p t := by
  refine Keeps.settleAll (fun x hx ↦ ?_) hs hr
  obtain ⟨c, hmem, rfl⟩ := List.mem_map.1 hx
  exact keeps_perform L fun h ↦ hc h c hmem

theorem seen_perform {f : σ → τ} (V : View f) (c : Call) : Seen (beside f) c.perform c.perform := by
  have hmap : ∀ {β : Type} {x : Step (Application × σ) β} {y : Step (Application × τ) β},
      Seen (beside f) x y → Seen (beside f) ((fun _ ↦ ()) <$> x) ((fun _ ↦ ()) <$> y) :=
    fun h ↦ h.bind fun _ ↦ .pure _
  cases c with
  | tick => exact hmap (seen_tick V)
  | init => exact seen_onInit V
  | running => exact hmap (seen_onRunning V)
  | cleanup => exact hmap (seen_onCleanup V)
  | quit => exact seen_snd V.requestQuit

/-- On a device seen as another, a run is the same run. -/
theorem map_run {f : σ → τ} (V : View f) (calls : List Call) (s : Application × σ) :
    (run calls s).map (beside f) = run calls (beside f s) :=
  Seen.settleAll (seen_perform V) calls s

/-! ### The end -/

/-- In the last state a tick does nothing. -/
theorem tick_of_destroy {s : Application × σ} (h : s.1.state = .destroy) :
    tick s = .ok .destroy s := by
  obtain ⟨⟨config, shaders, state, mode, arena⟩, d⟩ := s
  cases h
  rfl

/-- At rest there is nothing to release. -/
theorem onCleanup_of_atRest {s : Application × σ} (h : AtRest s.1) :
    onCleanup s = .ok 0 s := by
  obtain ⟨⟨config, shaders, state, mode, arena⟩, d⟩ := s
  obtain ⟨hmode, harena⟩ := h
  cases hmode
  cases harena
  rfl

/-! ### Runs on a recorder -/

/-- An application that did nothing yet. -/
def new (config : Config) (shaders : Shaders) : Application := { config, shaders }

/-- What holds of an application beside a recorder after a run. -/
structure Accounted (a : Application) (r : Recorder) : Prop where
  /-- The arena is the list of the live resources. -/
  arena : a.arena = r.liveInOrder
  /-- Nothing is listed twice. -/
  nodup : a.arena.Nodup
  /-- Nothing is alive but what the arena lists. -/
  mem_iff : ∀ id, id ∈ a.arena ↔ r.isLive id
  /-- As many resources are owned as are alive. -/
  owned : a.arena.length = r.liveCount
  /-- As many resources are alive as were made and not released. -/
  live : r.liveCount = r.created.total - r.destroyed.total
  /-- No more were released than made. -/
  destroyed_le : r.destroyed.total ≤ r.created.total

theorem accounted_of_holds {a : Application} {r : Recorder} (h : r.Holds a.arena) :
    Accounted a r where
  arena := h.order.symm
  nodup := h.nodup
  mem_iff := h.mem_iff
  owned := h.count.symm
  live := by have := h.balance; omega
  destroyed_le := by have := h.balance; omega

/-- What holds of the end: everything made was released, and nothing moves any more. -/
structure Finished (a : Application) (r : Recorder) (j : Journal) : Prop where
  /-- Everything made was released. -/
  balance : r.created.total = r.destroyed.total
  /-- Nothing is alive. -/
  live : r.liveCount = 0
  /-- A tick changes nothing. -/
  tick : Application.tick (a, r, j) = .ok .destroy (a, r, j)
  /-- Releasing once more changes nothing. -/
  cleanup : Application.onCleanup (a, r, j) = .ok 0 (a, r, j)

/-- **The application owns what is alive.** After every run of a new application on a fresh recorder
the arena accounts for the live resources; the audit of the same run saw no release refused; and if
there were only ticks and wishes to quit, the last state means that everything was released, for
good. -/
theorem run_accounted (config : Config) (shaders : Shaders) (features : Features)
    (maxColors : UInt32) (display : Display) (failAt : Option (ResourceKind × Nat))
    (quitAfter : Option Nat) (journal : Journal) (calls : List Call) {a : Application}
    {r : Recorder} {j : Journal}
    (h : run calls (new config shaders,
      Recorder.fresh features maxColors display failAt quitAfter, journal) = some (a, r, j)) :
    Accounted a r ∧
      run calls (new config shaders,
        (⟨(Recorder.fresh features maxColors display failAt quitAfter, journal), []⟩ :
          Audited (Recorder × Journal))) = some (a, ⟨(r, j), []⟩) ∧
      ((∀ c ∈ calls, c.IsRegular) → a.state = .destroy → Finished a r j) := by
  have hstart : ∀ p, Sound Recorder.HoldsIn p (new config shaders,
      Recorder.fresh features maxColors display failAt quitAfter, journal) :=
    fun _ ↦ ⟨Recorder.holds_fresh .., fun _ _ ↦ ⟨rfl, rfl⟩⟩
  have howns : r.Holds a.arena :=
    (sound_run Recorder.ledger (p := False) nofun (hstart _) h).owns
  refine ⟨accounted_of_holds howns, ?_, fun hregular hdestroy ↦ ?_⟩
  · have hsame := map_run (Audited.view (σ := Recorder × Journal)) calls (new config shaders,
      ⟨(Recorder.fresh features maxColors display failAt quitAfter, journal), []⟩)
    obtain ⟨⟨a', d, refused⟩, hrun, hview⟩ := Option.map_eq_some_iff.1 (hsame.trans h)
    cases hview
    have hclean := (sound_run (Audited.ledger Recorder.ledger) (p := False) nofun
      ⟨⟨(hstart False).owns, rfl⟩, nofun⟩ hrun).owns.2
    rw [hrun, show refused = [] from hclean]
  · have hrest : AtRest a := (sound_run Recorder.ledger (p := True) (fun _ ↦ hregular)
      (hstart _) h).rest trivial (.inr hdestroy)
    have hlive : r.liveCount = 0 := by rw [howns.count, hrest.arena, List.length_nil]
    refine ⟨?_, hlive, tick_of_destroy hdestroy, onCleanup_of_atRest hrest⟩
    rw [howns.balance, hlive, Nat.add_zero]

/-- A recorder that refuses the second texture ends the application with the first tick, and the
first texture is released. -/
theorem run_accounted_refused_texture :
    ∃ a r j,
      run [.tick] (new {} default, Recorder.fresh .every 4 ⟨640, 480, .bgra8Srgb, none, 1⟩
        (some (.texture, 2)) none, {}) = some (a, r, j) ∧
      Accounted a r ∧ r.destroyed.textures = 1 ∧ Finished a r j := by
  have hend : (run [.tick] (new {} default, Recorder.fresh .every 4
      ⟨640, 480, .bgra8Srgb, none, 1⟩ (some (.texture, 2)) none, ({} : Journal))).any
        (fun s ↦ s.1.state == .destroy && s.2.1.destroyed.textures == 1) := by
    decide +kernel
  obtain ⟨⟨a, r, j⟩, hrun, hs⟩ := (Option.any_eq_true _ _).1 hend
  simp only [Bool.and_eq_true, beq_iff_eq] at hs
  have h := run_accounted {} default .every 4 ⟨640, 480, .bgra8Srgb, none, 1⟩
    (some (.texture, 2)) none {} [.tick] hrun
  exact ⟨a, r, j, hrun, h.1, hs.2, h.2.2 (by simp [Call.IsRegular]) hs.1⟩

end RenderTargets.Application
