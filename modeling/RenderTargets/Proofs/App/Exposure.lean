import Mathlib.Data.List.Induction
import RenderTargets.Proofs.App.Course
import RenderTargets.Proofs.App.Targets
/-!
# What an exposed scene is made of

An application shows its scene to whoever asks (`Application.scene?`), and the handles in it are of
use as long as what they stand for is alive. All of it is in the arena when the scene is made, and
the mode and the arena are then changed by different steps, so whether they still agree is a
question about every call in every state.

**They agree but for one call.** Making a scene while another one is shown, by a second `init` or by
a first tick after an `init`, puts the new resources beside the old ones; if that fails, everything
in the arena is released, also what the scene before was made of, and the mode stays what it was. So
a scene is shown of which nothing is alive. `Application.LosesScene` is that event, and a scene that
is shown is either all there or was lost by it (`run_exposed`). Ticks and wishes to quit never make
a scene while another one is shown.

None of the steps looks at the device for this: what the arena lists is known on any device, and
that it is alive is known from the ledger.
-/

namespace RenderTargets

open App Log StepWith

namespace App

/-- What the cube is made of. -/
def Offscreen.resources (o : Offscreen) : List ResourceId :=
  [.mesh o.mesh, .shader o.shader, .pipeline o.pipeline]

/-- What the panels are made of. -/
def Composite.resources (c : Composite) : List ResourceId :=
  [.mesh c.mesh, .shader c.shader, .pipeline c.pipeline]

/-- The three surfaces and their pass, and the mesh, shader and pipeline of both stages. -/
def Scene.resources (s : Scene) : List ResourceId :=
  s.targets.resources ++ s.offscreen.resources ++ s.composite.resources

variable {σ : Type} [GraphicsDevice σ] {ids : List ResourceId}

/-! ### Making -/

/-- What is tracked is in the arena, with what was there. -/
theorem meets_track_mem {id : ResourceId} {E : EngineError → Arena × σ → Prop} :
    Meets (fun s ↦ ids ⊆ s.1) (Arena.track id) (fun _ s ↦ ids ++ [id] ⊆ s.1) E := by
  refine (Meets.note (Q := fun _ s ↦ ids ⊆ s.1) fun _ _ hs ↦ hs).bind fun _ ↦ .update fun s hs ↦ ?_
  exact List.append_subset.2 ⟨List.subset_append_of_subset_left _ hs, List.subset_append_right _ _⟩

/-- A resource is made and tracked. -/
theorem meets_make_mem {κ : ResourceKind} {β : Type} {x : Step σ (Slot.Handle κ)}
    {wrap : Slot.Handle κ → ResourceId} {f : Slot.Handle κ → Step (Arena × σ) β}
    {Q : β → Arena × σ → Prop}
    (hf : ∀ id, Meets (fun s ↦ ids ++ [wrap id] ⊆ s.1) (f id) Q fun _ _ ↦ True) :
    Meets (fun s ↦ ids ⊆ s.1)
      (StepWith.within .snd x >>= fun id ↦ Arena.track (wrap id) >>= fun _ ↦ f id) Q
      fun _ _ ↦ True := by
  refine Meets.bind (Q := fun _ s ↦ ids ⊆ s.1) (.snd fun a ↦ (Keeps.const (p := ids ⊆ a)).lax)
    fun id ↦ ?_
  exact meets_track_mem.bind fun _ ↦ hf id

theorem meets_createTargets_mem (b : TargetsBuilder) :
    Meets (fun s ↦ ids ⊆ s.1) (b.create (σ := σ)) (fun t s ↦ ids ++ t.resources ⊆ s.1)
      fun _ _ ↦ True := by
  have hsurface {ids : List ResourceId} (i : ℕ) : Meets (fun s ↦ ids ⊆ s.1)
      (b.createSurface (σ := σ) i) (fun id s ↦ ids ++ [.texture id] ⊆ s.1) fun _ _ ↦ True :=
    meets_make_mem fun id ↦ .pure fun _ hs ↦ hs
  refine (hsurface 0).bind fun first ↦ ?_
  refine (hsurface 1).bind fun second ↦ ?_
  refine (hsurface 2).bind fun third ↦ ?_
  refine meets_make_mem fun pass ↦ .pure fun s hs ↦ ?_
  simpa [Targets.resources] using hs

theorem meets_buildTargets_mem (b : TargetsBuilder) :
    Meets (fun s ↦ ids ⊆ s.1) (b.build (σ := σ)) (fun t s ↦ ids ++ t.resources ⊆ s.1)
      fun _ _ ↦ True := by
  rw [TargetsBuilder.build]
  refine .get_bind fun s ↦ ?_
  refine .ite (fun _ ↦ .fail_bind fun _ _ ↦ trivial) fun _ ↦ ?_
  refine .get_bind fun s ↦ ?_
  refine Meets.bind (.attempt (R := fun r s ↦ ∀ t, r = .ok t → ids ++ t.resources ⊆ s.1)
    ((meets_createTargets_mem b).mono (fun _ hs ↦ hs) (fun t s hs _ ht ↦ ?_) fun _ _ _ _ ht ↦ ?_))
    fun r ↦ ?_
  · cases ht
    exact hs
  · cases ht
  · cases r with
    | ok targets =>
      exact (Meets.note (Q := fun _ s ↦ ids ++ targets.resources ⊆ s.1)
        fun _ _ hs ↦ hs targets rfl).bind fun _ ↦ .pure fun _ hs ↦ hs
    | error e =>
      refine Meets.bind (Meets.any.pre fun _ _ ↦ trivial) fun r ↦ ?_
      cases r with
      | ok n => exact .pure_bind (.fail fun _ _ ↦ trivial)
      | error r => exact Meets.bind Meets.any fun _ ↦ .fail fun _ _ ↦ trivial

theorem meets_createOffscreen_mem (shader : ShaderDesc) (targets : Targets) (config : Config) :
    Meets (fun s ↦ ids ⊆ s.1) (Offscreen.create (σ := σ) shader targets config)
      (fun o s ↦ ids ++ o.resources ⊆ s.1) fun _ _ ↦ True := by
  rw [Offscreen.create]
  refine (Meets.ofChecked (fun _ _ _ hs ↦ hs) fun _ _ _ _ ↦ trivial).bind fun cube ↦ ?_
  refine meets_make_mem fun mesh ↦ ?_
  refine meets_make_mem fun shader ↦ ?_
  refine meets_make_mem fun pipeline ↦ .pure fun s hs ↦ ?_
  simpa [Offscreen.resources] using hs

theorem meets_createComposite_mem (shader : ShaderDesc) (targets : Targets) (config : Config) :
    Meets (fun s ↦ ids ⊆ s.1) (Composite.create (σ := σ) shader targets config)
      (fun c s ↦ ids ++ c.resources ⊆ s.1) fun _ _ ↦ True := by
  rw [Composite.create]
  refine meets_make_mem fun mesh ↦ ?_
  refine meets_make_mem fun shader ↦ ?_
  refine .get_bind fun s ↦ ?_
  refine meets_make_mem fun pipeline ↦ ?_
  refine (Meets.orTrap fun _ _ _ hs ↦ hs).bind fun _ ↦ .pure fun s hs ↦ ?_
  simpa [Composite.resources] using hs

/-- All that a scene is made of is in the arena when it is made. -/
theorem meets_createScene_mem (a : Application) :
    Meets (fun _ ↦ True) (a.createScene (σ := σ)) (fun scene s ↦ scene.resources ⊆ s.1)
      fun _ _ ↦ True := by
  rw [Application.createScene]
  refine Meets.bind (Q := fun _ s ↦ ([] : List ResourceId) ⊆ s.1)
    (Meets.any.mono (fun _ hs ↦ hs) (fun _ _ _ ↦ List.nil_subset _) fun _ _ he ↦ he)
    fun samples ↦ ?_
  refine (meets_buildTargets_mem _).bind fun targets ↦ ?_
  refine (meets_createOffscreen_mem _ _ _).bind fun offscreen ↦ ?_
  exact (meets_createComposite_mem _ _ _).bind fun composite ↦ .pure fun _ hs ↦ hs

end App

namespace Application

variable {σ : Type} [GraphicsDevice σ] {a a' : Application} {m : Option Mode} {c : Call}
  {calls : List Call}

/-! ### Single calls -/

/-- All that a shown scene is made of is in the arena. -/
def IsBacked (a : Application) : Prop := ∀ scene, a.scene? = some scene → scene.resources ⊆ a.arena

/-- The arena is the same, and so is what a shown scene is made of. -/
structure LikeBefore (a a' : Application) : Prop where
  /-- The arena. -/
  arena : a'.arena = a.arena
  /-- What a scene is made of. -/
  scene : a'.scene?.map Scene.resources = a.scene?.map Scene.resources

/-- The call makes a scene, if one can be shown. -/
def Call.Makes (c : Call) (a : Application) : Prop := c = .init ∨ c = .tick ∧ a.state = .init

theorem LikeBefore.refl (a : Application) : a.LikeBefore a := ⟨rfl, rfl⟩

theorem LikeBefore.isBacked (h : a.LikeBefore a') (ha : a.IsBacked) : a'.IsBacked := by
  intro scene hscene
  have hmap := h.scene
  rw [hscene, Option.map_some] at hmap
  obtain ⟨before, hbefore, hsame⟩ := Option.map_eq_some_iff.1 hmap.symm
  rw [← hsame, h.arena]
  exact ha before hbefore

theorem isBacked_of_scene?_eq_none (h : a.scene? = none) : a.IsBacked := by
  intro scene hscene
  cases h.symm.trans hscene

/-- Nothing is left in the arena after releasing, also if something could not be released. -/
theorem meets_releaseAll_nil :
    Meets (fun _ ↦ True) (Arena.releaseAll (σ := σ)) (fun _ s ↦ s.1 = []) fun _ s ↦ s.1 = [] := by
  rw [Arena.releaseAll, Arena.rollbackTo]
  refine .get_bind fun s ↦ ?_
  refine Meets.bind (Q := fun _ (t : Arena × σ) ↦ t.1 = []) (.update fun _ _ ↦ rfl) fun _ ↦ ?_
  exact .snd fun a ↦ Keeps.const (p := a = [])

/-- The mode of the application is this one. -/
def HasMode (m : Option Mode) (s : Application × σ) : Prop := s.1.mode = m

omit [GraphicsDevice σ] in
/-- A step on the arena does not touch the mode. -/
theorem meets_within_arena {β : Type} {x : Step (Arena × σ) β} {Q : β → Arena → Prop}
    {E : EngineError → Arena → Prop}
    (hx : Meets (fun _ ↦ True) x (fun b s ↦ Q b s.1) fun e s ↦ E e s.1) :
    Meets (HasMode m) (StepWith.within arenaLens x) (fun b s ↦ HasMode m s ∧ Q b s.1.arena)
      fun e s ↦ HasMode m s ∧ E e s.1.arena :=
  .within fun _ hs ↦ hx.mono (fun _ _ ↦ trivial) (fun _ _ h ↦ ⟨hs, h⟩) fun _ _ h ↦ ⟨hs, h⟩

variable {E : EngineError → Application × σ → Prop}

theorem meets_attempt_createScene (a : Application) :
    Meets (HasMode m) (attempt (StepWith.within arenaLens (createScene a : Step (Arena × σ) Scene)))
      (fun r s ↦ HasMode m s ∧ ∀ scene, r = .ok scene → scene.resources ⊆ s.1.arena) E :=
  .attempt ((meets_within_arena (Q := fun scene arena ↦ scene.resources ⊆ arena)
    (E := fun _ _ ↦ True) (meets_createScene_mem a)).mono (fun _ hs ↦ hs)
    (fun _ _ hs ↦ ⟨hs.1, fun _ h ↦ Except.ok.inj h ▸ hs.2⟩) fun _ _ hs ↦ ⟨hs.1, nofun⟩)

theorem meets_attempt_releaseAll :
    Meets (HasMode m)
      (attempt (StepWith.within arenaLens (Arena.releaseAll : Step (Arena × σ) ℕ)))
      (fun _ s ↦ HasMode m s ∧ s.1.arena = []) E :=
  .attempt (meets_within_arena (Q := fun _ arena ↦ arena = []) (E := fun _ arena ↦ arena = [])
    meets_releaseAll_nil)

/-- To ask for what can be shown changes nothing and never fails. -/
theorem meets_canShowScene_const {p : Prop} {E : EngineError → σ → Prop} :
    Meets (fun _ ↦ p) (canShowScene (σ := σ)) (fun _ _ ↦ p) E := by
  have hanswer {severity : Severity} {source message : String} {shown : Bool} :
      Meets (fun _ : σ ↦ p) (note severity source message >>= fun _ ↦ pure shown) (fun _ _ ↦ p) E :=
    Meets.bind (Q := fun _ _ ↦ p) (.note fun _ _ h ↦ h) fun _ ↦ .pure fun _ h ↦ h
  rw [canShowScene]
  exact .get_bind fun s ↦ .ite (fun _ ↦ hanswer) fun _ ↦ .ite (fun _ ↦ hanswer) fun _ ↦ hanswer

/-- An answer means a scene that is in the arena, or the message. A failure empties the arena and
leaves the mode. -/
theorem meets_onInit_backed :
    Meets (HasMode m) (onInit (σ := σ)) (fun _ s ↦ s.1.IsBacked)
      fun _ s ↦ HasMode m s ∧ s.1.arena = [] := by
  rw [onInit]
  refine .get_bind fun s ↦ ?_
  refine Meets.bind (Q := fun _ ↦ HasMode m)
    (.snd fun a ↦ meets_canShowScene_const (p := a.mode = m)) fun shown ↦ ?_
  refine .ite (fun _ ↦ Meets.bind (Q := fun _ s ↦ s.1.IsBacked) (.update fun s _ ↦ ?_) fun _ ↦
    .pure fun _ hs ↦ hs) fun _ ↦ (meets_attempt_createScene s.1).bind fun r ↦ ?_
  · exact isBacked_of_scene?_eq_none rfl
  · cases r with
    | ok scene =>
      refine .get_bind fun _ ↦ ?_
      refine Meets.bind (Q := fun _ s ↦ scene.resources ⊆ s.1.arena)
        (.note fun _ _ hs ↦ hs.2 scene rfl) fun _ ↦ .update fun s hs ↦ ?_
      rintro shown ⟨⟩
      exact hs
    | error e =>
      refine Meets.bind (Q := fun _ ↦ HasMode m) (.note fun _ _ hs ↦ hs.1) fun _ ↦ ?_
      refine meets_attempt_releaseAll.bind fun r ↦ ?_
      cases r with
      | ok n => exact .pure_bind (.fail fun _ hs ↦ hs)
      | error r =>
        exact Meets.bind (Q := fun _ s ↦ HasMode m s ∧ s.1.arena = []) (.note fun _ _ hs ↦ hs)
          fun _ ↦ .fail fun _ hs ↦ hs

/-- A frame moves the cube and the text and nothing else. -/
theorem keeps_onRunning_like (a : Application) :
    Keeps (fun s ↦ a.LikeBefore s.1) (onRunning (σ := σ)) := by
  have hdevice {β : Type} {x : Step σ β} :
      Keeps (fun s : Application × σ ↦ a.LikeBefore s.1) (StepWith.within .snd x) :=
    Meets.snd fun b ↦ Keeps.const (p := a.LikeBefore b)
  have hmode : Keeps (fun s : Application × σ ↦ a.LikeBefore s.1) (drawMode (σ := σ)) := by
    rw [drawMode]
    refine .get_bind_eq fun s hs ↦ ?_
    split
    · next scene hscene =>
      refine Meets.bind (Q := fun _ (t : Application × σ) ↦ a.LikeBefore t.1)
        (.update fun t ht ↦ ?_) fun _ ↦ hdevice.bind fun _ ↦ hdevice
      subst ht
      refine ⟨hs.arena, ?_⟩
      rw [← hs.scene]
      simp only [scene?, hscene, Option.map_some]
      rfl
    · next f hf =>
      refine .within fun t ht ↦ Meets.any.mono (fun _ _ ↦ trivial) (fun _ _ _ ↦ ?_) fun _ _ _ ↦ ?_
      all_goals
        subst ht
        refine ⟨hs.arena, ?_⟩
        rw [← hs.scene]
        simp only [scene?, hf]
    · exact .pure fun t ht ↦ ht ▸ hs
  rw [onRunning]
  exact hmode.bind fun _ ↦ hdevice.bind fun _ ↦ .get_bind fun s ↦ .pure fun _ hs ↦ hs

/-- Nothing is shown after releasing, also if something could not be released. -/
theorem meets_onCleanup_backed :
    Meets (fun _ ↦ True) (onCleanup (σ := σ)) (fun _ s ↦ s.1.IsBacked)
      fun _ s ↦ s.1.IsBacked := by
  have hbacked {s : Application × σ} (h : HasMode none s) : s.1.IsBacked :=
    isBacked_of_scene?_eq_none (by rw [scene?, show s.1.mode = none from h])
  have hrelease : Keeps (HasMode none)
      (StepWith.within arenaLens (Arena.releaseAll : Step (Arena × σ) ℕ)) :=
    (meets_within_arena (Q := fun _ _ ↦ True) (E := fun _ _ ↦ True) Meets.any).mono
      (fun _ hs ↦ hs) (fun _ _ hs ↦ hs.1) fun _ _ hs ↦ hs.1
  have hclean : Meets (fun _ ↦ True) (onCleanup (σ := σ)) (fun _ ↦ HasMode none)
      fun _ ↦ HasMode none := by
    rw [onCleanup]
    refine .get_bind fun s ↦ ?_
    refine Meets.bind (Q := fun _ ↦ HasMode none) (.update fun _ _ ↦ rfl) fun _ ↦ ?_
    refine .ite (fun _ ↦ .pure fun _ hs ↦ hs) fun _ ↦ ?_
    refine hrelease.bind fun _ ↦ ?_
    exact Meets.bind (Q := fun _ ↦ HasMode none) (.note fun _ _ hs ↦ hs) fun _ ↦ .pure fun _ hs ↦ hs
  exact hclean.mono (fun _ hs ↦ hs) (fun _ _ hs ↦ hbacked hs) fun _ _ hs ↦ hbacked hs

/-- The application has lost what it showed. -/
structure Emptied (a a' : Application) : Prop where
  /-- Nothing is in the arena. -/
  arena : a'.arena = []
  /-- The mode is what it was. -/
  mode : a'.mode = a.mode

/-- A scene that is shown is backed, or nothing of matter changed. -/
def Kept (a a' : Application) : Prop := a'.IsBacked ∨ a.LikeBefore a'

/-- What became of an application in a call: its scene was kept, or one was to be made and that
failed. -/
def Becomes (c : Call) (a a' : Application) : Prop := a.Kept a' ∨ c.Makes a ∧ a.Emptied a'

theorem meets_next_becomes (a : Application) :
    Meets (fun s ↦ s.1 = a) (next (σ := σ)) (fun _ s ↦ a.Kept s.1)
      fun _ s ↦ Becomes .tick a s.1 := by
  rw [next]
  refine .get_bind_eq fun s hs ↦ ?_
  subst hs
  split
  · next hst =>
    refine Meets.bind (.attempt (R := fun r t ↦ (r = .ok () ∧ t.1.IsBacked) ∨
      ∃ e, r = .error e ∧ s.1.Emptied t.1) ?_) fun r ↦ ?_
    · exact (meets_onInit_backed (m := s.1.mode)).mono (fun t ht ↦ ht ▸ rfl)
        (fun _ _ ht ↦ .inl ⟨rfl, ht⟩) fun e _ ht ↦ .inr ⟨e, rfl, ht.2, ht.1⟩
    · cases r with
      | ok u =>
        refine .pure fun t ht ↦ ?_
        rcases ht with ⟨-, ht⟩ | ⟨e, he, -⟩
        · exact .inl ht
        · cases he
      | error e =>
        refine Meets.bind (Q := fun _ t ↦ s.1.Emptied t.1) (.update fun t ht ↦ ?_) fun _ ↦
          .fail fun _ ht ↦ .inr ⟨.inr ⟨rfl, hst⟩, ht⟩
        rcases ht with ⟨he, -⟩ | ⟨-, -, ht⟩
        · cases he
        · exact ⟨ht.arena, ht.mode⟩
  · exact (keeps_onRunning_like s.1).mono (fun t ht ↦ ht ▸ .refl _) (fun _ _ ht ↦ .inr ht)
      fun _ _ ht ↦ .inl (.inr ht)
  · exact Meets.bind (meets_onCleanup_backed.mono (fun _ _ ↦ trivial) (fun _ _ ht ↦ ht)
      fun _ _ ht ↦ .inl (.inl ht)) fun _ ↦ .pure fun _ ht ↦ .inl ht
  · exact .pure fun t ht ↦ .inr (ht ▸ .refl _)

/-- The state that is entered is of no matter for the scene. -/
theorem meets_tick_becomes (a : Application) :
    Meets (fun s ↦ s.1 = a) (tick (σ := σ)) (fun _ s ↦ a.Kept s.1)
      fun _ s ↦ Becomes .tick a s.1 := by
  rw [tick]
  refine (meets_next_becomes a).bind fun st ↦ ?_
  refine .get_bind fun s ↦ ?_
  refine .ite (fun _ ↦ ?_) fun _ ↦ .pure fun _ hs ↦ hs
  refine Meets.bind (Q := fun _ t ↦ a.Kept t.1) (.note fun _ _ hs ↦ hs) fun _ ↦ ?_
  refine Meets.bind (Q := fun _ t ↦ a.Kept t.1) (.update fun t ht ↦ ?_) fun _ ↦ .pure fun _ hs ↦ hs
  exact ht.imp (fun h ↦ h) fun h ↦ ⟨h.arena, h.scene⟩

/-- **One call.** A scene that is shown afterwards is backed, or is the one from before with the
same arena, unless the call was to make one and failed. -/
theorem meets_perform_becomes (c : Call) (a : Application) :
    Meets (fun s ↦ s.1 = a) (c.perform (σ := σ)) (fun _ s ↦ a.Kept s.1)
      fun _ s ↦ Becomes c a s.1 := by
  cases c with
  | tick => exact .map (meets_tick_becomes a)
  | init =>
    exact (meets_onInit_backed (m := a.mode)).mono (fun _ ht ↦ congrArg mode ht)
      (fun _ _ ht ↦ .inl ht) fun _ _ ht ↦ .inr ⟨.inl rfl, ht.2, ht.1⟩
  | running =>
    exact .map ((keeps_onRunning_like a).mono (fun t ht ↦ ht ▸ .refl _) (fun _ _ ht ↦ .inr ht)
      fun _ _ ht ↦ .inl (.inr ht))
  | cleanup =>
    exact .map (meets_onCleanup_backed.mono (fun _ _ ↦ trivial) (fun _ _ ht ↦ .inl ht)
      fun _ _ ht ↦ .inl (.inl ht))
  | quit =>
    exact .snd fun b ↦ (Keeps.const (p := a.LikeBefore b)).mono (fun _ h ↦ h ▸ .refl _)
      (fun _ _ h ↦ .inr h) fun _ _ h ↦ .inl (.inr h)

/-! ### Runs -/

/-- A call of the run makes a scene anew while one is shown, and fails. -/
def LosesScene (calls : List Call) (s : Application × σ) : Prop :=
  ∃ before c after t u e, calls = before ++ c :: after ∧ run before s = some t ∧
    t.1.scene?.isSome ∧ c.Makes t.1 ∧ c.perform t = .error (.error e) u

theorem LosesScene.append {s : Application × σ} (h : LosesScene calls s) (more : List Call) :
    LosesScene (calls ++ more) s := by
  obtain ⟨before, c, after, t, u, e, rfl, h⟩ := h
  exact ⟨before, c, after ++ more, t, u, e, by simp, h⟩

theorem run_append_eq_some_iff {s t : Application × σ} {more : List Call} :
    run (calls ++ more) s = some t ↔ ∃ u, run calls s = some u ∧ run more u = some t := by
  rw [run, List.map_append, settleAll_append]
  exact Option.bind_eq_some_iff

/-- From a state in which a scene is backed, a run leads to such a state, or it has lost its scene
and nothing is in the arena. -/
theorem run_backed {s t : Application × σ} (hs : s.1.IsBacked) (h : run calls s = some t) :
    t.1.IsBacked ∨ t.1.arena = [] ∧ LosesScene calls s := by
  induction calls using List.reverseRecOn generalizing t with
  | nil =>
    cases h
    exact .inl hs
  | append_singleton calls c ih =>
    obtain ⟨u, hu, hrun⟩ := run_append_eq_some_iff.1 h
    have hc := meets_perform_becomes c u.1 u rfl
    obtain ⟨v, hv, hend⟩ := Option.bind_eq_some_iff.1 hrun
    cases hend
    -- A call that keeps the scene keeps what was said of it before.
    have hkept (hkept : u.1.Kept t.1) :
        t.1.IsBacked ∨ t.1.arena = [] ∧ LosesScene (calls ++ [c]) s := by
      rcases hkept with hbacked | hlike
      · exact .inl hbacked
      · exact (ih hu).imp hlike.isBacked fun hlost ↦
          ⟨hlike.arena.trans hlost.1, hlost.2.append [c]⟩
    rw [settle] at hv
    rcases hperform : c.perform u with ⟨_, w⟩ | ⟨e | _, w⟩ <;> rw [hperform] at hc hv <;> cases hv
    · exact hkept hc
    · rcases hc with hc | ⟨hmakes, hc⟩
      · exact hkept hc
      · rcases hscene : u.1.scene? with _ | scene
        · refine .inl (isBacked_of_scene?_eq_none ?_)
          rwa [scene?, hc.mode]
        · refine .inr ⟨hc.arena, calls, c, [], u, t, e, rfl, hu, ?_, hmakes, hperform⟩
          rw [hscene]
          rfl

/-- Ticks and wishes to quit do not make a scene while another one is shown. -/
theorem not_losesScene_of_regular {Live : List ResourceId → σ → Prop} (L : Ledger Live)
    {s : Application × σ} (hs : Sound Live True s) (hcalls : ∀ c ∈ calls, c.IsRegular) :
    ¬LosesScene calls s := by
  rintro ⟨before, c, after, t, -, -, rfl, ht, hscene, hmakes, -⟩
  have hsound : Sound Live True t :=
    sound_run L (fun _ d hd ↦ hcalls d (List.mem_append_left _ hd)) hs ht
  have hc : c.IsRegular := hcalls c (by simp)
  rcases hmakes with rfl | ⟨rfl, hstate⟩
  · rcases hc with hc | hc <;> cases hc
  · have hmode := (hsound.rest trivial (.inl hstate)).mode
    rw [scene?, hmode] at hscene
    cases hscene

/-- What a scene is made of is alive, and owned by the application. -/
def IsHeld (scene : Scene) (a : Application) (r : Recorder) : Prop :=
  ∀ id ∈ scene.resources, id ∈ a.arena ∧ r.isLive id

/-- **A scene that is shown is alive, or was lost.** After every run of a new application on a fresh
recorder, all that a shown scene is made of is alive and owned by the application, or some call of
the run was to make a scene while one was shown, and failed, and by the end nothing is owned or
alive. Ticks and wishes to quit alone never come to that. -/
theorem run_exposed (config : Config) (shaders : Shaders) (features : Features)
    (maxColors : UInt32) (display : Display) (failAt : Option (ResourceKind × Nat))
    (quitAfter : Option Nat) (journal : Journal) (calls : List Call) {a : Application}
    {r : Recorder} {j : Journal} {scene : Scene}
    (h : run calls (new config shaders,
      Recorder.fresh features maxColors display failAt quitAfter, journal) = some (a, r, j))
    (hscene : a.scene? = some scene) :
    (IsHeld scene a r ∨ (a.arena = [] ∧ r.liveCount = 0) ∧ LosesScene calls (new config shaders,
      Recorder.fresh features maxColors display failAt quitAfter, journal)) ∧
    ((∀ c ∈ calls, c.IsRegular) → IsHeld scene a r) := by
  have hstart : ∀ p, Sound Recorder.HoldsIn p (new config shaders,
      Recorder.fresh features maxColors display failAt quitAfter, journal) :=
    fun _ ↦ ⟨Recorder.holds_fresh .., fun _ _ ↦ ⟨rfl, rfl⟩⟩
  have howns : r.Holds a.arena :=
    (sound_run Recorder.ledger (p := False) nofun (hstart _) h).owns
  have hheld (hbacked : a.IsBacked) : IsHeld scene a r := fun id hid ↦
    have hmem := hbacked scene hscene hid
    ⟨hmem, (howns.mem_iff id).1 hmem⟩
  have hrun := run_backed (isBacked_of_scene?_eq_none rfl) h
  refine ⟨hrun.imp hheld fun hlost ↦ ⟨⟨hlost.1, ?_⟩, hlost.2⟩, fun hcalls ↦ ?_⟩
  · rw [howns.count, show a.arena = [] from hlost.1, List.length_nil]
  · exact hrun.elim hheld fun hlost ↦
      absurd hlost.2 (not_losesScene_of_regular Recorder.ledger (hstart _) hcalls)

/-- After the first tick and a frame the scene is held. -/
theorem run_exposed_frame :
    ∃ a r j scene, run [.tick, .tick] (new {} ⟨magicShader, magicShader⟩,
        Recorder.fresh .every 4 ⟨640, 480, .bgra8Srgb, none, 1⟩ none none, ({} : Journal)) =
          some (a, r, j) ∧
      a.scene? = some scene ∧ IsHeld scene a r := by
  have hend : (run [.tick, .tick] (new {} ⟨magicShader, magicShader⟩,
      Recorder.fresh .every 4 ⟨640, 480, .bgra8Srgb, none, 1⟩ none none, ({} : Journal))).any
        (·.1.scene?.isSome) := by
    decide +kernel
  obtain ⟨⟨a, r, j⟩, hrun, hsome⟩ := (Option.any_eq_true _ _).1 hend
  obtain ⟨scene, hscene⟩ := Option.isSome_iff_exists.1 hsome
  exact ⟨a, r, j, scene, hrun, hscene, (run_exposed {} ⟨magicShader, magicShader⟩ .every 4
    ⟨640, 480, .bgra8Srgb, none, 1⟩ none none {} [.tick, .tick] hrun hscene).2
      (by simp [Call.IsRegular])⟩

/-- A second `init` that is refused its fifth surface leaves the first scene shown and nothing of it
alive. -/
theorem run_exposed_lost :
    ¬∀ (failAt : Option (ResourceKind × Nat)) (calls : List Call) (a : Application) (r : Recorder)
      (j : Journal) (scene : Scene),
      run calls (new {} ⟨magicShader, magicShader⟩,
        Recorder.fresh .every 4 ⟨640, 480, .bgra8Srgb, none, 1⟩ failAt none, ({} : Journal)) =
          some (a, r, j) →
      a.scene? = some scene → IsHeld scene a r := by
  intro hall
  have hend : (run [.init, .init] (new {} ⟨magicShader, magicShader⟩,
      Recorder.fresh .every 4 ⟨640, 480, .bgra8Srgb, none, 1⟩ (some (.texture, 5)) none,
      ({} : Journal))).any fun s ↦ s.1.scene?.isSome && s.1.arena.isEmpty := by
    decide +kernel
  obtain ⟨⟨a, r, j⟩, hrun, hs⟩ := (Option.any_eq_true _ _).1 hend
  simp only [Bool.and_eq_true, List.isEmpty_iff] at hs
  obtain ⟨scene, hscene⟩ := Option.isSome_iff_exists.1 hs.1
  have hheld := hall (some (.texture, 5)) [.init, .init] a r j scene hrun hscene
  have hmem := (hheld (.texture scene.targets.first) (by simp [Scene.resources,
    Targets.resources])).1
  rw [hs.2] at hmem
  cases hmem

end Application

end RenderTargets
