import RenderTargets.Proofs.App.Frames
/-!
# The course of the application

What ticks answer and what a recorder has recorded after any run of them, once the first tick
answered. `OnCourse` is kept by every regular call: between frames no pass is open, the log is
that of the frames so far, and while frames are drawn the application is ready for the next one.
From it each tick answers as `Advances` says, so an application that started never fails.

Frames are counted by the recorder. Nothing is made after the first tick; if that chose the message,
nothing was ever made.
-/

namespace RenderTargets.App

open Log StepWith Recorder

/-- The log and the resources ever made are those of another recorder, and no pass is open. -/
structure SameLog (r r' : Recorder) : Prop where
  /-- No pass is open. -/
  idle : r'.active = none
  /-- The commands. -/
  commands : r'.commands = r.commands
  /-- The frames. -/
  frames : r'.frames = r.frames
  /-- The resources ever made. -/
  created : r'.created = r.created

/-! ### Releasing -/

section Releasing

variable {r : Recorder}

theorem keeps_destroy_log (id : ResourceId) :
    Keeps (fun s ↦ SameLog r s.1) (GraphicsDevice.destroy id : Recording Unit) := by
  refine meets_perform (c := .destroy id) (fun t j a t' ht hr ↦ ?_) fun _ _ _ _ ht ↦ ht
  cases hr with
  | destroy removed =>
    rw [remove?_frame removed]
    exact ⟨ht.idle, ht.commands, ht.frames, ht.created⟩

theorem keeps_releaseEach_log (ids : List ResourceId) (n : Nat) (e : Option EngineError) :
    Keeps (fun s ↦ SameLog r s.1) (Arena.releaseEach ids n e : Recording Nat) := by
  induction ids generalizing n e with
  | nil => cases e <;> exact fun _ hs ↦ hs
  | cons id rest ih =>
    rw [Arena.releaseEach]
    refine Meets.bind (Q := fun _ (s : Recorder × Journal) ↦ SameLog r s.1)
      (.attempt (keeps_destroy_log id)) fun c ↦ ?_
    cases c with
    | ok _ => exact ih (n + 1) e
    | error _ =>
      exact Meets.bind (Q := fun _ (s : Recorder × Journal) ↦ SameLog r s.1)
        (.note fun _ _ hs ↦ hs) fun _ ↦ ih n _

/-- Releasing records nothing and makes nothing. -/
theorem keeps_onCleanup_log :
    Keeps (fun s ↦ SameLog r s.2.1)
      (Application.onCleanup : Step (Application × Recorder × Journal) Nat) := by
  have hrelease : Keeps (fun s ↦ SameLog r s.2.1)
      (Arena.releaseAll : Step (Arena × Recorder × Journal) Nat) := by
    rw [Arena.releaseAll, Arena.rollbackTo]
    refine .get_bind fun _ ↦ ?_
    refine Meets.bind (Q := fun _ (s : Arena × Recorder × Journal) ↦ SameLog r s.2.1)
      (.update fun _ hs ↦ hs) fun _ ↦ ?_
    exact (keeps_releaseEach_log _ _ _).snd
  rw [Application.onCleanup]
  let I (s : Application × Recorder × Journal) : Prop := SameLog r s.2.1
  refine .get_bind fun a ↦ ?_
  refine Meets.bind (Q := fun _ ↦ I) (.update fun _ hs ↦ hs) fun _ ↦ ?_
  refine .ite (fun _ ↦ .pure fun _ hs ↦ hs) fun _ ↦ ?_
  refine Meets.bind (Q := fun _ ↦ I) (.within fun s hs ↦ hrelease.pre fun t ht ↦ ?_) fun _ ↦
    Meets.bind (Q := fun _ ↦ I) (.note fun _ _ hs ↦ hs) fun _ ↦ .pure fun _ hs ↦ hs
  subst ht
  exact hs

end Releasing

/-! ### Single ticks -/

section Ticks

variable {a a' : Application} {r r' : Recorder} {j j' : Journal}

/-- The state that was answered is the state that is entered, with an entry in the journal if that
is another one. -/
theorem tick_of_next {st : State} (h : Application.next (a, r, j) = .ok st (a', r', j')) :
    ∃ journal, Application.tick (a, r, j) = .ok st ({ a' with state := st }, r', journal) := by
  rw [Application.tick]
  by_cases hst : st = a'.state
  · subst hst
    refine ⟨j', (bind_ok h).trans ((get_bind_apply _ _).trans ?_)⟩
    rw [if_neg (not_not.2 rfl)]
    rfl
  · let before := a'.state
    refine ⟨j'.add { severity := .info, source := Application.source
                     message := s!"state {before.name} -> {st.name}" },
      (bind_ok h).trans ((get_bind_apply _ _).trans ?_)⟩
    rw [if_pos hst]
    rfl

/-- A trap is passed on. -/
theorem tick_of_trap {s t : Application × Recorder × Journal}
    (h : Application.next s = .error .trap t) : Application.tick s = .error .trap t :=
  bind_error h

/-- In the state that draws, a tick is a frame. -/
theorem next_of_running (h : a.state = .running) :
    Application.next (a, r, j) = Application.onRunning (a, r, j) := by
  rw [Application.next]
  refine (get_bind_apply _ _).trans ?_
  simp only [h]

/-- In the state that releases, a tick ends the application. -/
theorem meets_tick_cleanup :
    Meets (fun s ↦ s.1.state = .cleanup ∧ Sound Recorder.HoldsIn True s ∧ SameLog r s.2.1)
      (Application.tick : Step (Application × Recorder × Journal) State)
      (fun st s ↦ st = .destroy ∧ s.1.state = .destroy ∧ SameLog r s.2.1) fun _ _ ↦ False := by
  let I (s : Application × Recorder × Journal) : Prop := SameLog r s.2.1
  have hnext : Meets (fun s ↦ s.1.state = .cleanup ∧ Sound Recorder.HoldsIn True s ∧ I s)
      (Application.next : Step (Application × Recorder × Journal) State)
      (fun st s ↦ st = .destroy ∧ I s) fun _ _ ↦ False := by
    rw [Application.next]
    refine .get_bind_eq fun s hs ↦ ?_
    obtain ⟨hst, hsound, hlog⟩ := hs
    rw [hst]
    have hclean : Meets (fun t ↦ At Recorder.HoldsIn s.1.state s.1.mode t ∧ I t)
        Application.onCleanup _ _ := (meets_onCleanup Recorder.ledger).and keeps_onCleanup_log
    refine Meets.bind (Q := fun _ ↦ I) (hclean.mono ?_ (fun _ _ ht ↦ ht.2) fun _ _ he ↦ he.1)
      fun _ ↦ .pure fun _ ht ↦ ⟨rfl, ht⟩
    rintro _ rfl
    exact ⟨hsound.at, hlog⟩
  rw [Application.tick]
  refine hnext.bind fun st ↦ .assume ?_
  rintro rfl
  refine .get_bind_eq fun s hs ↦ .ite (fun _ ↦ ?_) fun hst ↦ ?_
  · refine Meets.bind (Q := fun _ ↦ I) (.note fun t j ht ↦ ?_) fun _ ↦ ?_
    · subst ht
      exact hs
    refine Meets.bind (Q := fun _ t ↦ t.1.state = .destroy ∧ I t)
      (.update fun t ht ↦ ⟨rfl, ht⟩) fun _ ↦ ?_
    exact .pure fun _ ht ↦ ⟨rfl, ht⟩
  · refine .pure fun t ht ↦ ?_
    subst ht
    exact ⟨rfl, (Decidable.not_not.1 hst).symm, hs⟩

end Ticks

/-! ### Runs -/

/-- What a recorder has recorded when `m` is shown since it was `r₁`. -/
structure Recorded (config : Config) (m : Mode) (r₁ : Recorder)
    (s : Application × Recorder × Journal) : Prop where
  /-- The application has started. -/
  started : s.1.state ≠ .init
  /-- No pass is open. -/
  idle : s.2.1.active = none
  /-- The log is that of the frames. -/
  commands : s.2.1.commands =
    (List.range s.2.1.frames).flatMap fun k ↦ m.frame config r₁.display (k + 1)
  /-- Nothing was made. -/
  created : s.2.1.created = r₁.created

/-- What a tick that answers `st` does, where the next frame has the commands `frame`. -/
structure Advances (frame : List Command) (st : State) (s t : Application × Recorder × Journal) :
    Prop where
  /-- The state that was answered is entered. -/
  entered : t.1.state = st
  /-- A frame is recorded and committed, and then the device may report a wish to quit. -/
  running : s.1.state = .running → t.2.1.commands = s.2.1.commands ++ frame ∧
    t.2.1.frames = s.2.1.frames + 1 ∧ st = if t.2.1.quit then .cleanup else .running
  /-- Everything is released and nothing recorded. -/
  cleanup : s.1.state = .cleanup → st = .destroy ∧ t.2.1.commands = s.2.1.commands ∧
    t.2.1.frames = s.2.1.frames
  /-- Nothing happens at the end. -/
  destroy : s.1.state = .destroy → st = .destroy ∧ t = s

/-- What a run of ticks keeps. -/
structure OnCourse (config : Config) (shaders : Shaders) (m : Mode) (r₁ : Recorder)
    (s : Application × Recorder × Journal) : Prop extends Recorded config m r₁ s where
  /-- The next frame can be drawn. -/
  ready : s.1.state = .running → s.2.1.display = r₁.display ∧
    m.Ready config shaders s.2.1.frames s.1 s.2.1

section Runs

variable {config : Config} {shaders : Shaders} {m : Mode} {r₁ : Recorder}
  {s : Application × Recorder × Journal}

/-- A tick in the state that draws. -/
theorem OnCourse.tick_running (h : OnCourse config shaders m r₁ s) (hs : s.1.state = .running) :
    Ends (fun st t ↦ OnCourse config shaders m r₁ t ∧
        Advances (m.frame config r₁.display (s.2.1.frames + 1)) st s t)
      (fun _ _ ↦ False) (Application.tick s) := by
  obtain ⟨a, r, j⟩ := s
  obtain ⟨hdisplay, hready⟩ := h.ready hs
  rcases running_of_ready (j := j) hready h.idle with
    ⟨-, t, htrap⟩ | ⟨mode, resolved, r', hr', hm, hrun⟩
  · rw [tick_of_trap ((next_of_running hs).trans htrap)]
    trivial
  obtain ⟨journal, htick⟩ := tick_of_next ((next_of_running hs).trans hrun)
  rw [hdisplay] at hr'
  have hcommands : r'.commands = r.commands ++ m.frame config r₁.display (r.frames + 1) := by
    rw [hr', framed]
  have hframes : r'.frames = r.frames + 1 := by rw [hr', framed]
  have hst : (if r'.quit then State.cleanup else State.running) ≠ .init := by
    split <;> simp
  have hlog : r'.commands =
      (List.range r'.frames).flatMap fun k ↦ m.frame config r₁.display (k + 1) := by
    rw [hcommands, hframes, List.range_succ, List.flatMap_append, h.commands]
    simp
  rw [htick]
  refine ⟨⟨⟨hst, by rw [hr', framed], hlog, ?_⟩, fun _ ↦ ⟨?_, ?_⟩⟩,
    ⟨rfl, fun _ ↦ ⟨hcommands, hframes, rfl⟩, ?_, ?_⟩⟩
  · rw [hr', framed]
    exact h.created
  · rw [hr', framed]
    exact hdisplay
  · rw [hframes]
    exact hm.drawn rfl ..
  · exact fun hc ↦ State.noConfusion (hs.symm.trans hc)
  · exact fun hc ↦ State.noConfusion (hs.symm.trans hc)

/-- A tick in the state that releases. -/
theorem OnCourse.tick_cleanup (h : OnCourse config shaders m r₁ s)
    (hsound : Sound Recorder.HoldsIn True s) (hs : s.1.state = .cleanup) :
    Ends (fun st t ↦ OnCourse config shaders m r₁ t ∧
        Advances (m.frame config r₁.display (s.2.1.frames + 1)) st s t)
      (fun _ _ ↦ False) (Application.tick s) := by
  refine (meets_tick_cleanup (r := s.2.1) s ⟨hs, hsound, h.idle, rfl, rfl, rfl⟩).mono ?_
    fun _ _ he ↦ he
  rintro st t ⟨rfl, hdestroy, hlog⟩
  have hlog' : t.2.1.commands =
      (List.range t.2.1.frames).flatMap fun k ↦ m.frame config r₁.display (k + 1) := by
    rw [hlog.commands, hlog.frames, h.commands]
  have hno : ∀ {p : Prop}, t.1.state = .running → p :=
    fun hr ↦ State.noConfusion (hdestroy.symm.trans hr)
  refine ⟨⟨⟨?_, hlog.idle, hlog', hlog.created.trans h.created⟩, hno⟩,
    ⟨hdestroy, ?_, fun _ ↦ ⟨rfl, hlog.commands, hlog.frames⟩, ?_⟩⟩
  · rw [hdestroy]
    exact nofun
  · exact fun hc ↦ State.noConfusion (hs.symm.trans hc)
  · exact fun hc ↦ State.noConfusion (hs.symm.trans hc)

/-- A tick never fails, advances and stays on course. -/
theorem OnCourse.tick (h : OnCourse config shaders m r₁ s)
    (hsound : Sound Recorder.HoldsIn True s) :
    Ends (fun st t ↦ OnCourse config shaders m r₁ t ∧
        Advances (m.frame config r₁.display (s.2.1.frames + 1)) st s t)
      (fun _ _ ↦ False) (Application.tick s) := by
  cases hs : s.1.state with
  | init => exact (h.started hs).elim
  | running => exact h.tick_running hs
  | cleanup => exact h.tick_cleanup hsound hs
  | destroy =>
    rw [Application.tick_of_destroy hs]
    exact ⟨h, hs, fun hc ↦ State.noConfusion (hs.symm.trans hc),
      fun hc ↦ State.noConfusion (hs.symm.trans hc), fun _ ↦ ⟨rfl, rfl⟩⟩

/-- A wish to quit changes nothing that is recorded. -/
theorem keeps_requestQuit_course :
    Keeps (OnCourse config shaders m r₁)
      (StepWith.within .snd (GraphicsDevice.requestQuit : Recording Unit)) := by
  refine Meets.snd fun a ↦ meets_perform (c := .requestQuit) (fun r j _ r' h hr ↦ ?_)
    fun r j _ j' h ↦ ⟨⟨h.started, h.idle, h.commands, h.created⟩, h.ready⟩
  cases hr
  exact ⟨⟨h.started, h.idle, h.commands, h.created⟩,
    fun hs ↦ ⟨(h.ready hs).1, (h.ready hs).2.drawn rfl ..⟩⟩

/-- A run of regular calls stays on course. -/
theorem course_run {calls : List Application.Call} (hcalls : ∀ c ∈ calls, c.IsRegular)
    {t : Application × Recorder × Journal}
    (hs : Sound Recorder.HoldsIn True s ∧ OnCourse config shaders m r₁ s)
    (hrun : Application.run calls s = some t) :
    Sound Recorder.HoldsIn True t ∧ OnCourse config shaders m r₁ t := by
  refine Keeps.settleAll (I := fun s ↦ Sound Recorder.HoldsIn True s ∧
    OnCourse config shaders m r₁ s) (fun x hx ↦ ?_) hs hrun
  obtain ⟨c, hc, rfl⟩ := List.mem_map.1 hx
  rcases hcalls c hc with rfl | rfl
  · have hcourse : Meets (fun s ↦ Sound Recorder.HoldsIn True s ∧ OnCourse config shaders m r₁ s)
        Application.tick (fun _ ↦ OnCourse config shaders m r₁) fun _ _ ↦ False :=
      fun s hs ↦ (hs.2.tick hs.1).mono (fun _ _ h ↦ h.1) fun _ _ he ↦ he
    exact Meets.map <| ((keeps_tick Recorder.ledger).and hcourse).mono (fun s hs ↦ ⟨hs.1, hs⟩)
      (fun _ _ h ↦ h) fun _ _ he ↦ he.2.elim
  · exact (keeps_requestQuit Recorder.ledger).and keeps_requestQuit_course

end Runs

/-- What is shown after the first tick: the scene, made as the configuration and the shaders ask for
it, or the message, without that anything was made. -/
def Chosen (features : Features) (maxColors : UInt32) (config : Config) (shaders : Shaders)
    (r : Recorder) (m : Mode) : Prop :=
  if CanShow features maxColors then
    ∃ scene : Scene, m = .scene scene ∧ scene.Made config shaders r
  else m = .fallback (.ofConfig config) ∧ r.created = {}

/-- The scene did not move yet. -/
theorem Scene.Made.after_zero {config : Config} {shaders : Shaders} {r : Recorder} {scene : Scene}
    (h : scene.Made config shaders r) : scene.after config 0 = scene := by
  obtain ⟨targets, offscreen, composite⟩ := scene
  have htransform : offscreen.transform = .ofConfig config := h.offscreen.transform
  simp only [Scene.after, Function.iterate_zero, id_eq, ← htransform]

/-- An application that started on an unused recorder is on course. -/
theorem onCourse_of_started {config : Config} {shaders : Shaders} {r : Recorder}
    {s₁ : Application × Recorder × Journal} (hframes : r.frames = 0) (hcommands : r.commands = [])
    (hidle : r.active = none) (hstate : s₁.1.state = .running)
    (h : Started r config shaders s₁) :
    ∃ m, s₁.1.mode = some m ∧ (if CanShow r.features r.maxColors then
        ∃ scene : Scene, m = .scene scene ∧ scene.Made config shaders s₁.2.1
      else m = .fallback (.ofConfig config) ∧ s₁.2.1 = r) ∧
        OnCourse config shaders m s₁.2.1 s₁ := by
  obtain ⟨hextends, -, hmode⟩ := h
  have hrest := hextends.rest
  have hframes' : s₁.2.1.frames = 0 := (congrArg Recorder.frames hrest).trans hframes
  have hcourse : ∀ m : Mode, m.Ready config shaders 0 s₁.1 s₁.2.1 →
      OnCourse config shaders m s₁.2.1 s₁ := by
    refine fun m hm ↦ ⟨⟨?_, (congrArg Recorder.active hrest).trans hidle, ?_, rfl⟩,
      fun _ ↦ ⟨rfl, hframes' ▸ hm⟩⟩
    · rw [hstate]
      exact nofun
    · rw [hframes']
      exact (congrArg Recorder.commands hrest).trans hcommands
  by_cases hcan : CanShow r.features r.maxColors
  · rw [if_pos hcan] at hmode
    obtain ⟨scene, hmode, hmade⟩ := hmode
    refine ⟨.scene scene, hmode, ?_, hcourse _ ⟨hmade, ?_⟩⟩
    · rw [if_pos hcan]
      exact ⟨scene, rfl, hmade⟩
    · rw [hmode, hmade.after_zero]
  · rw [if_neg hcan] at hmode
    refine ⟨.fallback (.ofConfig config), hmode.1, ?_, hcourse _ ⟨_, hmode.1⟩⟩
    rw [if_neg hcan]
    exact ⟨rfl, hmode.2⟩

end RenderTargets.App

namespace RenderTargets.Application

open App Log StepWith Recorder

/-- After a first tick that answers, an application on a fresh recorder is on course. -/
theorem start_course (config : Config) (shaders : Shaders) (features : Features)
    (maxColors : UInt32) (display : Display) (failAt : Option (ResourceKind × Nat))
    (quitAfter : Option Nat) (journal : Journal) {st : State}
    {s₁ : Application × Recorder × Journal}
    (h : tick (new config shaders,
      Recorder.fresh features maxColors display failAt quitAfter, journal) = .ok st s₁) :
    st = .running ∧ s₁.1.state = .running ∧ s₁.2.1.display = display ∧
      Sound Recorder.HoldsIn True s₁ ∧ ∃ m, s₁.1.mode = some m ∧
        Chosen features maxColors config shaders s₁.2.1 m ∧
          OnCourse config shaders m s₁.2.1 s₁ := by
  obtain ⟨rfl, hstate, hstarted⟩ := (meets_firstTick rfl).ok ⟨rfl, rfl⟩ h
  have hfresh : Sound Recorder.HoldsIn True (new config shaders,
      Recorder.fresh features maxColors display failAt quitAfter, journal) :=
    ⟨Recorder.holds_fresh .., fun _ _ ↦ ⟨rfl, rfl⟩⟩
  have hsound : Sound Recorder.HoldsIn True s₁ := (keeps_tick Recorder.ledger).ok hfresh h
  obtain ⟨m, hmode, hchosen, hcourse⟩ := onCourse_of_started rfl rfl rfl hstate hstarted
  refine ⟨rfl, hstate, congrArg Recorder.display hstarted.1.rest, hsound, m, hmode, ?_, hcourse⟩
  change if CanShow features maxColors then _ else _ at hchosen
  rw [Chosen]
  split at hchosen
  · next hcan => exact (if_pos hcan).symm ▸ hchosen
  · next hcan =>
    rw [if_neg hcan, hchosen.2]
    exact ⟨hchosen.1, rfl⟩

/-- **An application that starts never fails.** If the first tick of a new application on a fresh
recorder answers, it chose the scene or the message, and after every run of ticks and wishes to quit
that does not trap, the log is that of the frames so far and nothing was made since. The next tick
does not fail: where it answers, it draws the next frame until the recorder reports a wish to quit,
then it releases everything, and then nothing happens anymore. -/
theorem run_frames (config : Config) (shaders : Shaders) (features : Features)
    (maxColors : UInt32) (display : Display) (failAt : Option (ResourceKind × Nat))
    (quitAfter : Option Nat) (journal : Journal) {st : State}
    {s₁ : Application × Recorder × Journal}
    (h : tick (new config shaders,
      Recorder.fresh features maxColors display failAt quitAfter, journal) = .ok st s₁) :
    st = .running ∧ s₁.1.state = .running ∧ ∃ m, s₁.1.mode = some m ∧
      Chosen features maxColors config shaders s₁.2.1 m ∧
      ∀ calls, (∀ c ∈ calls, Call.IsRegular c) → ∀ s, run calls s₁ = some s →
        Recorded config m s₁.2.1 s ∧ (∀ e t, tick s ≠ .error (.error e) t) ∧
        ∀ st t, tick s = .ok st t →
          Advances (m.frame config display (s.2.1.frames + 1)) st s t := by
  obtain ⟨hst, hstate, hdisplay, hsound, m, hmode, hchosen, hcourse⟩ :=
    start_course config shaders features maxColors display failAt quitAfter journal h
  refine ⟨hst, hstate, m, hmode, hchosen, fun calls hcalls s hrun ↦ ?_⟩
  obtain ⟨hsound, hcourse⟩ := course_run hcalls ⟨hsound, hcourse⟩ hrun
  have htick := hcourse.tick hsound
  refine ⟨hcourse.toRecorded, fun e t he ↦ ?_, fun st t ht ↦ ?_⟩
  · rw [he] at htick
    exact htick
  · rw [ht, hdisplay] at htick
    exact htick.2

/-- A shader of two modules that are nothing but the magic word. -/
def magicShader : ShaderDesc := .ofCode "magic" [3, 2, 35, 7] [3, 2, 35, 7]

/-- A recorder that wants to quit after one frame gets one frame of the scene. -/
theorem run_frames_one :
    ∃ s₁ scene s, tick (new {} ⟨magicShader, magicShader⟩,
        Recorder.fresh .every 4 ⟨640, 480, .bgra8Srgb, none, 1⟩ none (some 1), ({} : Journal)) =
          .ok .running s₁ ∧
      run [.tick, .tick] s₁ = some s ∧ s.1.state = .destroy ∧
      s.2.1.commands = Scene.frame scene {} 1 := by
  have hend : (match tick (new {} ⟨magicShader, magicShader⟩,
        Recorder.fresh .every 4 ⟨640, 480, .bgra8Srgb, none, 1⟩ none (some 1), ({} : Journal)) with
      | .ok _ s₁ => (run [.tick, .tick] s₁).any fun s ↦
        s.1.state == .destroy && s.2.1.frames == 1
      | .error _ _ => false) = true := by
    decide +kernel
  rcases h : tick (new {} ⟨magicShader, magicShader⟩, Recorder.fresh .every 4
    ⟨640, 480, .bgra8Srgb, none, 1⟩ none (some 1), ({} : Journal)) with ⟨st, s₁⟩ | _ <;>
    rw [h] at hend
  swap
  · exact absurd hend Bool.false_ne_true
  obtain ⟨s, hrun, hs⟩ := (Option.any_eq_true _ _).1 hend
  simp only [Bool.and_eq_true, beq_iff_eq] at hs
  obtain ⟨rfl, -, m, -, hchosen, hruns⟩ := run_frames {} ⟨magicShader, magicShader⟩ .every 4
    ⟨640, 480, .bgra8Srgb, none, 1⟩ none (some 1) {} h
  obtain ⟨scene, rfl, -⟩ : ∃ scene : Scene, m = .scene scene ∧
      scene.Made {} ⟨magicShader, magicShader⟩ s₁.2.1 := by
    simpa [Chosen, show CanShow .every 4 by decide] using hchosen
  have hlog := (hruns [.tick, .tick] (by simp [Call.IsRegular]) s hrun).1.commands
  rw [hs.2] at hlog
  exact ⟨s₁, scene, s, rfl, hrun, hs.1, by simpa [Mode.frame, List.range_succ] using hlog⟩

end RenderTargets.Application
