import RenderTargets.Proofs.App.Course
/-!
# Frames that fail

A frame of the scene begins a pass twice, and what stands between the begin and the end of a pass
may be refused. The frame ends there with the error, and **its pass stays open**: nothing ends it.
There is one refusal that leaves no pass open, that of the first pass itself, and then nothing was
done to the recorder at all (`App.FailsWith`).

Whether a frame of the scene leaves its pass open is thus known before it begins: it does if it
fails and the pass into the surfaces can begin. No other frame fails.

## No way on

An application that failed a frame has no way on by ticks. Either a pass is open, and the next one
may not begin inside of it, or the pass into the surfaces cannot begin, and what it lacks does not
come back. In both cases every tick from there on fails before it asks whether to quit
(`App.Stuck`), so wishes to quit are never heard.
-/

namespace RenderTargets

open App Log StepWith Recorder

/-! ### Passes that stay open -/

namespace Recorder

variable {r : Recorder} {j : Journal} {pass : Option PassId} {action : PassAction}
  {c : GraphicsDevice.Command}

/-- A pass with this target is open. -/
def IsIn (pass : Option PassId) (s : Recorder × Journal) : Prop :=
  ∃ a, s.1.active = some a ∧ a.pass = pass

/-- A pass that cannot begin changes nothing. -/
theorem beginPass_of_begins_eq_error {e : Fault EngineError} (idle : r.active = none)
    (h : r.begins pass action = .error e) : beginPass pass action (r, j) = .error e (r, j) := by
  cases pass with
  | none => cases h
  | some id =>
    have hchecked : (StepWith.ofChecked (r.beginOffscreen id action) :
        Recording (ActivePass × List Vec4)) (r, j) = .error e (r, j) := by
      rw [show r.beginOffscreen id action = .error e from h]
      rfl
    refine (bind_ok (show current (r, j) = .ok r (r, j) from rfl)).trans ?_
    rw [if_neg (by simp [idle])]
    exact bind_error hchecked

/-- Inside of a pass none begins. -/
theorem beginPass_of_active (h : r.active.isSome) :
    ∃ j', beginPass pass action (r, j) = .error (.error (.backend .nestedPass)) (r, j') := by
  obtain ⟨a, ha⟩ := Option.isSome_iff_exists.1 h
  obtain ⟨⟩ := r
  cases ha
  exact ⟨_, rfl⟩

/-- From an idle recorder a pass begins, or it cannot and the recorder is as it was. -/
theorem meets_beginPass_idle (idle : r.active = none) :
    Meets (fun s ↦ s.1 = r) (beginPass pass action)
      (fun _ s ↦ (∃ a colors, r.begins pass action = .ok (a, colors) ∧ s.1.active = some a))
      fun e s ↦ r.begins pass action = .error (.error e) ∧ s.1 = r := by
  rintro ⟨r, j⟩ rfl
  rcases h : r.begins pass action with (e | _) | ⟨a, colors⟩
  · rw [beginPass_of_begins_eq_error idle h]
    exact ⟨rfl, rfl⟩
  · rw [beginPass_of_begins_eq_error idle h]
    trivial
  · rw [show beginPass pass action (r, j) = _ from (Accepts.beginPass idle h).perform]
    exact ⟨a, colors, rfl, rfl⟩

/-- The pass that begins is the one that was asked for. -/
theorem pass_of_begins {a : ActivePass} {colors : List Vec4}
    (h : r.begins pass action = .ok (a, colors)) : a.pass = pass := by
  cases pass with
  | none =>
    cases h
    rfl
  | some id =>
    obtain ⟨d, head, rest, first, -, -, -, heq⟩ := beginOffscreen_eq_ok_iff.1 h
    cases heq
    rfl

/-- Only the end of a pass ends it. -/
theorem keeps_isIn (hc : c ≠ .endPass) : Keeps (IsIn pass) (c.perform : Recording Unit) := by
  refine meets_perform ?_ fun _ _ _ _ hs ↦ hs
  rintro r j answer r' ⟨a, ha, hpass⟩ hr
  cases hr with
  | destroy removed =>
    rw [remove?_frame removed]
    exact ⟨a, ha, hpass⟩
  | beginPass idle => cases ha.symm.trans idle
  | applyDrawState inside =>
    cases ha.symm.trans inside
    exact ⟨_, rfl, hpass⟩
  | endPass => exact absurd rfl hc
  | commitFrame idle => cases ha.symm.trans idle
  | _ => exact ⟨a, ha, hpass⟩

/-- A pass that is open can be ended. -/
theorem meets_endPass_isIn {E : EngineError → Recorder × Journal → Prop} :
    Meets (IsIn pass) endPass (fun _ s ↦ s.1.active = none) E := by
  rintro ⟨r, j⟩ ⟨a, ha, -⟩
  rw [show endPass (r, j) = _ from (Accepts.endPass ha).perform]
  rfl

end Recorder

namespace App

variable {r : Recorder} {j : Journal} {scene : Scene}

/-! ### Frames of the scene -/

/-- How a frame of the scene fails from the recorder `r`: the pass into the surfaces cannot begin
and nothing was done, or it can begin and some pass stays open. -/
inductive FailsWith (r : Recorder) (pass : PassId) (s : Recorder × Journal) : Prop
  /-- The first pass was refused. -/
  | refused {e} (begins : r.begins (some pass) {} = .error (.error e)) (same : s.1 = r)
  /-- The pass into the surfaces stays open, or the one into the screen. -/
  | leftOpen {a colors target} (begins : r.begins (some pass) {} = .ok (a, colors))
      (inside : IsIn target s) (targeted : target = some pass ∨ target = none)

/-- The cube is drawn and its pass ended, or the pass was refused, or it stays open. -/
theorem meets_drawOffscreen_idle (idle : r.active = none) (o : Offscreen) (t : Targets) :
    Meets (fun s ↦ s.1 = r) (o.draw t : Recording Unit)
      (fun _ s ↦ (∃ a colors, r.begins (some t.pass) {} = .ok (a, colors)) ∧ s.1.active = none)
      fun _ ↦ FailsWith r t.pass := by
  rw [Offscreen.draw]
  have hbegin : Meets (fun s ↦ s.1 = r) (beginPass (some t.pass) {} : Recording Unit)
      (fun _ s ↦ ∃ a colors, r.begins (some t.pass) {} = .ok (a, colors) ∧ s.1.active = some a)
      fun _ ↦ FailsWith r t.pass :=
    (meets_beginPass_idle idle).mono (fun _ hs ↦ hs) (fun _ _ hs ↦ hs)
      fun _ _ hs ↦ .refused hs.1 hs.2
  refine Meets.bind hbegin fun _ s hs ↦ ?_
  obtain ⟨a, colors, hbegins, ha⟩ := hs
  -- Whatever fails from here on fails inside of the pass.
  have hstep {c : GraphicsDevice.Command} (hc : c ≠ .endPass) :
      Meets (IsIn (some t.pass)) (c.perform : Recording Unit) (fun _ ↦ IsIn (some t.pass))
        fun _ ↦ FailsWith r t.pass :=
    (keeps_isIn hc).mono (fun _ h ↦ h) (fun _ _ h ↦ h) fun _ _ h ↦ .leftOpen hbegins h (.inl rfl)
  suffices hrest : Meets (IsIn (some t.pass)) _ _ _ from
    hrest s ⟨a, ha, pass_of_begins hbegins⟩
  refine Meets.bind (hstep (c := .applyDrawState _) (by simp)) fun _ ↦ ?_
  refine Meets.bind (hstep (c := .applyUniforms _ _) (by simp)) fun _ ↦ ?_
  refine Meets.bind (hstep (c := .draw _) (by simp)) fun _ ↦ ?_
  refine meets_endPass_isIn.post fun _ _ h ↦ ?_
  exact ⟨⟨a, colors, hbegins⟩, h⟩

/-- Inside of the pass into the screen, panels are drawn, or one is refused and the pass stays
open. -/
theorem keeps_drawPanels_isIn (c : Composite) (panels : List (TextureId × Rect)) :
    Keeps (IsIn none) (c.drawPanels panels : Recording Unit) := by
  induction panels with
  | nil => exact .pure fun _ h ↦ h
  | cons panel rest ih =>
    refine Meets.bind (keeps_isIn (c := .applyViewport _ _) (by simp)) fun _ ↦ ?_
    refine Meets.bind (keeps_isIn (c := .applyDrawState _) (by simp)) fun _ ↦ ?_
    exact Meets.bind (keeps_isIn (c := .draw _) (by simp)) fun _ ↦ ih

/-- The panels are drawn and their pass ended, or it stays open. -/
theorem meets_drawComposite_idle (c : Composite) :
    Meets (fun s ↦ s.1.active = none) (c.draw : Recording Unit) (fun _ s ↦ s.1.active = none)
      fun _ ↦ IsIn none := by
  have hbegin : Meets (fun s ↦ s.1.active = none)
      (beginPass none (.clear c.clearColor) : Recording Unit) (fun _ ↦ IsIn none)
      fun _ ↦ IsIn none := by
    intro s idle
    refine (meets_beginPass_idle idle).mono (fun _ hs ↦ hs) (fun _ t ht ↦ ?_)
      (fun _ t ht ↦ ?_) s rfl
    · obtain ⟨a, colors, hbegins, ha⟩ := ht
      exact ⟨a, ha, pass_of_begins hbegins⟩
    -- The pass into the screen can always begin.
    · cases ht.1
  rw [Composite.draw]
  refine Meets.bind hbegin fun _ ↦ ?_
  refine Meets.bind (keeps_drawPanels_isIn c _) fun _ ↦ ?_
  exact meets_endPass_isIn

/-! ### Frames -/

/-- The application one frame of the scene later. -/
def showing (a : Application) (scene : Scene) : Application :=
  { a with mode := some (.scene { scene with offscreen := scene.offscreen.advance }) }

/-- How a frame of the application `a` fails from the recorder `r`: it shows a scene, the cube has
moved on, and the scene was not drawn to its end. -/
def FrameFailed (a : Application) (r : Recorder) (s : Application × Recorder × Journal) : Prop :=
  ∃ scene, a.mode = some (.scene scene) ∧ s.1 = showing a scene ∧
    FailsWith r scene.targets.pass s.2

variable {a : Application}

theorem meets_drawMode_idle (idle : r.active = none) :
    Meets (· = (a, r, j)) (Application.drawMode : Step (Application × Recorder × Journal) Unit)
      (fun _ s ↦ s.2.1.active = none) fun _ ↦ FrameFailed a r := by
  rw [Application.drawMode]
  refine .get_bind_eq ?_
  rintro _ rfl
  split
  · next scene hscene =>
    have hfailed {s : Application × Recorder × Journal} (hs : s.1 = showing a scene)
        (h : FailsWith r scene.targets.pass s.2) : FrameFailed a r s := ⟨scene, hscene, hs, h⟩
    refine Meets.bind (Q := fun _ s ↦ s.1 = showing a scene ∧ s.2.1 = r)
      (.update fun s hs ↦ hs ▸ ⟨rfl, rfl⟩) fun _ ↦ ?_
    refine Meets.bind (Q := fun _ s ↦ s.1 = showing a scene ∧
      (∃ p colors, r.begins (some scene.targets.pass) {} = .ok (p, colors)) ∧ s.2.1.active = none)
      (.snd fun b ↦ ?_) fun _ ↦ .snd fun b ↦ ?_
    -- The cube.
    · rintro s ⟨hb, hs⟩
      have hdraw := meets_drawOffscreen_idle idle scene.offscreen.advance scene.targets s hs
      exact hdraw.mono (fun _ _ ht ↦ ⟨hb, ht⟩) fun _ _ ht ↦ hfailed hb ht
    -- The panels.
    · rintro s ⟨hb, ⟨p, colors, hbegins⟩, hs⟩
      have hdraw := meets_drawComposite_idle scene.composite s hs
      exact hdraw.mono (fun _ _ ht ↦ ht) fun _ _ ht ↦ hfailed hb (.leftOpen hbegins ht (.inr rfl))
  · next f _ =>
    rintro _ rfl
    obtain ⟨-, s, hdraw⟩ | ⟨batches, text, -, -, hdraw⟩ := draw_fallback (j := j) f idle
    · rw [Application.drawFallback, within_error hdraw]
      trivial
    · rw [Application.drawFallback, within_ok (t := (_, _, j)) hdraw]
      rfl
  · exact .pure fun s hs ↦ hs ▸ idle

/-- A frame that was drawn can be committed, so it fails only while it is drawn. -/
theorem meets_onRunning_idle (idle : r.active = none) :
    Meets (· = (a, r, j)) (Application.onRunning : Step (Application × Recorder × Journal) State)
      (fun _ _ ↦ True) fun _ ↦ FrameFailed a r := by
  have hcommit {E : EngineError → Recorder × Journal → Prop} :
      Meets (fun s ↦ s.1.active = none) (commitFrame : Recording Unit) (fun _ _ ↦ True) E := by
    rintro ⟨r, j⟩ hs
    rw [show commitFrame (r, j) = _ from (Accepts.commitFrame hs).perform]
    trivial
  rw [Application.onRunning]
  refine (meets_drawMode_idle idle).bind fun _ ↦ ?_
  refine Meets.bind (Q := fun _ _ ↦ True) (.snd fun _ ↦ hcommit) fun _ ↦ ?_
  exact .get_bind fun _ ↦ .pure fun _ _ ↦ trivial

/-- A tick that draws fails only as its frame fails. -/
theorem meets_tick_idle (hstate : a.state = .running) (idle : r.active = none) :
    Meets (· = (a, r, j)) (Application.tick : Step (Application × Recorder × Journal) State)
      (fun _ _ ↦ True) fun _ ↦ FrameFailed a r := by
  have hnext : Meets (· = (a, r, j))
      (Application.next : Step (Application × Recorder × Journal) State) (fun _ _ ↦ True)
      fun _ ↦ FrameFailed a r := by
    rintro _ rfl
    rw [next_of_running hstate]
    exact meets_onRunning_idle idle _ rfl
  rw [Application.tick]
  refine hnext.bind fun st ↦ ?_
  refine .get_bind fun s ↦ ?_
  refine .ite (fun _ ↦ ?_) fun _ ↦ ?_
  · refine Meets.bind (Q := fun _ _ ↦ True) (.note fun _ _ _ ↦ trivial) fun _ ↦ ?_
    refine Meets.bind (Q := fun _ _ ↦ True) (.update fun _ _ ↦ trivial) fun _ ↦ ?_
    exact .pure fun _ _ ↦ trivial
  · exact .pure fun _ _ ↦ trivial

/-! ### No way on -/

/-- A frame cannot be drawn: a pass is open, or the pass into the surfaces cannot begin. -/
def CannotBegin (pass : PassId) (r : Recorder) : Prop :=
  r.active.isSome ∨ r.active = none ∧ ∃ e, r.begins (some pass) {} = .error (.error e)

/-- Frames are to be drawn, and cannot be. -/
structure Stuck (pass : PassId) (active : Option ActivePass)
    (s : Application × Recorder × Journal) : Prop where
  /-- Frames are to be drawn. -/
  state : s.1.state = .running
  /-- It is the scene that they show. -/
  mode : ∃ scene, s.1.mode = some (.scene scene) ∧ scene.targets.pass = pass
  /-- This pass is open, or none. -/
  active : s.2.1.active = active
  /-- A frame cannot be drawn. -/
  cannot : CannotBegin pass s.2.1

variable {pass : PassId} {active : Option ActivePass} {s t : Application × Recorder × Journal}

theorem CannotBegin.beginPass (h : CannotBegin pass r) :
    ∃ e j', beginPass (some pass) {} (r, j) = .error (.error e) (r, j') := by
  rcases h with h | ⟨idle, e, h⟩
  · exact ⟨_, beginPass_of_active h⟩
  · exact ⟨e, j, beginPass_of_begins_eq_error idle h⟩

/-- Where a frame cannot be drawn, a tick fails and it stays so. -/
theorem Stuck.tick (h : Stuck pass active s) :
    ∃ e t, Application.tick s = .error (.error e) t ∧ Stuck pass active t := by
  obtain ⟨a, r, j⟩ := s
  obtain ⟨hstate, ⟨scene, (hscene : a.mode = _), rfl⟩, hactive, hcannot⟩ := h
  obtain ⟨e, j', hbegin⟩ := hcannot.beginPass (j := j)
  have hdraw : Offscreen.draw scene.offscreen.advance scene.targets (r, j) =
      .error (.error e) (r, j') :=
    bind_error hbegin
  have hmode : Application.drawMode (a, r, j) = .error (.error e) (showing a scene, r, j') := by
    rw [Application.drawMode, get_bind_apply]
    simp only [hscene]
    exact (bind_ok (change_ok _ a (r, j))).trans (bind_error (within_error hdraw))
  refine ⟨e, (showing a scene, r, j'), bind_error ?_, hstate, ⟨_, rfl, rfl⟩, hactive, hcannot⟩
  rw [next_of_running hstate]
  exact bind_error hmode

/-- A wish to quit does not change that. -/
theorem Stuck.quit (h : Stuck pass active s) :
    ∃ t, (Application.Call.quit.perform : Step (Application × Recorder × Journal) Unit) s =
      .ok () t ∧ Stuck pass active t :=
  ⟨_, rfl, h.state, h.mode, h.active, h.cannot⟩

/-- Ticks and wishes to quit do not lead out of it. -/
theorem Stuck.run {calls : List Application.Call} (h : Stuck pass active s)
    (hcalls : ∀ c ∈ calls, c.IsRegular) :
    ∃ t, Application.run calls s = some t ∧ Stuck pass active t := by
  induction calls generalizing s with
  | nil => exact ⟨s, rfl, h⟩
  | cons c rest ih =>
    have hc : ∃ u, c.perform.settle s = some u ∧ Stuck pass active u := by
      rcases hcalls c List.mem_cons_self with rfl | rfl
      · obtain ⟨e, u, hu, hstuck⟩ := h.tick
        exact ⟨u, settle_map.trans (settle_of_error hu), hstuck⟩
      · obtain ⟨u, hu, hstuck⟩ := h.quit
        exact ⟨u, settle_of_ok hu, hstuck⟩
    obtain ⟨u, hu, hstuck⟩ := hc
    obtain ⟨t, ht, hend⟩ := ih hstuck fun d hd ↦ hcalls d (List.mem_cons_of_mem _ hd)
    exact ⟨t, Option.bind_eq_some_iff.2 ⟨u, hu, ht⟩, hend⟩

/-- Whether a pass is open or not, a frame that failed cannot be drawn again. -/
theorem FailsWith.cannotBegin {t : Recorder × Journal} (idle : r.active = none)
    (h : FailsWith r pass t) : CannotBegin pass t.1 := by
  cases h with
  | refused begins same => exact .inr (same ▸ ⟨idle, _, begins⟩)
  | leftOpen _ inside =>
    obtain ⟨a, ha, -⟩ := inside
    exact .inl (Option.isSome_iff_exists.2 ⟨a, ha⟩)

theorem FailsWith.active_eq_none_iff {t : Recorder × Journal} (idle : r.active = none)
    (h : FailsWith r pass t) :
    t.1.active = none ↔ ∃ e, r.begins (some pass) {} = .error (.error e) := by
  cases h with
  | refused begins same => exact iff_of_true (same ▸ idle) ⟨_, begins⟩
  | leftOpen begins inside =>
    obtain ⟨a, ha, -⟩ := inside
    refine iff_of_false (fun hnone ↦ ?_) fun ⟨e, he⟩ ↦ ?_
    · cases ha.symm.trans hnone
    · cases begins.symm.trans he

/-- What a failed frame of the application `a` on the recorder `r` leaves behind. -/
structure AfterFailure (a : Application) (r : Recorder) (scene : Scene)
    (s : Application × Recorder × Journal) : Prop where
  /-- The frame was one of the scene. -/
  mode : a.mode = some (.scene scene)
  /-- The cube has moved on, and the application is the same otherwise. -/
  moved : s.1 = showing a scene
  /-- No pass is open exactly if the pass into the surfaces could not begin. -/
  idle_iff : s.2.1.active = none ↔
    ∃ e, r.begins (some scene.targets.pass) {} = .error (.error e)
  /-- Then nothing was done to the recorder. -/
  same : s.2.1.active = none → s.2.1 = r
  /-- A pass that is open is the one into the surfaces or the one into the screen. -/
  target : ∀ p, s.2.1.active = some p → p.pass = some scene.targets.pass ∨ p.pass = none
  /-- However often the application ticks and is asked to quit, it stays in its state, with the
  same pass open or none, and the next tick fails. -/
  stuck : ∀ calls, (∀ c ∈ calls, Application.Call.IsRegular c) →
    ∃ t, Application.run calls s = some t ∧ t.1.state = .running ∧ t.2.1.active = s.2.1.active ∧
      ∃ e u, Application.tick t = .error (.error e) u

theorem FrameFailed.afterFailure (hstate : a.state = .running) (idle : r.active = none)
    (h : FrameFailed a r s) : ∃ scene, AfterFailure a r scene s := by
  obtain ⟨a', r', j'⟩ := s
  obtain ⟨scene, hmode, hmoved, hfails⟩ := h
  have hstuck : Stuck scene.targets.pass r'.active (a', r', j') :=
    ⟨hmoved ▸ hstate, ⟨{ scene with offscreen := scene.offscreen.advance }, by rw [hmoved]; rfl,
      rfl⟩, rfl, hfails.cannotBegin idle⟩
  refine ⟨scene, hmode, hmoved, hfails.active_eq_none_iff idle, fun hnone ↦ ?_, fun p hp ↦ ?_,
    fun calls hcalls ↦ ?_⟩
  · cases hfails with
    | refused _ same => exact same
    | leftOpen _ inside =>
      obtain ⟨p, hp, -⟩ := inside
      cases hp.symm.trans hnone
  · cases hfails with
    | refused _ same =>
      obtain rfl : r' = r := same
      cases idle.symm.trans hp
    | leftOpen _ inside targeted =>
      obtain ⟨q, hq, rfl⟩ := inside
      cases hq.symm.trans hp
      exact targeted
  · obtain ⟨t, ht, hend⟩ := hstuck.run hcalls
    obtain ⟨e, u, hu, -⟩ := hend.tick
    exact ⟨t, ht, hend.state, hend.active, e, u, hu⟩

end App

namespace Application

open App

/-- A tick, or a command to the recorder. -/
inductive Move where
  /-- A tick. -/
  | tick
  /-- A command. -/
  | command (c : GraphicsDevice.Command)

/-- The step of a move. -/
def Move.perform : Move → Step (Application × Recorder × Journal) Unit
  | tick => Call.tick.perform
  | command c => StepWith.within .snd c.perform

/-- Where moves lead from a new application and a fresh recorder. -/
def reached (moves : List Move) : Option (Application × Recorder × Journal) :=
  settleAll (moves.map Move.perform) (new {} ⟨magicShader, magicShader⟩,
    Recorder.fresh .every 4 ⟨640, 480, .bgra8Srgb, none, 1⟩ none none, {})

/-- A tick fails, and a pass is open then. -/
def failsOpen (s : Application × Recorder × Journal) : Bool :=
  match tick s with
  | .error (.error _) t => t.2.1.active.isSome
  | _ => false

theorem failsOpen_iff {s : Application × Recorder × Journal} :
    failsOpen s ↔ ∃ e t, tick s = .error (.error e) t ∧ t.2.1.active.isSome := by
  rw [failsOpen]
  split
  · next e t ht =>
    refine ⟨fun h ↦ ⟨e, t, ht, h⟩, fun h ↦ ?_⟩
    obtain ⟨e', t', ht', h⟩ := h
    cases ht.symm.trans ht'
    exact h
  · next hne =>
    refine iff_of_false (by simp) fun h ↦ ?_
    obtain ⟨e, t, ht, -⟩ := h
    exact hne e t ht

/-- The pipeline of the cube is released between two ticks. -/
theorem exists_failed_tick :
    ∃ s t e, reached [.tick, .command (.destroy (.pipeline ⟨1, 1⟩))] = some s ∧
      s.1.state = .running ∧ s.2.1.active = none ∧ tick s = .error (.error e) t ∧
      t.2.1.active.isSome := by
  have hend : (reached [.tick, .command (.destroy (.pipeline ⟨1, 1⟩))]).any fun s ↦
      s.1.state == .running && s.2.1.active.isNone && failsOpen s := by
    decide +kernel
  obtain ⟨s, hs, hend⟩ := (Option.any_eq_true _ _).1 hend
  simp only [Bool.and_eq_true, beq_iff_eq, Option.isNone_iff_eq_none] at hend
  obtain ⟨⟨hstate, hidle⟩, hfails⟩ := hend
  obtain ⟨e, t, htick, hactive⟩ := failsOpen_iff.1 hfails
  exact ⟨s, t, e, hs, hstate, hidle, htick, hactive⟩

/-- **A failed frame leaves its pass open, unless the pass could not begin.** If no pass is open and
a tick that draws fails, on any recorder, then it was to draw the scene; no pass is open afterwards
exactly if the pass into the surfaces could not begin, and the recorder is as it was then; otherwise
that pass or the one into the screen is open. Either way ticks and wishes to quit lead nowhere. -/
theorem tick_failed {a a' : Application} {r r' : Recorder} {j j' : Journal} {e : EngineError}
    (hstate : a.state = .running) (idle : r.active = none)
    (h : tick (a, r, j) = .error (.error e) (a', r', j')) :
    ∃ scene, AfterFailure a r scene (a', r', j') :=
  ((meets_tick_idle hstate idle).error rfl h).afterFailure hstate idle

/-- After the pipeline of the cube was released, a tick fails inside of its pass. -/
theorem tick_failed_without_pipeline :
    ∃ s t scene, reached [.tick, .command (.destroy (.pipeline ⟨1, 1⟩))] = some s ∧
      AfterFailure s.1 s.2.1 scene t ∧ t.2.1.active.isSome := by
  obtain ⟨⟨a, r, j⟩, ⟨a', r', j'⟩, e, hs, hstate, hidle, htick, hactive⟩ := exists_failed_tick
  obtain ⟨scene, hafter⟩ := tick_failed hstate hidle htick
  exact ⟨_, _, scene, hs, hafter, hactive⟩

/-- So a failed frame may leave a pass open. -/
theorem tick_leaves_pass_open :
    ¬∀ (moves : List Move) (s t : Application × Recorder × Journal) (e : EngineError),
      reached moves = some s → s.1.state = .running → s.2.1.active = none →
        tick s = .error (.error e) t → t.2.1.active = none := by
  intro hall
  obtain ⟨s, t, e, hs, hstate, hidle, htick, hactive⟩ := exists_failed_tick
  rw [hall _ s t e hs hstate hidle htick] at hactive
  cases hactive

end Application

end RenderTargets
