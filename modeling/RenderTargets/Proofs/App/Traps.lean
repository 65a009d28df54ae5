import RenderTargets.Proofs.App.Course
import RenderTargets.Proofs.App.Targets
import RenderTargets.Proofs.Text.Print
/-!
# Where the application traps

Two things in a configuration are not checked before they are multiplied: the width of the surfaces,
which places the panels, and the scale of the message, which places its glyphs. An application that
shows the scene traps for surfaces of `2 ^ 31` pixels across, in the middle of its first tick, so
that nothing is released; one that shows the message traps for a large scale, in every frame.

Nothing else traps. `Stage` is where a new application on a fresh recorder can be: it waits for its
first tick, is on course, or has ended. Where the panels and the message fit, every regular call
keeps it there, so that every tick of every run answers or fails.
-/

namespace RenderTargets.App

open Log StepWith Recorder Word

/-! ### The message -/

/-- The message fits the middle of a screen. -/
def Fallback.Centers (f : Fallback) (display : Display) : Prop :=
  f.text.Centers f.message.length display.width display.height

/-- A message of one line that fits is shown in its cells. -/
theorem Fallback.Centers.exists_batches? {f : Fallback} {display : Display} (h : f.Centers display)
    (hscale : f.text.scale.Positive) (hplaced : f.text.placed = []) (hlength : 0 < f.message.length)
    (hline : ∀ c ∈ f.message.toList, Text.isBreak c = false) :
    ∃ place batches, f.text.centered? f.message display.width display.height = some place ∧
      f.batches? display = some batches ∧
      DebugText.ShowsLine f.text.scale place.column.toNat place.row.toNat f.message.toList
        batches := by
  obtain ⟨place, hplace, hright, hbottom⟩ :=
    DebugText.Centers.exists_centered? h hscale.x hlength
  obtain ⟨text, batches, htext, hbatches, hshows⟩ :=
    DebugText.exists_line (t := { f.text with cursor := place }) hplaced hscale hline hright hbottom
  exact ⟨place, batches, hplace, by simp [batches?, hplace, htext, hbatches], hshows⟩

/-- The message of a configuration has one line of 36 characters. -/
theorem message_ofConfig (config : Config) :
    (Fallback.ofConfig config).message.length = 36 ∧
      ∀ c ∈ (Fallback.ofConfig config).message.toList, Text.isBreak c = false := by
  have hmessage : (s!"This demo needs {featureName}").length = 36 ∧
      (s!"This demo needs {featureName}").toList.all fun c ↦ !Text.isBreak c := by
    decide +kernel
  exact ⟨hmessage.1, fun c hc ↦ by simpa using List.all_eq_true.1 hmessage.2 c hc⟩

/-- The message of a configuration is shown where it fits. -/
theorem Fallback.Centers.exists_batches?_ofConfig {config : Config} {display : Display}
    (h : (Fallback.ofConfig config).Centers display) :
    let f := Fallback.ofConfig config
    ∃ place batches, f.text.centered? f.message display.width display.height = some place ∧
      f.batches? display = some batches ∧
      DebugText.ShowsLine f.text.scale place.column.toNat place.row.toNat f.message.toList
        batches := by
  obtain ⟨hlength, hline⟩ := message_ofConfig config
  exact h.exists_batches? ⟨Text.wholePixels_pos _, Text.wholePixels_pos _⟩ rfl
    (hlength ▸ by decide) hline

theorem Fallback.Centers.isSome_batches?_ofConfig {config : Config} {display : Display}
    (h : (Fallback.ofConfig config).Centers display) :
    ((Fallback.ofConfig config).batches? display).isSome := by
  obtain ⟨-, batches, -, hbatches, -⟩ := h.exists_batches?_ofConfig
  exact Option.isSome_iff_exists.2 ⟨batches, hbatches⟩

/-! ### The scene -/

/-- Panels have places if the surfaces have fewer than `2 ^ 31` pixels across. -/
theorem isSome_panels? {width height : UInt32} (h : width.toNat < 0x80000000) :
    (panels? width height).isSome := by
  refine isSome_mapM fun i hi ↦ ?_
  have hsize : UInt32.size = 0x100000000 := rfl
  have hlt : i < 3 := List.mem_range.1 hi
  have hofNat : (UInt32.ofNat i).toNat = i := UInt32.toNat_ofNat_of_lt' (by omega)
  have hle : i * width.toNat ≤ 2 * width.toNat := Nat.mul_le_mul_right _ (by omega)
  obtain ⟨x, hx, -⟩ := exists_mul? (a := UInt32.ofNat i) (b := width) (by
    rw [hofNat]
    omega)
  simp [panel?, hx]

/-- The mesh of the cube is made and checked. -/
theorem exists_cube : ∃ d, Offscreen.cube = .ok d ∧ d.validate ≠ .error .trap := by
  have hchecked : Offscreen.cube.toOption.any (fun d ↦ d.validate ≠ .error .trap) := by
    decide +kernel
  rcases hcube : Offscreen.cube with _ | d <;> rw [hcube] at hchecked
  · cases hchecked
  · exact ⟨d, rfl, of_decide_eq_true hchecked⟩

/-- The mesh of a panel is checked. -/
theorem validate_quad : (MeshDesc.fullScreenQuad true).validate ≠ .error .trap := by
  decide +kernel

theorem Spends.pure_bind {n : Nat} {α β : Type} {a : α}
    {f : α → Step (Arena × Recorder × Journal) β} (h : Spends n (f a)) :
    Spends n (Pure.pure a >>= f) :=
  h

theorem Spends.get_bind {n : Nat} {α : Type}
    {f : Arena × Recorder × Journal → Step (Arena × Recorder × Journal) α}
    (h : ∀ s, Spends n (f s)) : Spends n (get >>= f) :=
  ⟨fun m ↦ .get_bind fun s ↦ (h s).leaves m, .get_bind fun s ↦ (h s).safe⟩

theorem spends_createOffscreen (shader : ShaderDesc) (targets : Targets) (config : Config) :
    Spends 3 (Offscreen.create shader targets config :
      Step (Arena × Recorder × Journal) Offscreen) := by
  obtain ⟨d, hcube, hvalid⟩ := exists_cube
  rw [Offscreen.create, hcube]
  refine .pure_bind ?_
  refine .made (c := .createMesh _) rfl (safe_createMesh hvalid) fun _ ↦ ?_
  refine .made (c := .createShader _) rfl (safe_createShader _) fun _ ↦ ?_
  exact .made (c := .createPipeline _) rfl (safe_createPipeline _) fun _ ↦ .pure

theorem spends_createComposite (shader : ShaderDesc) (targets : Targets) {config : Config}
    (h : (panels? config.targetWidth config.targetHeight).isSome) :
    Spends 3 (Composite.create shader targets config :
      Step (Arena × Recorder × Journal) Composite) := by
  obtain ⟨places, hplaces⟩ := Option.isSome_iff_exists.1 h
  rw [Composite.create, hplaces]
  refine .made (c := .createMesh _) rfl (safe_createMesh validate_quad) fun _ ↦ ?_
  refine .made (c := .createShader _) rfl (safe_createShader _) fun _ ↦ ?_
  refine .get_bind fun _ ↦ ?_
  refine .made (c := .createPipeline _) rfl (safe_createPipeline _) fun _ ↦ ?_
  exact .pure_bind .pure

theorem spends_effectiveSamples (asked : UInt32) :
    Spends 0 (StepWith.within .snd (effectiveSamples asked : Recording UInt32)) := by
  rw [effectiveSamples]
  refine .nothing (fun n ↦ .snd fun _ ↦ .get_bind fun _ ↦ .ite (fun _ ↦ ?_) fun _ ↦ ?_)
    (.snd fun _ ↦ .get_bind fun _ ↦ .ite (fun _ ↦ .bind_any .note fun _ ↦ .pure) fun _ ↦ .pure)
  · exact Meets.bind (Q := fun _ s ↦ s.1.HasRoom n) (.note fun _ _ h ↦ h) fun _ ↦
      .pure fun _ h ↦ h
  · exact .pure fun _ h ↦ h

theorem spends_createScene {a : Application}
    (h : (panels? a.config.targetWidth a.config.targetHeight).isSome) :
    Spends 10 (Application.createScene a : Step (Arena × Recorder × Journal) Scene) := by
  rw [Application.createScene]
  refine .bind (n := 0) (m := 10) (spends_effectiveSamples _) fun _ ↦ ?_
  refine .bind (n := 4) (m := 6) (spends_buildTargets _) fun _ ↦ ?_
  refine .bind (n := 3) (m := 3) (spends_createOffscreen ..) fun _ ↦ ?_
  exact .bind (n := 3) (m := 0) (spends_createComposite _ _ h) fun _ ↦ .pure

/-! ### Single ticks -/

section Ticks

variable {P : Application × Recorder × Journal → Prop}

theorem safe_onInit {a : Application} {r : Recorder} (hroom : r.HasRoom 10)
    (h : CanShow r.features r.maxColors →
      (panels? a.config.targetWidth a.config.targetHeight).isSome) :
    Safe (fun s ↦ s.1 = a ∧ s.2.1 = r)
      (Application.onInit : Step (Application × Recorder × Journal) Unit) := by
  have hgate : Safe (fun _ ↦ True) (canShowScene : Recording Bool) := by
    rw [canShowScene]
    refine .get_bind fun _ ↦ ?_
    refine .ite (fun _ ↦ .bind_any .note fun _ ↦ .pure) fun _ ↦ ?_
    refine .ite (fun _ ↦ .bind_any .note fun _ ↦ .pure) fun _ ↦ ?_
    exact .bind_any .note fun _ ↦ .pure
  rw [Application.onInit]
  refine .get_bind_eq fun s hs ↦ ?_
  obtain ⟨a', d⟩ := s
  obtain ⟨rfl, hr⟩ := hs
  refine TrapsIn.bind (.snd fun _ ↦ hgate.pre fun _ _ ↦ trivial)
    ((meets_gate (r := r) a').pre ?_) fun shown ↦ .assume fun hshown ↦
    .ite (fun _ ↦ .bind_any .update fun _ ↦ .pure) fun hc ↦ ?_
  · rintro _ rfl
    exact ⟨rfl, hr⟩
  have hscene := spends_createScene (a := a') (h (hshown.1 (by simpa using hc)))
  refine TrapsIn.bind_any (.attempt (.within fun t ht ↦ hscene.safe.pre fun u hu ↦ ?_)) fun c ↦ ?_
  · subst hu
    rw [show (Application.arenaLens.get t).2.1 = r from ht.2]
    exact hroom
  cases c with
  | ok _ => exact .get_bind fun _ ↦ .bind_any .note fun _ ↦ .update
  | error _ =>
    refine .bind_any .note fun _ ↦ ?_
    refine .bind_any (.attempt (.within fun _ _ ↦ safe_rollbackTo 0)) fun c ↦ ?_
    cases c with
    | ok _ => exact .pure_bind .fail
    | error _ => exact .bind_any .note fun _ ↦ .fail

theorem safe_onCleanup :
    Safe P (Application.onCleanup : Step (Application × Recorder × Journal) Nat) := by
  rw [Application.onCleanup]
  refine .get_bind fun _ ↦ ?_
  refine .bind_any .update fun _ ↦ ?_
  refine .ite (fun _ ↦ .pure) fun _ ↦ ?_
  exact .bind_any (.within fun _ _ ↦ safe_rollbackTo 0) fun _ ↦ .bind_any .note fun _ ↦ .pure

/-- Only the work of `init` and of a frame may trap. -/
theorem safe_tick
    (hinit : Safe (fun s ↦ P s ∧ s.1.state = .init)
      (Application.onInit : Step (Application × Recorder × Journal) Unit))
    (hrunning : Safe (fun s ↦ P s ∧ s.1.state = .running)
      (Application.onRunning : Step (Application × Recorder × Journal) State)) :
    Safe P (Application.tick : Step (Application × Recorder × Journal) State) := by
  have hnext : Safe P (Application.next : Step (Application × Recorder × Journal) State) := by
    rw [Application.next]
    refine .get_bind_eq fun s hs ↦ ?_
    cases hstate : s.1.state with
    | init =>
      refine .bind_any (.attempt (hinit.pre fun t ht ↦ ht ▸ ⟨hs, hstate⟩)) fun c ↦ ?_
      cases c with
      | ok _ => exact .pure
      | error _ => exact .bind_any .update fun _ ↦ .fail
    | running => exact hrunning.pre fun t ht ↦ ht ▸ ⟨hs, hstate⟩
    | cleanup => exact .bind_any safe_onCleanup fun _ ↦ .pure
    | destroy => exact .pure
  rw [Application.tick]
  refine hnext.bind_any fun _ ↦ ?_
  refine .get_bind fun _ ↦ ?_
  refine .ite (fun _ ↦ ?_) fun _ ↦ ?_
  · exact .bind_any .note fun _ ↦ .bind_any .update fun _ ↦ .pure
  · exact .pure

/-- A first tick that fails is the last one. -/
theorem meets_tick_init :
    Meets (fun s ↦ s.1.state = .init)
      (Application.tick : Step (Application × Recorder × Journal) State) (fun _ _ ↦ True)
      fun _ s ↦ s.1.state = .destroy := by
  have hnext : Meets (fun s ↦ s.1.state = .init)
      (Application.next : Step (Application × Recorder × Journal) State) (fun _ _ ↦ True)
      fun _ s ↦ s.1.state = .destroy := by
    rw [Application.next]
    refine .get_bind_eq fun s hs ↦ ?_
    rw [hs]
    refine Meets.bind (Q := fun _ _ ↦ True) (.attempt .any) fun c ↦ ?_
    cases c with
    | ok _ => exact .pure fun _ _ ↦ trivial
    | error _ =>
      exact Meets.bind (Q := fun _ t ↦ t.1.state = .destroy) (.update fun _ _ ↦ rfl) fun _ ↦
        .fail fun _ h ↦ h
  rw [Application.tick]
  refine hnext.bind fun _ ↦ ?_
  refine .get_bind fun _ ↦ ?_
  refine .ite (fun _ ↦ ?_) fun _ ↦ ?_
  · refine Meets.bind (Q := fun _ _ ↦ True) (.note fun _ _ _ ↦ trivial) fun _ ↦ ?_
    refine Meets.bind (Q := fun _ _ ↦ True) (.update fun _ _ ↦ trivial) fun _ ↦ ?_
    exact .pure fun _ _ ↦ trivial
  · exact .pure fun _ _ ↦ trivial

end Ticks

/-! ### Stages -/

/-- An unused recorder with room for the scene, on which panels or message can be drawn. -/
structure Fits (config : Config) (r : Recorder) : Prop where
  /-- No frame was committed. -/
  frames : r.frames = 0
  /-- Nothing was recorded. -/
  commands : r.commands = []
  /-- No pass is open. -/
  idle : r.active = none
  /-- There is room for the resources of the scene. -/
  room : r.HasRoom 10
  /-- The panels have places where the scene is shown. -/
  panels : CanShow r.features r.maxColors → (panels? config.targetWidth config.targetHeight).isSome
  /-- The message has rectangles where it is shown. -/
  message : ¬CanShow r.features r.maxColors →
    ((Fallback.ofConfig config).batches? r.display).isSome

/-- Where a new application can be that is used as it is meant to be. -/
inductive Stage (config : Config) (shaders : Shaders) : Application × Recorder × Journal → Prop
  /-- Nothing was done but ask to quit. -/
  | waiting {r : Recorder} {j : Journal} (fits : Fits config r)
    (sound : Sound Recorder.HoldsIn True (Application.new config shaders, r, j)) :
    Stage config shaders (Application.new config shaders, r, j)
  /-- The first tick answered, and what it chose can be drawn. -/
  | started {s : Application × Recorder × Journal} {m : Mode} {r₁ : Recorder}
    (sound : Sound Recorder.HoldsIn True s) (course : OnCourse config shaders m r₁ s)
    (drawable : m.Drawable config r₁.display) : Stage config shaders s
  /-- The first tick failed. -/
  | ended {s : Application × Recorder × Journal} (state : s.1.state = .destroy) :
    Stage config shaders s

section Stages

variable {config : Config} {shaders : Shaders}

theorem Fits.requestQuit {r : Recorder} (h : Fits config r) : Fits config { r with quit := true } :=
  ⟨h.frames, h.commands, h.idle,
    ⟨h.room.textures, h.room.meshes, h.room.shaders, h.room.pipelines, h.room.passes⟩,
    h.panels, h.message⟩

/-- An application on course that has something to draw draws it. -/
theorem OnCourse.onRunning_ne_trap {m : Mode} {r₁ : Recorder}
    {s t : Application × Recorder × Journal} (h : OnCourse config shaders m r₁ s)
    (hm : m.Drawable config r₁.display) (hs : s.1.state = .running) :
    Application.onRunning s ≠ .error .trap t := by
  obtain ⟨a, r, j⟩ := s
  obtain ⟨hdisplay, hready⟩ := h.ready hs
  rcases running_of_ready (j := j) hready h.idle with ⟨hno, -⟩ | ⟨mode, resolved, r', -, -, hrun⟩
  · rw [hdisplay] at hno
    exact absurd hm hno
  · rw [hrun]
    exact nofun

theorem safe_tick_stage :
    Safe (Stage config shaders)
      (Application.tick : Step (Application × Recorder × Journal) State) := by
  refine safe_tick ?_ ?_
  · rintro s ⟨hs, hinit⟩ t ht
    cases hs with
    | waiting fits => exact safe_onInit fits.room fits.panels _ ⟨rfl, rfl⟩ t ht
    | started _ course => exact course.started hinit
    | ended hend => exact State.noConfusion (hend.symm.trans hinit)
  · rintro s ⟨hs, hrunning⟩ t ht
    cases hs with
    | waiting => cases hrunning
    | started _ course drawable => exact course.onRunning_ne_trap drawable hrunning ht
    | ended hend => exact State.noConfusion (hend.symm.trans hrunning)

theorem keeps_tick_stage :
    Keeps (Stage config shaders)
      (Application.tick : Step (Application × Recorder × Journal) State) := by
  intro s hs
  have hsound := App.keeps_tick (p := True) Recorder.ledger
  cases hs with
  | @waiting r j fits sound =>
    let a := Application.new config shaders
    refine ((((meets_firstTick (r := r) (a := a) rfl).and hsound).and meets_tick_init) (a, r, j)
      ⟨⟨⟨rfl, rfl⟩, sound⟩, rfl⟩).mono ?_ fun _ t h ↦ .ended h.2
    rintro st t ⟨⟨⟨-, hstate, hstarted⟩, hsound⟩, -⟩
    obtain ⟨m, -, hchosen, hcourse⟩ :=
      onCourse_of_started fits.frames fits.commands fits.idle hstate hstarted
    refine .started hsound hcourse ?_
    by_cases hcan : CanShow r.features r.maxColors
    · rw [if_pos hcan] at hchosen
      obtain ⟨scene, rfl, -⟩ := hchosen
      trivial
    · rw [if_neg hcan] at hchosen
      obtain ⟨rfl, hr⟩ := hchosen
      rw [hr]
      exact fits.message hcan
  | started sound course drawable =>
    have hcourse : Meets (· = s) Application.tick (fun _ ↦ OnCourse config shaders _ _)
        fun _ _ ↦ False :=
      fun t ht ↦ ht ▸ (course.tick sound).mono (fun _ _ h ↦ h.1) fun _ _ he ↦ he
    exact ((hsound.and hcourse) s ⟨sound, rfl⟩).mono
      (fun _ _ h ↦ .started h.1 h.2 drawable) fun _ _ h ↦ h.2.elim
  | ended hend =>
    rw [Application.tick_of_destroy hend]
    exact .ended hend

theorem keeps_requestQuit_stage :
    Keeps (Stage config shaders)
      (StepWith.within .snd (GraphicsDevice.requestQuit : Recording Unit)) := by
  intro s hs
  have hsound := App.keeps_requestQuit (p := True) Recorder.ledger
  cases hs with
  | waiting fits sound => exact .waiting fits.requestQuit (hsound _ sound)
  | started sound course drawable =>
    exact ((hsound.and keeps_requestQuit_course) s ⟨sound, course⟩).mono
      (fun _ _ h ↦ .started h.1 h.2 drawable) fun _ _ h ↦ .started h.1 h.2 drawable
  | ended hend => exact .ended hend

end Stages

end RenderTargets.App

namespace RenderTargets.Application

open App Log StepWith Recorder

variable {config : Config} {shaders : Shaders}

/-- Regular calls do not trap. -/
theorem exists_run_of_stage {calls : List Call} (hcalls : ∀ c ∈ calls, c.IsRegular)
    {s : Application × Recorder × Journal} (hs : Stage config shaders s) :
    ∃ t, run calls s = some t ∧ Stage config shaders t := by
  refine exists_settleAll (fun x hx ↦ ?_) (fun x hx ↦ ?_) hs
  · obtain ⟨c, hc, rfl⟩ := List.mem_map.1 hx
    rcases hcalls c hc with rfl | rfl
    · exact Meets.map keeps_tick_stage
    · exact keeps_requestQuit_stage
  · obtain ⟨c, hc, rfl⟩ := List.mem_map.1 hx
    rcases hcalls c hc with rfl | rfl
    · exact TrapsIn.map safe_tick_stage
    · change Safe _ (StepWith.within .snd Recorder.requestQuit)
      exact .snd fun _ ↦ .update

/-- **Every tick answers or fails where panels and message fit.** Take any configuration and shaders
and any fresh recorder. Let the surfaces have fewer than `2 ^ 31` pixels across if the scene is
shown; if the message is shown, let it take at most `2 ^ 31` pixels in each direction, and no more
than `2 ^ 32` together with the screen. Then no tick or wish to quit traps, after any others. -/
theorem tick_untrapped (config : Config) (shaders : Shaders) (features : Features)
    (maxColors : UInt32) (display : Display) (failAt : Option (ResourceKind × Nat))
    (quitAfter : Option Nat) (journal : Journal)
    (hpanels : CanShow features maxColors → config.targetWidth.toNat < 0x80000000)
    (hmessage : ¬CanShow features maxColors → (Fallback.ofConfig config).Centers display)
    (calls : List Call) (hcalls : ∀ c ∈ calls, c.IsRegular) :
    ∃ s, run calls (new config shaders,
        Recorder.fresh features maxColors display failAt quitAfter, journal) = some s ∧
      ((∃ st t, tick s = .ok st t) ∨ ∃ e t, tick s = .error (.error e) t) := by
  have hfits : Fits config (Recorder.fresh features maxColors display failAt quitAfter) :=
    ⟨rfl, rfl, rfl, hasRoom_fresh (by decide), fun h ↦ isSome_panels? (hpanels h),
      fun h ↦ (hmessage h).isSome_batches?_ofConfig⟩
  have hstart : Stage config shaders (new config shaders,
      Recorder.fresh features maxColors display failAt quitAfter, journal) :=
    .waiting hfits ⟨Recorder.holds_fresh .., fun _ _ ↦ ⟨rfl, rfl⟩⟩
  obtain ⟨s, hrun, hs⟩ := exists_run_of_stage hcalls hstart
  exact ⟨s, hrun, safe_tick_stage.exists_result hs⟩

/-- The scene of the reference configuration, and its message on a device without features. -/
theorem tick_untrapped_default :
    (∃ s, run [.quit, .tick] (new {} ⟨magicShader, magicShader⟩, Recorder.fresh .every 4
        ⟨640, 480, .bgra8Srgb, none, 1⟩ none none, ({} : Journal)) = some s ∧
      ((∃ st t, tick s = .ok st t) ∨ ∃ e t, tick s = .error (.error e) t)) ∧
    ∃ s, run [.tick] (new {} default, Recorder.fresh .none 4
        ⟨640, 480, .bgra8Srgb, none, 1⟩ none none, ({} : Journal)) = some s ∧
      ((∃ st t, tick s = .ok st t) ∨ ∃ e t, tick s = .error (.error e) t) := by
  constructor
  · exact tick_untrapped {} ⟨magicShader, magicShader⟩ .every 4 ⟨640, 480, .bgra8Srgb, none, 1⟩
      none none {} (by decide) (fun h ↦ absurd (by decide) h) [.quit, .tick]
      (by simp [Call.IsRegular])
  · refine tick_untrapped {} default .none 4 ⟨640, 480, .bgra8Srgb, none, 1⟩ none none {}
      (fun h ↦ absurd h (by decide)) (fun _ ↦ ?_) [.tick] (by simp [Call.IsRegular])
    constructor <;> decide +kernel

/-- Surfaces of `2 ^ 31` pixels across trap in the first tick, and a message of that scale in the
second one. -/
theorem run_trapped :
    run [.tick] (new { targetWidth := 0x80000000, targetHeight := 1 } ⟨magicShader, magicShader⟩,
      Recorder.fresh .every 4 ⟨640, 480, .bgra8Srgb, none, 1⟩ none none, ({} : Journal)) = none ∧
    run [.tick, .tick] (new { fallbackTextScale := ⟨⟨0x4f000000⟩, .one⟩ } default,
      Recorder.fresh .none 4 ⟨640, 480, .bgra8Srgb, none, 1⟩ none none, ({} : Journal)) = none :=
  ⟨Option.isNone_iff_eq_none.1 (by decide +kernel), Option.isNone_iff_eq_none.1 (by decide +kernel)⟩

end RenderTargets.Application
