import RenderTargets.Proofs.App.Traps
import RenderTargets.Proofs.Rect.Pixels
/-!
# The message on the screen

An application on a recorder that cannot show the scene shows the message or nothing, and it owns
nothing, whatever is called (`Showing`). So each frame is that of the message, which is always the
same one, or nothing was drawn in it, which takes a call that is not regular.

The rectangles of the message have the pixels of its characters and lie in the cells of its line
(`DebugText.ShowsLine`). These are in the middle of the screen if it has room for them: whole cells
are counted from the left and from the top, so that the margins differ by the cell that is left over
where their number is odd, and by the part of a cell that is left over at the far edge
(`DebugText.InMiddle`).
-/

namespace RenderTargets

open App Log StepWith Recorder Text

/-! ### The place of the message -/

/-- The pixels of the screen. -/
def Display.screen (d : Display) : Rect := ⟨0, 0, d.width, d.height⟩

/-- A line of `n` cells of a row, from a column on, is in the middle of a screen. -/
structure Text.LineInMiddle (scale : Scale) (column row n : ℕ) (display : Display) : Prop where
  /-- From left to right. -/
  across : DebugText.InMiddle display.width.toNat (8 * scale.x.toNat)
    (column * (8 * scale.x.toNat)) ((column + n) * (8 * scale.x.toNat))
  /-- From the top down. -/
  down : DebugText.InMiddle display.height.toNat (8 * scale.y.toNat)
    (row * (8 * scale.y.toNat)) ((row + 1) * (8 * scale.y.toNat))

/-- Cells in the middle of a screen are on it. -/
theorem Text.LineInMiddle.isWithin {scale : Scale} {column row n : ℕ} {display : Display} {r : Rect}
    (h : LineInMiddle scale column row n display) (hr : InCells scale column row n r) :
    r.IsWithin display.screen := by
  have hright := hr.right.trans (Int.ofNat_le.2 h.across.stop_le)
  have hbottom := hr.bottom.trans (Int.ofNat_le.2 h.down.stop_le)
  have hzero : (0 : Int32).toInt = 0 := rfl
  refine ⟨?_, ?_, ?_, ?_⟩ <;> rw [Display.screen] <;> simp only [hzero, zero_add]
  · exact (Int.natCast_nonneg _).trans hr.left
  · exact hright
  · exact (Int.natCast_nonneg _).trans hr.top
  · exact hbottom

/-- A centered line is in the middle of a screen that has room for its cells. -/
theorem DebugText.exists_lineInMiddle {t : DebugText} {text : String} {display : Display}
    (hscale : t.scale.Positive) (hlength : 0 < text.length)
    (hline : text.length * (8 * t.scale.x.toNat) ≤ display.width.toNat)
    (hrow : 8 * t.scale.y.toNat ≤ display.height.toNat) :
    ∃ place, t.centered? text display.width display.height = some place ∧
      LineInMiddle t.scale place.column.toNat place.row.toNat text.length display := by
  have hwide := hscale.x
  have hhigh := hscale.y
  have hcells : text.length ≤ text.length * (8 * t.scale.x.toNat) :=
    Nat.le_mul_of_pos_right _ (by omega)
  have hcell : 8 * t.scale.x.toNat ≤ text.length * (8 * t.scale.x.toNat) :=
    Nat.le_mul_of_pos_left _ hlength
  have hwidth := display.width.toNat_lt_size
  have hheight := display.height.toNat_lt_size
  obtain ⟨place, hplace, hcolumn, hrow'⟩ :=
    exists_centered? t text display.width display.height (by omega) (by omega) (by omega)
  refine ⟨place, hplace, ?_, ?_⟩
  · rw [hcolumn]
    exact inMiddle_centered (by omega) hline
  · rw [hrow']
    exact inMiddle_centered (by omega) ((Nat.one_mul _).symm ▸ hrow)

namespace App

variable {config : Config} {display : Display} {a : Application} {r : Recorder} {j : Journal}

/-- The message fits a screen that has room for its cells. -/
theorem Fallback.Centers.of_le {f : Fallback} (hwidth : display.width.toNat < 0x80000000)
    (hheight : display.height.toNat < 0x80000000)
    (hline : f.message.length * (8 * f.text.scale.x.toNat) ≤ display.width.toNat)
    (hrow : 8 * f.text.scale.y.toNat ≤ display.height.toNat) : f.Centers display :=
  ⟨by omega, by omega, by omega, by omega⟩

/-- The message is shown in the middle of a screen that has room for its cells. -/
theorem exists_message (config : Config) (hwidth : display.width.toNat < 0x80000000)
    (hheight : display.height.toNat < 0x80000000)
    (hline : 36 * (8 * (Fallback.ofConfig config).text.scale.x.toNat) ≤ display.width.toNat)
    (hrow : 8 * (Fallback.ofConfig config).text.scale.y.toNat ≤ display.height.toNat) :
    let f := Fallback.ofConfig config
    ∃ place batches, f.text.centered? f.message display.width display.height = some place ∧
      f.batches? display = some batches ∧
      LineInMiddle f.text.scale place.column.toNat place.row.toNat 36 display ∧
      DebugText.ShowsLine f.text.scale place.column.toNat place.row.toNat f.message.toList
        batches := by
  intro f
  have hlength : f.message.length = 36 := (message_ofConfig config).1
  rw [← hlength] at hline ⊢
  have hscale : f.text.scale.Positive := ⟨wholePixels_pos _, wholePixels_pos _⟩
  obtain ⟨place, batches, hplace, hbatches, hshows⟩ :=
    (Fallback.Centers.of_le hwidth hheight hline hrow).exists_batches?_ofConfig
  obtain ⟨place', hplace', hmiddle⟩ :=
    DebugText.exists_lineInMiddle hscale (hlength ▸ by decide) hline hrow
  obtain rfl : place = place' := Option.some.inj (hplace.symm.trans hplace')
  exact ⟨place, batches, hplace, hbatches, hmiddle, hshows⟩

/-! ### Single steps -/

/-- Where the scene cannot be shown, the message is chosen. -/
theorem onInit_of_cannot (h : ¬CanShow r.features r.maxColors) :
    ∃ j', Application.onInit (a, r, j) =
      .ok () ({ a with mode := some (.fallback (.ofConfig a.config)) }, r, j') := by
  obtain ⟨j', hgate⟩ : ∃ j', (canShowScene : Recording Bool) (r, j) = .ok false (r, j') := by
    rw [canShowScene, get_bind_apply]
    by_cases hsupports : GraphicsDevice.supports (r, j) .multipleTargets
    · have hlimit : (GraphicsDevice.maxColors (r, j)).toNat < targetCount :=
        Nat.lt_of_not_le fun hle ↦ h ⟨hsupports, hle⟩
      rw [if_neg (by simpa using hsupports), if_pos hlimit]
      exact ⟨_, rfl⟩
    · rw [if_pos (by simpa using hsupports)]
      exact ⟨_, rfl⟩
  refine ⟨j', ?_⟩
  rw [Application.onInit, get_bind_apply]
  exact bind_ok (within_snd_ok hgate)

/-- Where nothing is shown, nothing is drawn. -/
theorem running_of_none (ha : a.mode = none) (idle : r.active = none) :
    ∃ r', r' = framed r [.commitFrame] r.resolved ∧
      Application.onRunning (a, r, j) =
        .ok (if r'.quit then .cleanup else .running) (a, r', j) := by
  have hcommit : r.Accepts .commitFrame none (framed r [.commitFrame] r.resolved) := by
    have h := accepts_commitFrame (r := r) [] r.resolved
    have hwrote : wrote r none [] = r := by rw [wrote, List.append_nil, ← idle]
    rwa [hwrote] at h
  have hdraw : Application.drawMode (a, r, j) = .ok () (a, r, j) := by
    rw [Application.drawMode, get_bind_apply]
    simp only [ha]
    rfl
  refine ⟨_, rfl, ?_⟩
  rw [Application.onRunning]
  exact (bind_ok hdraw).trans (bind_ok (within_snd_ok hcommit.perform))

/-- Where nothing is owned, nothing is released. -/
theorem onCleanup_of_nil (ha : a.arena = []) :
    ∃ n j', Application.onCleanup (a, r, j) = .ok n ({ a with mode := none }, r, j') := by
  obtain ⟨config, shaders, state, mode, arena⟩ := a
  cases ha
  cases mode <;> exact ⟨_, _, rfl⟩

/-- `init` is left when its work is done. -/
theorem next_of_init {s t : Application × Recorder × Journal} (hs : s.1.state = .init)
    (h : Application.onInit s = .ok () t) : Application.next s = .ok .running t := by
  have hattempt : StepWith.attempt Application.onInit s = .ok (.ok ()) t := by
    rw [StepWith.attempt, h]
  rw [Application.next, get_bind_apply]
  simp only [hs]
  exact bind_ok hattempt

/-- So is `cleanup`. -/
theorem next_of_cleanup {s t : Application × Recorder × Journal} {n : ℕ}
    (hs : s.1.state = .cleanup) (h : Application.onCleanup s = .ok n t) :
    Application.next s = .ok .destroy t := by
  rw [Application.next, get_bind_apply]
  simp only [hs]
  exact bind_ok h

/-! ### Every call -/

/-- A recorder that cannot show the scene has the frames of the message, and if not `p` also frames
in which nothing was drawn. -/
structure LogsMessage (config : Config) (display : Display) (p : Prop) (r : Recorder) : Prop where
  /-- The scene cannot be shown. -/
  cannot : ¬CanShow r.features r.maxColors
  /-- The screen is the given one. -/
  screen : r.display = display
  /-- No pass is open. -/
  idle : r.active = none
  /-- The commands are those of the frames. -/
  log : ∃ frames : List (List Command), r.commands = frames.flatten ∧ frames.length = r.frames ∧
    ∀ frame ∈ frames, frame = fallbackFrame config display ∨ ¬p ∧ frame = [.commitFrame]

/-- The application shows the message or nothing, and it owns nothing. If `p`, it shows the message
where frames are drawn. -/
structure Showing (config : Config) (display : Display) (p : Prop)
    (s : Application × Recorder × Journal) : Prop where
  /-- The configuration is the given one. -/
  asked : s.1.config = config
  /-- The message is shown, or nothing. -/
  mode : s.1.mode = none ∨ ∃ cursor, s.1.mode = some (.fallback (.at config cursor))
  /-- Nothing is owned. -/
  arena : s.1.arena = []
  /-- The message is shown where frames are drawn. -/
  shown : p → s.1.state = .running → s.1.mode ≠ none
  /-- The frames are logged. -/
  logs : LogsMessage config display p s.2.1

section Calls

variable {p : Prop} {s : Application × Recorder × Journal}

/-- Another frame is logged. -/
theorem LogsMessage.framed {frame : List Command} (h : LogsMessage config display p r)
    (hframe : frame = fallbackFrame config display ∨ ¬p ∧ frame = [.commitFrame])
    (resolved : List TextureId) : LogsMessage config display p (framed r frame resolved) where
  cannot := h.cannot
  screen := h.screen
  idle := rfl
  log := by
    obtain ⟨frames, hcommands, hlength, hframes⟩ := h.log
    refine ⟨frames ++ [frame], ?_, ?_, ?_⟩
    · simp [App.framed, hcommands]
    · simp [App.framed, hlength]
    · exact List.forall_mem_append.2 ⟨hframes, List.forall_mem_singleton.2 hframe⟩

/-- `init` shows the message. -/
theorem Showing.onInit (h : Showing config display p s) :
    ∃ t, Application.onInit s = .ok () t ∧ Showing config display p t ∧ t.1.mode ≠ none := by
  obtain ⟨a, r, j⟩ := s
  obtain ⟨j', hinit⟩ := onInit_of_cannot (a := a) (j := j) h.logs.cannot
  obtain rfl : a.config = config := h.asked
  exact ⟨_, hinit, ⟨rfl, .inr ⟨_, rfl⟩, h.arena, fun _ _ ↦ nofun, h.logs⟩, nofun⟩

/-- `cleanup` shows nothing. -/
theorem Showing.onCleanup (h : Showing config display p s) (hp : p → s.1.state ≠ .running) :
    ∃ n t, Application.onCleanup s = .ok n t ∧ Showing config display p t := by
  obtain ⟨a, r, j⟩ := s
  obtain ⟨n, j', hcleanup⟩ := onCleanup_of_nil (r := r) (j := j) h.arena
  exact ⟨n, _, hcleanup, h.asked, .inl rfl, h.arena, fun hp' hs ↦ absurd hs (hp hp'), h.logs⟩

/-- A tick enters the state that follows. -/
theorem Showing.tick_of_next {st : State} {t : Application × Recorder × Journal}
    (hnext : Application.next s = .ok st t) (h : Showing config display p t)
    (hp : p → st = .running → t.1.mode ≠ none) :
    ∃ t', Application.tick s = .ok st t' ∧ Showing config display p t' := by
  obtain ⟨a, r, j⟩ := s
  obtain ⟨a', r', j'⟩ := t
  obtain ⟨journal, htick⟩ := App.tick_of_next hnext
  exact ⟨_, htick, h.asked, h.mode, h.arena, hp, h.logs⟩

variable (hbatches : ((Fallback.ofConfig config).batches? display).isSome)
include hbatches

/-- A frame is that of the message if the message is shown. -/
theorem Showing.onRunning (h : Showing config display p s) (hp : p → s.1.mode ≠ none) :
    ∃ st t, Application.onRunning s = .ok st t ∧ Showing config display p t ∧
      (s.1.mode ≠ none → t.1.mode ≠ none) := by
  obtain ⟨a, r, j⟩ := s
  rcases h.mode with hmode | ⟨cursor, hmode⟩
  · obtain ⟨r', rfl, hrun⟩ := running_of_none (j := j) hmode h.logs.idle
    exact ⟨_, _, hrun, ⟨h.asked, h.mode, h.arena, h.shown,
      h.logs.framed (.inr ⟨fun hp' ↦ hp hp' hmode, rfl⟩) _⟩, id⟩
  · rcases running_fallback (j := j) hmode h.logs.idle with
      ⟨hnone, -⟩ | ⟨cursor', r', rfl, hrun⟩
    · rw [h.logs.screen] at hnone
      rw [hnone] at hbatches
      cases hbatches
    · rw [h.logs.screen] at hrun
      exact ⟨_, _, hrun, ⟨h.asked, .inr ⟨cursor', rfl⟩, h.arena, fun _ _ ↦ nofun,
        h.logs.framed (.inl rfl) _⟩, fun _ ↦ nofun⟩

/-- A tick answers. -/
theorem Showing.tick (h : Showing config display p s) :
    ∃ st t, Application.tick s = .ok st t ∧ Showing config display p t := by
  cases hs : s.1.state with
  | init =>
    obtain ⟨t, hinit, ht, hmode⟩ := h.onInit
    exact ⟨_, Showing.tick_of_next (next_of_init hs hinit) ht fun _ _ ↦ hmode⟩
  | running =>
    obtain ⟨st, t, hrun, ht, hmode⟩ := h.onRunning hbatches fun hp ↦ h.shown hp hs
    exact ⟨st, Showing.tick_of_next ((next_of_running hs).trans hrun) ht
      fun hp _ ↦ hmode (h.shown hp hs)⟩
  | cleanup =>
    obtain ⟨n, t, hcleanup, ht⟩ := h.onCleanup fun _ hr ↦ State.noConfusion (hs.symm.trans hr)
    exact ⟨_, Showing.tick_of_next (next_of_cleanup hs hcleanup) ht nofun⟩
  | destroy => exact ⟨_, s, Application.tick_of_destroy hs, h⟩

/-- Every call answers, and the application goes on showing the message or nothing. -/
theorem Showing.perform {c : Application.Call} (hc : p → c.IsRegular)
    (h : Showing config display p s) :
    ∃ t, c.perform s = .ok () t ∧ Showing config display p t := by
  have hirregular : ¬c.IsRegular → ∀ {q : Prop}, p → q := fun hno _ hp ↦ absurd (hc hp) hno
  cases c with
  | tick =>
    obtain ⟨st, t, htick, ht⟩ := h.tick hbatches
    exact ⟨t, bind_ok htick, ht⟩
  | init =>
    obtain ⟨t, hinit, ht, -⟩ := h.onInit
    exact ⟨t, hinit, ht⟩
  | running =>
    obtain ⟨st, t, hrun, ht, -⟩ := h.onRunning hbatches (hirregular nofun)
    exact ⟨t, bind_ok hrun, ht⟩
  | cleanup =>
    obtain ⟨n, t, hcleanup, ht⟩ := h.onCleanup (hirregular nofun)
    exact ⟨t, bind_ok hcleanup, ht⟩
  | quit => exact ⟨_, rfl, h.asked, h.mode, h.arena, h.shown, h.logs.cannot, h.logs.screen,
      h.logs.idle, h.logs.log⟩

/-- A run ends, and the application goes on showing the message or nothing. -/
theorem Showing.exists_run (h : Showing config display p s) (calls : List Application.Call)
    (hcalls : p → ∀ c ∈ calls, c.IsRegular) :
    ∃ t, Application.run calls s = some t ∧ Showing config display p t := by
  induction calls generalizing s with
  | nil => exact ⟨s, rfl, h⟩
  | cons c rest ih =>
    obtain ⟨t, hperform, ht⟩ :=
      h.perform (c := c) hbatches fun hp ↦ hcalls hp c List.mem_cons_self
    obtain ⟨u, hrun, hu⟩ := ih ht fun hp d hd ↦ hcalls hp d (List.mem_cons_of_mem c hd)
    refine ⟨u, ?_, hu⟩
    rw [Application.run, List.map_cons, settleAll, settle_of_ok hperform, Option.bind_some]
    exact hrun

end Calls

end App

namespace Application

/-- **The message is on the screen and in the middle of it.** Take any configuration and shaders,
and any fresh recorder that cannot show the scene, on a screen of fewer than `2 ^ 31` pixels in each
direction with room for the 36 cells of the message. The margins on the left and on the right of
these cells differ by less than two cells, and so do those above and below, where the first one is
never the larger. The rectangles of the message have the pixels of its characters, each in its cell,
and they lie in the cells and on the screen. Every run of calls ends. What it has recorded are its
frames, all of which fill these rectangles and no others; only if some call is not regular there may
be frames in which nothing was drawn. -/
theorem run_message (config : Config) (shaders : Shaders) (features : Features)
    (maxColors : UInt32) (display : Display) (failAt : Option (ResourceKind × Nat))
    (quitAfter : Option Nat) (journal : Journal) (hcannot : ¬CanShow features maxColors)
    (hwidth : display.width.toNat < 0x80000000) (hheight : display.height.toNat < 0x80000000)
    (hline : 36 * (8 * (Fallback.ofConfig config).text.scale.x.toNat) ≤ display.width.toNat)
    (hrow : 8 * (Fallback.ofConfig config).text.scale.y.toNat ≤ display.height.toNat) :
    let f := Fallback.ofConfig config
    ∃ place batches, f.text.centered? f.message display.width display.height = some place ∧
      f.batches? display = some batches ∧
      LineInMiddle f.text.scale place.column.toNat place.row.toNat 36 display ∧
      DebugText.ShowsLine f.text.scale place.column.toNat place.row.toNat f.message.toList
        batches ∧
      (∀ b ∈ batches, ∀ r ∈ b.rects, r.IsWithin display.screen) ∧
      ∀ calls : List Call, ∃ (s : Application × Recorder × Journal) (frames : List (List Command)),
        run calls (new config shaders,
          Recorder.fresh features maxColors display failAt quitAfter, journal) = some s ∧
        s.2.1.commands = frames.flatten ∧ frames.length = s.2.1.frames ∧
        ∀ frame ∈ frames,
          frame = .beginPass none [config.fallbackClearColor] ::
            batches.map (fun b ↦ .fillRects b.color b.rects) ++ [.endPass, .commitFrame] ∨
          frame = [.commitFrame] ∧ ∃ c ∈ calls, ¬c.IsRegular := by
  intro f
  obtain ⟨place, batches, hplace, hbatches, hmiddle, hshows⟩ :=
    exists_message config hwidth hheight hline hrow
  have hwithin : ∀ b ∈ batches, ∀ r ∈ b.rects, r.IsWithin display.screen := fun b hb r hr ↦ by
    have hin := hshows.inCells b hb r hr
    rw [String.length_toList, (message_ofConfig config).1] at hin
    exact hmiddle.isWithin hin
  refine ⟨place, batches, hplace, hbatches, hmiddle, hshows, hwithin, fun calls ↦ ?_⟩
  have hframe : fallbackFrame config display = .beginPass none [config.fallbackClearColor] ::
      batches.map (fun b ↦ .fillRects b.color b.rects) ++ [.endPass, .commitFrame] := by
    rw [fallbackFrame, hbatches, Option.getD_some]
  have hstart : Showing config display (∀ c ∈ calls, c.IsRegular) (new config shaders,
      Recorder.fresh features maxColors display failAt quitAfter, journal) :=
    ⟨rfl, .inl rfl, rfl, fun _ hs ↦ State.noConfusion hs, hcannot, rfl, rfl, [], rfl, rfl,
      List.forall_mem_nil _⟩
  obtain ⟨s, hrun, hs⟩ := hstart.exists_run (hbatches ▸ rfl) calls id
  obtain ⟨frames, hcommands, hlength, hframes⟩ := hs.logs.log
  refine ⟨s, frames, hrun, hcommands, hlength, fun frame hmem ↦ ?_⟩
  rcases hframes frame hmem with rfl | ⟨hirregular, rfl⟩
  · exact .inl hframe
  · exact .inr ⟨rfl, by simpa using hirregular⟩

/-- The message of the reference configuration begins in the third of 40 columns and in the 15th of
30 rows. The first two ticks draw it once. -/
theorem run_message_default :
    ∃ batches s, (Fallback.ofConfig {}).batches? ⟨640, 480, .bgra8Srgb, none, 1⟩ = some batches ∧
      DebugText.ShowsLine ⟨2, 2⟩ 2 14 "This demo needs MultipleRenderTarget".toList batches ∧
      run [.tick, .tick] (new {} default, Recorder.fresh .none 4
        ⟨640, 480, .bgra8Srgb, none, 1⟩ none none, ({} : Journal)) = some s ∧
      s.2.1.commands = .beginPass none [({} : Config).fallbackClearColor] ::
        batches.map (fun b ↦ .fillRects b.color b.rects) ++ [.endPass, .commitFrame] := by
  obtain ⟨place, batches, hplace, hbatches, -, hshows, -, hruns⟩ := run_message {} default .none 4
    ⟨640, 480, .bgra8Srgb, none, 1⟩ none none {} (by decide) (by decide) (by decide)
    (by decide +kernel) (by decide +kernel)
  obtain ⟨s, frames, hrun, hcommands, hlength, hframes⟩ := hruns [.tick, .tick]
  have hone : (run [.tick, .tick] (new {} default, Recorder.fresh .none 4
      ⟨640, 480, .bgra8Srgb, none, 1⟩ none none, ({} : Journal))).all (·.2.1.frames == 1) := by
    decide +kernel
  rw [hrun, Option.all_some, beq_iff_eq, ← hlength] at hone
  obtain ⟨frame, rfl⟩ := List.length_eq_one_iff.1 hone
  have hcentered : (Fallback.ofConfig {}).text.centered? (Fallback.ofConfig {}).message 640 480 =
      some ⟨2, 14⟩ := by decide +kernel
  have hscale : (Fallback.ofConfig {}).text.scale = ⟨2, 2⟩ := by decide +kernel
  have hmessage : (Fallback.ofConfig {}).message = "This demo needs MultipleRenderTarget" := by
    decide +kernel
  obtain rfl : place = ⟨2, 14⟩ := Option.some.inj (hplace.symm.trans hcentered)
  rw [hscale, hmessage] at hshows
  refine ⟨batches, s, hbatches, hshows, hrun, ?_⟩
  rw [hcommands, List.flatten_singleton]
  obtain hframe | ⟨-, hirregular⟩ := hframes frame List.mem_cons_self
  · exact hframe
  · simp [Call.IsRegular] at hirregular

end Application

end RenderTargets
