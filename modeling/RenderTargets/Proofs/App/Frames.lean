import Mathlib.Logic.Function.Iterate
import RenderTargets.Proofs.App.Scene
import RenderTargets.Proofs.App.Runs
import RenderTargets.Proofs.Shape.Mesh
/-!
# Frames of the application

What a frame is, as a list of commands, and that drawing on a recorder records exactly that list.

The scene is drawn with seventeen commands, of which only the matrix of the cube depends on the
number of the frame. What the recorder checks is what `Scene.Made` says of the resources: the
pipelines have the signatures of the passes, and the pass into the surfaces has resolved them before
they are sampled. The fallback message is drawn with one command for each color of its rectangles,
the same in every frame, because the text buffer is empty again after it.
-/

namespace RenderTargets.App

open Function Log StepWith Recorder

/-! ### The frames -/

/-- The commands for the surface at `i` on the screen. -/
def Scene.panelCommands (s : Scene) (config : Config) (i : Nat) (surface : TextureId) :
    List Command :=
  [.viewport ⟨(UInt32.ofNat i * config.targetWidth).toInt32, 0, config.targetWidth,
      config.targetHeight⟩ false,
    .drawState
      { pipeline := s.composite.pipeline, mesh := s.composite.mesh, textures := [surface] },
    .draw 0]

/-- The commands of the `k`-th frame of the scene. -/
def Scene.frame (s : Scene) (config : Config) (k : Nat) : List Command :=
  [.beginPass (some s.targets.pass) config.clearColors,
    .drawState { pipeline := s.offscreen.pipeline, mesh := s.offscreen.mesh },
    .uniforms .vertex (CubeTransform.advance^[k] (.ofConfig config)).matrix.bytes,
    .draw 0,
    .endPass,
    .beginPass none [config.displayClearColor]] ++
  s.panelCommands config 0 s.targets.first ++
  s.panelCommands config 1 s.targets.second ++
  s.panelCommands config 2 s.targets.third ++
  [.endPass, .commitFrame]

/-- The rectangles of the message in the middle of a screen, by color. -/
def Fallback.batches? (f : Fallback) (display : Display) : Option (List Text.Batch) := do
  let place ← f.text.centered? f.message display.width display.height
  let text ← { f.text with cursor := place }.print? f.message
  text.layout?

/-- The commands of every frame of the message. Where the message does not fit the words of its
coordinates, drawing it traps. -/
def fallbackFrame (config : Config) (display : Display) : List Command :=
  .beginPass none [config.fallbackClearColor] ::
    (((Fallback.ofConfig config).batches? display).getD []).map
      (fun b ↦ .fillRects b.color b.rects) ++
    [.endPass, .commitFrame]

/-! ### Drawing the scene -/

variable {r : Recorder} {j : Journal} {config : Config} {shaders : Shaders} {scene : Scene}

/-- The recorder with more commands, in another pass or in none. -/
def wrote (r : Recorder) (active : Option ActivePass) (commands : List Command) : Recorder :=
  { r with active, commands := r.commands ++ commands }

theorem wrote_wrote (a a' : Option ActivePass) (cs cs' : List Command) :
    wrote (wrote r a cs) a' cs' = wrote r a' (cs ++ cs') := by
  simp only [wrote, List.append_assoc]

/-- The cube is one box, which is one group. -/
theorem groups_of_cube {d : MeshDesc} (h : Offscreen.cube = .ok d) : d.groups.length = 1 := by
  rw [Offscreen.cube] at h
  obtain ⟨mesh, hmesh, hd⟩ := exists_ok_of_bind h
  obtain rfl := Except.ok.inj hd
  obtain ⟨-, -, indices, -, groups, hgroups, -, rfl⟩ := ShapeBuilder.build_eq_ok_iff.1 hmesh
  exact ShapeBuilder.length_of_groupsFrom? hgroups

/-- The pass into the surfaces begins with their three colors. -/
theorem begins_targets {t : Targets} (h : t.Made (builderFor r.features config) r) :
    r.begins (some t.pass) {} =
      .ok ({ pass := some t.pass
             signature := ⟨UInt32.ofNat targetCount, targetColorFormat, some targetDepthFormat,
               (builderFor r.features config).samples⟩
             attachments := t.surfaces }, config.clearColors) := by
  refine beginOffscreen_eq_ok_iff.2 ⟨_, t.first, [t.second, t.third], _, h.pass, rfl, h.first, ?_⟩
  have hdepth : (some t.first).bind (fun t ↦ (r.textures.get? t).bind (·.depth)) =
      some targetDepthFormat := by
    simp only [Option.bind_some, h.first]
    rfl
  simp only [TargetsBuilder.passDesc, PassDesc.ofTargets, hdepth]
  rfl

/-- The cube is drawn into the surfaces, and they are resolved if they have several samples. -/
theorem draw_offscreen {shader : ShaderDesc} {t : Targets} {o : Offscreen}
    (ht : t.Made (builderFor r.features config) r)
    (ho : o.Made shader config (builderFor r.features config).samples r) (idle : r.active = none)
    (transform : CubeTransform) :
    Offscreen.draw { o with transform } t (r, j) = .ok ()
      ({ wrote r none [.beginPass (some t.pass) config.clearColors,
          .drawState { pipeline := o.pipeline, mesh := o.mesh },
          .uniforms .vertex transform.matrix.bytes, .draw 0, .endPass] with
        resolved := if (builderFor r.features config).samples > 1 then r.resolved ++ t.surfaces
          else r.resolved }, j) := by
  obtain ⟨d, hcube, hmesh, hpipeline⟩ := ho.mesh
  have hgroup : 0 < (r.meshes.get? o.mesh).elim 0 (·.groups.length) := by
    rw [hmesh, Option.elim_some, groups_of_cube hcube]
    exact Nat.one_pos
  have hcontains : r.meshes.contains o.mesh := by rw [Slot.Map.contains, hmesh, Option.isSome_some]
  have hstore : ((builderFor r.features config).storeAction == .resolve) =
      decide ((builderFor r.features config).samples > 1) := by
    rw [TargetsBuilder.storeAction]
    by_cases hs : (builderFor r.features config).samples > 1
    · rw [if_pos hs, decide_eq_true hs]
      rfl
    · rw [if_neg hs, decide_eq_false hs]
      rfl
  have hbegin := (Accepts.beginPass idle (begins_targets ht)).perform (j := j)
  rw [Offscreen.draw]
  refine (bind_ok hbegin).trans ?_
  refine (bind_ok (Accepts.applyDrawState rfl hpipeline hcontains
    (fun _ h ↦ absurd h List.not_mem_nil) (fun _ h ↦ absurd h List.not_mem_nil)
    rfl).perform).trans ?_
  refine (bind_ok (Accepts.applyUniforms rfl rfl).perform).trans ?_
  refine (bind_ok (Accepts.draw rfl rfl hgroup).perform).trans ?_
  refine ((Accepts.endPass rfl).perform).trans ?_
  simp only [resolvesAtEnd, ht.pass, Option.any_some, TargetsBuilder.passDesc, hstore,
    decide_eq_true_eq, wrote, List.append_assoc]
  rfl

/-- A surface that was resolved, or needs not be, can be sampled. -/
theorem samples_of_made {b : TargetsBuilder} {t : Targets} (h : t.Made b r)
    (hr : b.samples > 1 → ∀ id ∈ t.surfaces, id ∈ r.resolved) :
    ∀ id ∈ t.surfaces, r.Samples id := by
  intro id hid
  have hid' := hid
  simp only [Targets.surfaces, List.mem_cons, List.not_mem_nil, or_false] at hid'
  rcases hid' with rfl | rfl | rfl
  · exact ⟨_, h.first, fun hs ↦ hr hs _ hid⟩
  · exact ⟨_, h.second, fun hs ↦ hr hs _ hid⟩
  · exact ⟨_, h.third, fun hs ↦ hr hs _ hid⟩

/-- The commands for a panel. -/
def Composite.panelCommands (c : Composite) (p : TextureId × Rect) : List Command :=
  [.viewport p.2 false,
    .drawState { pipeline := c.pipeline, mesh := c.mesh, textures := [p.1] }, .draw 0]

/-- Panels are drawn in a pass into the screen. -/
theorem draw_panels {shader : ShaderDesc} {t : Targets} {c : Composite}
    (hc : c.Made shader t config r) (panels : List (TextureId × Rect))
    (hs : ∀ p ∈ panels, r.Samples p.1) (a : ActivePass) (cs : List Command)
    (ha : a.attachments = [])
    (hfits : a.signature = ⟨1, r.display.colorFormat, r.display.depthFormat, r.display.samples⟩) :
    ∃ drawState, c.drawPanels panels (wrote r (some a) cs, j) = .ok ()
      (wrote r (some { a with drawState }) (cs ++ panels.flatMap c.panelCommands), j) := by
  induction panels generalizing a cs with
  | nil => exact ⟨a.drawState, by simp [Composite.drawPanels, pure, EStateM.pure]⟩
  | cons p rest ih =>
    obtain ⟨texture, place⟩ := p
    have hcontains : r.meshes.contains c.mesh := by rw [Slot.Map.contains, hc.mesh]; rfl
    have hgroup : 0 < (r.meshes.get? c.mesh).elim 0 (·.groups.length) := by
      rw [hc.mesh]
      exact Nat.one_pos
    let state : DrawState := { pipeline := c.pipeline, mesh := c.mesh, textures := [texture] }
    let a' : ActivePass := { a with drawState := some state }
    have hview : (wrote r (some a) cs).Accepts (.applyViewport place false) none
        (wrote r (some a) (cs ++ [.viewport place false])) :=
      wrote_wrote (some a) (some a) cs _ ▸ .applyViewport rfl
    have hbind (ds : List Command) : (wrote r (some a) ds).Accepts (.applyDrawState state) none
        (wrote r (some a') (ds ++ [.drawState state])) := by
      refine wrote_wrote (some a) (some a') ds _ ▸ .applyDrawState rfl hc.pipeline hcontains ?_ ?_
        hfits.symm
      · rintro id hid
        rw [List.mem_singleton.1 hid]
        exact hs (texture, place) List.mem_cons_self
      · simp [ha]
    have hdraw (ds : List Command) : (wrote r (some a') ds).Accepts (.draw 0) none
        (wrote r (some a') (ds ++ [.draw 0])) :=
      wrote_wrote (some a') (some a') ds _ ▸ .draw rfl rfl hgroup
    obtain ⟨drawState, hrest⟩ := ih (fun p hp ↦ hs p (List.mem_cons_of_mem _ hp)) a'
      (cs ++ [.viewport place false] ++ [.drawState state] ++ [.draw 0]) ha hfits
    refine ⟨drawState, ?_⟩
    rw [Composite.drawPanels]
    refine (bind_ok hview.perform).trans <| (bind_ok (hbind _).perform).trans <|
      (bind_ok (hdraw _).perform).trans <| hrest.trans ?_
    simp [Composite.panelCommands, a', state]

/-- A pass into the screen ends and resolves nothing. -/
theorem accepts_endScreen {a : ActivePass} (ha : a.pass = none) (cs : List Command) :
    (wrote r (some a) cs).Accepts .endPass none (wrote r none (cs ++ [.endPass])) := by
  have h := Accepts.endPass (r := wrote r (some a) cs) rfl
  simpa [wrote, resolvesAtEnd, ha] using h

/-- The panels are drawn on the screen. -/
theorem draw_composite {shader : ShaderDesc} {t : Targets} {c : Composite}
    (hc : c.Made shader t config r) (idle : r.active = none)
    (hs : ∀ p ∈ c.panels, r.Samples p.1) :
    c.draw (r, j) = .ok () (wrote r none
      ([.beginPass none [config.displayClearColor]] ++ c.panels.flatMap c.panelCommands ++
        [.endPass]), j) := by
  obtain ⟨drawState, hpanels⟩ := draw_panels (j := j) hc c.panels hs
    (r.beginScreen (.clear c.clearColor)).1 [.beginPass none [config.displayClearColor]] rfl rfl
  have hbegin : r.Accepts (.beginPass none (.clear c.clearColor)) none
      (wrote r (some (r.beginScreen (.clear c.clearColor)).1)
        [.beginPass none [config.displayClearColor]]) :=
    .beginPass idle (hc.clearColor ▸ rfl)
  rw [Composite.draw]
  exact (bind_ok hbegin.perform).trans <| (bind_ok hpanels).trans <|
    (accepts_endScreen rfl _).perform

theorem eq_of_mul? {a b c : UInt32} (h : Word.mul? a b = some c) : c = a * b := by
  rw [Word.mul?, Word.unsigned?] at h
  split at h
  · cases h
    simp
  · cases h

/-- The panels stand side by side. -/
theorem places_of_panels? {width height : UInt32} {places : List Rect}
    (h : panels? width height = some places) :
    places = [⟨(UInt32.ofNat 0 * width).toInt32, 0, width, height⟩,
      ⟨(UInt32.ofNat 1 * width).toInt32, 0, width, height⟩,
      ⟨(UInt32.ofNat 2 * width).toInt32, 0, width, height⟩] := by
  have hpanel : ∀ i p, panel? width height i = some p →
      p = ⟨(UInt32.ofNat i * width).toInt32, 0, width, height⟩ := by
    intro i p hp
    obtain ⟨x, hx, hp⟩ := Option.bind_eq_some_iff.1 hp
    rw [← eq_of_mul? hx, ← Option.some.inj hp]
  simp only [panels?, targetCount, List.range, List.range.loop, List.mapM_cons, List.mapM_nil,
    Option.bind_eq_bind, Option.bind_eq_some_iff, Option.pure_def, Option.some.injEq] at h
  obtain ⟨p, hp, _, ⟨q, hq, _, ⟨s, hs, _, rfl, rfl⟩, rfl⟩, rfl⟩ := h
  rw [hpanel 0 p hp, hpanel 1 q hq, hpanel 2 s hs]

/-! ### Frames of the scene -/

/-- The recorder after another frame: with its commands, and one more committed. -/
def framed (r : Recorder) (commands : List Command) (resolved : List TextureId) : Recorder :=
  { r with
    active := none
    commands := r.commands ++ commands
    resolved
    frames := r.frames + 1
    quit := r.quit || r.quitAfter.any (· ≤ r.frames + 1) }

/-- A frame is committed. -/
theorem accepts_commitFrame (cs : List Command) (resolved : List TextureId) :
    ({ wrote r none cs with resolved } : Recorder).Accepts .commitFrame none
      (framed r (cs ++ [.commitFrame]) resolved) := by
  have h := Accepts.commitFrame (r := { wrote r none cs with resolved }) rfl
  rw [framed, ← List.append_assoc]
  exact h

/-- The scene where the cube moved `k` times. -/
def Scene.after (s : Scene) (config : Config) (k : Nat) : Scene :=
  { s with
    offscreen := { s.offscreen with transform := CubeTransform.advance^[k] (.ofConfig config) } }

/-- The textures that count as resolved after a frame. -/
def Scene.resolved (s : Scene) (config : Config) (r : Recorder) : List TextureId :=
  if (builderFor r.features config).samples > 1 then r.resolved ++ s.targets.surfaces
  else r.resolved

theorem change_ok {σ : Type} (f : Application → Application) (a : Application) (s : σ) :
    Application.change f (a, s) = .ok () (f a, s) :=
  rfl

/-- Both stages, one after the other. -/
theorem draw_scene (hs : scene.Made config shaders r) (idle : r.active = none) (k : Nat) :
    ∃ r₁, (scene.after config k).offscreen.draw scene.targets (r, j) = .ok () (r₁, j) ∧
      scene.composite.draw (r₁, j) = .ok ()
        ({ wrote r none (scene.frame config k).dropLast with
          resolved := scene.resolved config r }, j) := by
  let r₁ : Recorder :=
    { wrote r none [.beginPass (some scene.targets.pass) config.clearColors,
          .drawState { pipeline := scene.offscreen.pipeline, mesh := scene.offscreen.mesh },
          .uniforms .vertex (CubeTransform.advance^[k] (.ofConfig config)).matrix.bytes,
          .draw 0, .endPass] with
      resolved := scene.resolved config r }
  obtain ⟨places, hplaces, hpanels⟩ := hs.composite.panels
  have htargets : scene.targets.Made (builderFor r.features config) r₁ :=
    ⟨hs.targets.first, hs.targets.second, hs.targets.third, hs.targets.pass, hs.targets.samples⟩
  have hcomposite : scene.composite.Made shaders.quad scene.targets config r₁ :=
    ⟨hs.composite.mesh, hs.composite.shader, hs.composite.pipeline, ⟨places, hplaces, hpanels⟩,
      hs.composite.clearColor⟩
  have hsamples : ∀ id ∈ scene.targets.surfaces, r₁.Samples id := by
    refine samples_of_made htargets fun hmany id hid ↦ ?_
    have hresolved : r₁.resolved = r.resolved ++ scene.targets.surfaces := if_pos hmany
    rw [hresolved]
    exact List.mem_append_right _ hid
  refine ⟨r₁, draw_offscreen hs.targets hs.offscreen idle _, ?_⟩
  refine (draw_composite hcomposite rfl ?_).trans ?_
  · intro p hp
    rw [hpanels] at hp
    exact hsamples _ (List.of_mem_zip hp).1
  · rw [hpanels, places_of_panels? hplaces]
    simp [wrote, r₁, Scene.frame, Scene.panelCommands, Composite.panelCommands, Targets.surfaces]

/-- A frame of the scene never fails, and its commands are those of the frame. -/
theorem running_scene {a : Application} (hs : scene.Made config shaders r) (idle : r.active = none)
    (k : Nat) (ha : a.mode = some (.scene (scene.after config k))) {r' : Recorder}
    (hr' : r' = framed r (scene.frame config (k + 1)) (scene.resolved config r)) :
    Application.onRunning (a, r, j) = .ok (if r'.quit then .cleanup else .running)
      ({ a with mode := some (.scene (scene.after config (k + 1))) }, r', j) := by
  have hadvance : (scene.after config k).offscreen.advance =
      (scene.after config (k + 1)).offscreen := by
    simp only [Scene.after, Offscreen.advance, iterate_succ_apply']
  obtain ⟨r₁, hoffscreen, hcomposite⟩ := draw_scene (j := j) hs idle (k + 1)
  have hmode : Application.drawMode (a, r, j) = .ok ()
      ({ a with mode := some (.scene (scene.after config (k + 1))) },
        { wrote r none (scene.frame config (k + 1)).dropLast with
          resolved := scene.resolved config r }, j) := by
    rw [Application.drawMode, get_bind_apply]
    simp only [ha, hadvance]
    exact (bind_ok (change_ok _ a (r, j))).trans <| (bind_ok (within_snd_ok hoffscreen)).trans <|
      within_snd_ok hcomposite
  have hcommit : { wrote r none (scene.frame config (k + 1)).dropLast with
      resolved := scene.resolved config r }.Accepts .commitFrame none r' :=
    hr' ▸ accepts_commitFrame (scene.frame config (k + 1)).dropLast _
  rw [Application.onRunning]
  exact (bind_ok hmode).trans (bind_ok (within_snd_ok hcommit.perform))

/-! ### Frames of the message -/

/-- The message with the cursor somewhere and nothing waiting to be drawn. -/
def Fallback.at (config : Config) (cursor : Text.Cell) : Fallback :=
  { Fallback.ofConfig config with text := { (Fallback.ofConfig config).text with cursor } }

theorem put_keeps {t t' : DebugText} {c : Char} (h : t.put c = some t') :
    t'.scale = t.scale ∧ t'.color = t.color := by
  rw [DebugText.put] at h
  split at h
  · obtain ⟨row, -, h⟩ := Option.bind_eq_some_iff.1 h
    cases h
    exact ⟨rfl, rfl⟩
  · split at h
    · cases h
      exact ⟨rfl, rfl⟩
    · obtain ⟨column, -, h⟩ := Option.bind_eq_some_iff.1 h
      cases h
      exact ⟨rfl, rfl⟩

/-- Printing changes neither scale nor color. -/
theorem putAll_keeps {t t' : DebugText} {cs : List Char} (h : t.putAll cs = some t') :
    t'.scale = t.scale ∧ t'.color = t.color := by
  induction cs generalizing t with
  | nil =>
    cases h
    exact ⟨rfl, rfl⟩
  | cons c rest ih =>
    obtain ⟨t₁, ht₁, h⟩ := Option.bind_eq_some_iff.1 h
    obtain ⟨hscale, hcolor⟩ := put_keeps ht₁
    obtain ⟨hscale', hcolor'⟩ := ih h
    exact ⟨hscale'.trans hscale, hcolor'.trans hcolor⟩

/-- Each batch is filled. -/
theorem fill_batches (batches : List Text.Batch) (a : ActivePass) (cs : List Command) :
    DebugText.fillBatches batches (wrote r (some a) cs, j) =
      .ok () (wrote r (some a) (cs ++ batches.map fun b ↦ .fillRects b.color b.rects), j) := by
  induction batches generalizing cs with
  | nil => simp [DebugText.fillBatches, pure, EStateM.pure]
  | cons b rest ih =>
    have hfill : (wrote r (some a) cs).Accepts (.fillRects b.color b.rects) none
        (wrote r (some a) (cs ++ [.fillRects b.color b.rects])) :=
      wrote_wrote (some a) (some a) cs _ ▸ .fillRects rfl
    rw [DebugText.fillBatches]
    refine (bind_ok hfill.perform).trans ((ih _).trans ?_)
    simp

/-- Text with rectangles is drawn and forgotten, other text traps. -/
theorem flush_text (t : DebugText) (a : ActivePass) (cs : List Command) :
    (∃ s, DebugText.flush (t, wrote r (some a) cs, j) = .error .trap s) ∧ t.layout? = none ∨
    ∃ batches, t.layout? = some batches ∧
      DebugText.flush (t, wrote r (some a) cs, j) = .ok () ({ t with placed := [] },
        wrote r (some a) (cs ++ batches.map fun b ↦ .fillRects b.color b.rects), j) := by
  rw [DebugText.flush, get_bind_apply]
  rcases t.layout? with _ | batches
  · exact .inl ⟨⟨_, bind_error rfl⟩, rfl⟩
  · refine .inr ⟨batches, rfl, ?_⟩
    exact (bind_ok rfl).trans <| (bind_ok (within_snd_ok (fill_batches batches a cs))).trans rfl

/-- The message is drawn where its rectangles can be computed, and traps elsewhere. Afterwards the
text buffer is empty. -/
theorem draw_fallback (f : Fallback) (idle : r.active = none) :
    (f.batches? r.display = none ∧ ∃ s, Fallback.draw (f, r, j) = .error .trap s) ∨
    ∃ batches text, f.batches? r.display = some batches ∧
      (text.scale = f.text.scale ∧ text.color = f.text.color ∧ text.placed = []) ∧
      Fallback.draw (f, r, j) = .ok () ({ f with text }, wrote r none
        ([.beginPass none [f.clearColor]] ++ batches.map (fun b ↦ .fillRects b.color b.rects) ++
          [.endPass]), j) := by
  let a := (r.beginScreen (.clear f.clearColor)).1
  have hbegin : r.Accepts (.beginPass none (.clear f.clearColor)) none
      (wrote r (some a) [.beginPass none [f.clearColor]]) := .beginPass idle rfl
  rw [Fallback.draw, get_bind_apply]
  simp only [Fallback.batches?]
  have hdisplay : GraphicsDevice.display (r, j) = r.display := rfl
  rw [hdisplay]
  rcases f.text.centered? f.message r.display.width r.display.height with _ | place
  · exact .inl ⟨rfl, _, bind_error rfl⟩
  -- The steps up to the text, whatever comes of it.
  have hprint : ∀ (k : DebugText → Step (Fallback × Recorder × Journal) Unit),
      ((StepWith.orTrap (some place) : Step (Fallback × Recorder × Journal) Text.Cell) >>=
        fun place ↦ StepWith.within .snd (GraphicsDevice.beginPass none (.clear f.clearColor) :
          Recording Unit) >>= fun _ ↦
        StepWith.orTrap ({ f.text with cursor := place }.print? f.message) >>= k) (f, r, j) =
      (StepWith.orTrap ({ f.text with cursor := place }.print? f.message) >>= k)
        (f, wrote r (some a) [.beginPass none [f.clearColor]], j) :=
    fun k ↦ (bind_ok rfl).trans (bind_ok (within_snd_ok hbegin.perform))
  rw [hprint]
  rcases htext : { f.text with cursor := place }.print? f.message with _ | text
  · exact .inl ⟨by simp [htext], _, bind_error (congrArg (fun t ↦ StepWith.orTrap t _) htext)⟩
  obtain ⟨hscale, hcolor⟩ := putAll_keeps htext
  have hstored (k : Step (Fallback × Recorder × Journal) Unit) :
      (StepWith.orTrap ({ f.text with cursor := place }.print? f.message) >>= fun text ↦
        (modify fun s ↦ ({ s.1 with text }, s.2)) >>= fun _ ↦ k)
          (f, wrote r (some a) [.beginPass none [f.clearColor]], j) =
      k ({ f with text }, wrote r (some a) [.beginPass none [f.clearColor]], j) :=
    (bind_ok (congrArg (fun t ↦ StepWith.orTrap t _) htext)).trans (bind_ok rfl)
  refine (flush_text (r := r) (j := j) text a [.beginPass none [f.clearColor]]).imp ?_ ?_
  · rintro ⟨⟨s, hflush⟩, hlayout⟩
    exact ⟨by simp [htext, hlayout], _, (hstored _).trans (bind_error (within_error hflush))⟩
  · rintro ⟨batches, hbatches, hflush⟩
    refine ⟨batches, { text with placed := [] }, ?_, ⟨hscale, hcolor, rfl⟩, (hstored _).trans ?_⟩
    · simp [htext, hbatches]
    exact (bind_ok (within_ok hflush)).trans (within_snd_ok (accepts_endScreen rfl _).perform)

/-- The frame of the message, or a trap. The message is ready for another one. -/
theorem running_fallback {a : Application} {cursor : Text.Cell}
    (ha : a.mode = some (.fallback (.at config cursor))) (idle : r.active = none) :
    ((Fallback.ofConfig config).batches? r.display = none ∧
      ∃ s, Application.onRunning (a, r, j) = .error .trap s) ∨
    ∃ cursor' r', r' = framed r (fallbackFrame config r.display) r.resolved ∧
      Application.onRunning (a, r, j) = .ok (if r'.quit then .cleanup else .running)
        ({ a with mode := some (.fallback (.at config cursor')) }, r', j) := by
  have hmode (s : Application × Recorder × Journal) (hs : s = (a, r, j)) :
      Application.drawMode s = Application.drawFallback (.at config cursor) s := by
    subst hs
    rw [Application.drawMode, get_bind_apply]
    simp only [ha]
  rw [Application.onRunning]
  refine (draw_fallback (j := j) (.at config cursor) idle).imp ?_ ?_
  · rintro ⟨hbatches, ⟨f, d⟩, hdraw⟩
    exact ⟨hbatches, _, bind_error ((hmode _ rfl).trans (within_error hdraw))⟩
  · rintro ⟨batches, text, hbatches, ⟨hscale, hcolor, hplaced⟩, hdraw⟩
    -- The cursor is all that is left of the text.
    have htext : ⟨text, (Fallback.at config cursor).message,
        (Fallback.at config cursor).clearColor⟩ = Fallback.at config text.cursor := by
      obtain ⟨scale, color, cursor, placed⟩ := text
      cases hscale
      cases hcolor
      cases hplaced
      rfl
    have hframe : fallbackFrame config r.display =
        ([.beginPass none [config.fallbackClearColor]] ++
          batches.map (fun b ↦ .fillRects b.color b.rects) ++ [.endPass]) ++ [.commitFrame] := by
      have hsame : (Fallback.ofConfig config).batches? r.display = some batches := hbatches
      rw [fallbackFrame, hsame]
      simp
    have hdrawn : Application.drawMode (a, r, j) = .ok ()
        ({ a with mode := some (.fallback (.at config text.cursor)) },
          wrote r none (fallbackFrame config r.display).dropLast, j) := by
      rw [hframe, List.dropLast_concat, ← htext]
      exact (hmode _ rfl).trans (within_ok (t := (_, _, j)) hdraw)
    have hcommit : (wrote r none (fallbackFrame config r.display).dropLast).Accepts
        .commitFrame none (framed r (fallbackFrame config r.display) r.resolved) := by
      rw [hframe, List.dropLast_concat]
      exact accepts_commitFrame _ _
    exact ⟨text.cursor, _, rfl,
      (bind_ok hdrawn).trans (bind_ok (within_snd_ok hcommit.perform))⟩

/-! ### Frames of either -/

/-- Drawing leaves the resources of the scene alone. -/
theorem Scene.Made.drawn {s : Scene} (h : s.Made config shaders r) (active : Option ActivePass)
    (resolved : List TextureId) (commands : List Command) (frames : Nat) (quit : Bool) :
    s.Made config shaders { r with active, resolved, commands, frames, quit } :=
  ⟨⟨h.targets.first, h.targets.second, h.targets.third, h.targets.pass, h.targets.samples⟩,
    ⟨h.offscreen.mesh, h.offscreen.shader, h.offscreen.transform⟩,
    ⟨h.composite.mesh, h.composite.shader, h.composite.pipeline, h.composite.panels,
      h.composite.clearColor⟩⟩

/-- The commands of the `k`-th frame. -/
def Mode.frame (config : Config) (display : Display) : Mode → Nat → List Command
  | .scene s, k => s.frame config k
  | .fallback _, _ => fallbackFrame config display

/-- The rectangles of a frame can be computed. -/
def Mode.Drawable (config : Config) (display : Display) : Mode → Prop
  | .scene _ => True
  | .fallback _ => ((Fallback.ofConfig config).batches? display).isSome

/-- After `k` frames the application shows what it showed at first, where that is by now. -/
def Mode.Ready (config : Config) (shaders : Shaders) (k : Nat) (a : Application) (r : Recorder) :
    Mode → Prop
  | .scene s => s.Made config shaders r ∧ a.mode = some (.scene (s.after config k))
  | .fallback _ => ∃ cursor, a.mode = some (.fallback (.at config cursor))

/-- Only what is shown matters, and what the scene is made of. -/
theorem Mode.Ready.drawn {m : Mode} {k : Nat} {a a' : Application}
    (h : m.Ready config shaders k a r)
    (ha : a'.mode = a.mode) (active : Option ActivePass) (resolved : List TextureId)
    (commands : List Command) (frames : Nat) (quit : Bool) :
    m.Ready config shaders k a' { r with active, resolved, commands, frames, quit } := by
  cases m with
  | scene s => exact ⟨h.1.drawn .., ha.trans h.2⟩
  | fallback f => exact h.imp fun _ ↦ ha.trans

/-- A frame records its commands, unless it traps, and the application is ready for another one. -/
theorem running_of_ready {a : Application} {m : Mode} {k : Nat} (h : m.Ready config shaders k a r)
    (idle : r.active = none) :
    (¬m.Drawable config r.display ∧ ∃ s, Application.onRunning (a, r, j) = .error .trap s) ∨
    ∃ mode resolved r', r' = framed r (m.frame config r.display (k + 1)) resolved ∧
      m.Ready config shaders (k + 1) { a with mode } r' ∧
      Application.onRunning (a, r, j) = .ok (if r'.quit then .cleanup else .running)
        ({ a with mode }, r', j) := by
  cases m with
  | scene s =>
    obtain ⟨hs, ha⟩ := h
    exact .inr ⟨_, _, _, rfl, ⟨hs.drawn .., rfl⟩, running_scene hs idle k ha rfl⟩
  | fallback f =>
    obtain ⟨cursor, ha⟩ := h
    refine (running_fallback (j := j) ha idle).imp ?_ ?_
    · exact fun ⟨hbatches, htrap⟩ ↦ ⟨by simp [Mode.Drawable, hbatches], htrap⟩
    · rintro ⟨cursor', r', hr', hrun⟩
      exact ⟨_, _, r', hr', ⟨cursor', rfl⟩, hrun⟩

end RenderTargets.App
