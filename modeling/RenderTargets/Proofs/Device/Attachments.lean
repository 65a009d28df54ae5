import RenderTargets.Proofs.Recorder.Moments
import RenderTargets.Proofs.Vulkan.Lives
import RenderTargets.Proofs.Vulkan.Provenance
/-!
# What passes can rely on

Two moments decide whether a pass renders into images that fit: when it is made, and when it begins.
Both devices look at textures then, each in a way of its own, and **both look at less than there is
to see**.

When a pass is made, all textures rendered into are compared, size and samples. The texture for
depth is not: the recorder asks that it is alive and has a depth buffer, and a Vulkan device asks
for its size as well, but not for its samples (`createPass_attachments`). So the shape of a pass may
declare other samples than its depth buffer has.

When a pass begins, a Vulkan device looks at the textures rendered into, and the recorder just at
the first of them. All others may have been released since the pass was made, and then its
framebuffer holds views that were destroyed (`beginPass_attachments`).
-/

namespace RenderTargets

open StepWith GraphicsDevice

variable {desc : PassDesc} {q : PassId} {action : PassAction}
  {l : List (GraphicsDevice.Command × Option ResourceId)}

/-! ### A new pass of the recorder -/

namespace Recorder

/-- The textures rendered into are alive and alike, and the texture for depth has a depth buffer. -/
structure Joins (r : Recorder) (desc : PassDesc) (first : TextureDesc) : Prop where
  /-- The first of them. -/
  found : ∃ x ∈ desc.textures, r.textures.get? x = some first
  /-- All of them. -/
  colors : ∀ x ∈ desc.textures, ∃ t, r.textures.get? x = some t ∧ t.Alike first
  /-- The texture for depth. -/
  depth : ∀ x, desc.depth = some x → ∃ t, r.textures.get? x = some t ∧ t.depth.isSome

variable {r r' : Recorder} {j : Log.Journal} {s u : Recorder × Log.Journal}

theorem Joins.of_checks {r : Recorder} (hvalid : desc.validate r.maxColors = .ok ())
    (hcolors : r.checkAttachments none desc.textures = .ok ())
    (hdepth : r.checkDepth desc.depth = .ok ()) : ∃ first, r.Joins desc first := by
  obtain ⟨first, hfirst⟩ := checkAttachments_eq_ok_iff.1 hcolors
  obtain ⟨x, hx⟩ : ∃ x, x ∈ desc.textures :=
    List.exists_mem_of_ne_nil _ (by simpa [PassDesc.textures] using
      (PassDesc.length_of_validate hvalid).1)
  obtain ⟨t, ht, hlike⟩ := hfirst x hx
  refine ⟨t, ⟨x, hx, ht⟩, fun y hy ↦ ?_, fun y hy ↦ checkDepth_eq_ok_iff.1 (hy ▸ hdepth)⟩
  obtain ⟨u, hu, hlike'⟩ := hfirst y hy
  exact ⟨u, hu, hlike'.trans hlike.symm⟩

/-- A pass that the recorder makes. -/
theorem joins_of_createPass (h : GraphicsDevice.createPass desc s = .ok q u) :
    ∃ first, u.1.Joins desc first := by
  obtain ⟨r', hr, rfl⟩ := answer_ok_iff.1 (answer_createPass h)
  cases hr with
  | createPass hvalid hcolors hdepth =>
    obtain ⟨first, hjoins⟩ := Joins.of_checks hvalid hcolors hdepth
    exact ⟨first, hjoins.found, hjoins.colors, hjoins.depth⟩

end Recorder

/-! ### A new pass of a Vulkan device -/

namespace Vulkan

open Run

variable {calls : List Call} {d : Device} {m : TextureMap} {parts : Pass.Parts} {p : Pass}
  {first t : Texture} {v : Object .view}

/-- The image behind the view has the size of the pass and the samples of its attachment. Only a
depth buffer may have other samples, as its texture has. -/
def Suits (m : TextureMap) (desc : PassDesc) (first : Texture) (calls : List Call) (a : Attachment)
    (v : Object .view) : Prop :=
  v.IsBacked first.extent a.samples calls ∨
    ∃ x t, desc.depth = some x ∧ m.get? x = some t ∧ t.depthView? = some v ∧
      t.samples ≠ first.samples ∧ v.IsBacked first.extent t.samples calls

/-- The textures rendered into are alive and alike, the texture for depth has a depth buffer of
their size, and images that suit were put together. -/
structure Device.Joins (calls : List Call) (d : Device) (desc : PassDesc) (p : Pass)
    (first : Texture) : Prop where
  /-- The first of them. -/
  found : ∃ x ∈ desc.textures, d.textures.get? x = some first
  /-- All of them. -/
  colors : ∀ x ∈ desc.textures, ∃ t, d.textures.get? x = some t ∧ t.isLike first
  /-- The texture for depth. -/
  depth : ∀ x, desc.depth = some x →
    ∃ t, d.textures.get? x = some t ∧ t.depth.isSome ∧ t.extent = first.extent
  /-- The shape of the pass and its images. -/
  images : ∃ set views, .createRenderPass p.renderPass set ∈ calls ∧
    .createFramebuffer p.framebuffer ⟨p.renderPass, views, first.extent⟩ ∈ calls ∧
    List.Forall₂ (Suits d.textures desc first calls) set.attachments views

/-- The samples of a pass are those of its first texture, and all are resolved or none. -/
theorem Pass.full_of_partsOf (h : partsOf desc m = .ok parts) :
    parts.samples = parts.first.samples ∧
      (parts.resolves = true → ∀ t ∈ parts.colors, t.resolve.isSome) := by
  rw [partsOf] at h
  obtain ⟨colors, -, h⟩ := exists_ok_of_bind h
  cases colors with
  | nil => cases h
  | cons first rest =>
    obtain ⟨⟨⟩, -, h⟩ := exists_ok_of_bind h
    obtain ⟨depth, -, h⟩ := exists_ok_of_bind h
    simp only at h
    split at h
    · split at h
      · cases h
      · next _ hnone =>
        have hfind := Option.eq_none_iff_forall_ne_some.2 hnone
        split at h
        · cases h
        · next samples hsamples =>
          cases h
          refine ⟨eq_of_sampleFlag? hsamples, fun _ t ht ↦ ?_⟩
          simpa [Option.isSome_iff_ne_none] using List.find?_eq_none.1 hfind t ht
    · next hr =>
      split at h
      · cases h
      · next samples hsamples =>
        cases h
        exact ⟨eq_of_sampleFlag? hsamples, fun hr' ↦ (hr hr').elim⟩

/-- What is there for every element is there in the same order. -/
theorem forall₂_filterMap {α β γ : Type} {R : β → γ → Prop} {f : α → β} {g : α → Option γ}
    {l : List α} (h : ∀ a ∈ l, ∃ c, g a = some c ∧ R (f a) c) :
    List.Forall₂ R (l.map f) (l.filterMap g) := by
  induction l with
  | nil => exact .nil
  | cons a l ih =>
    obtain ⟨c, hc, hr⟩ := h a List.mem_cons_self
    rw [List.map_cons, List.filterMap_cons_some hc]
    exact .cons hr (ih fun b hb ↦ h b (List.mem_cons_of_mem a hb))

section Images

variable (hbacked : ∀ x t, m.get? x = some t → t.IsBacked calls) (hfit : parts.Fit desc m)
include hbacked hfit

/-- The textures rendered into have images of one size and one number of samples. -/
theorem Pass.Parts.Fit.backed (ht : t ∈ parts.colors) :
    t.color.view.IsBacked parts.first.extent parts.first.samples calls ∧
      ∀ i, t.resolve = some i → i.view.IsBacked parts.first.extent 1 calls := by
  obtain ⟨x, -, hx⟩ := Pass.id_of_colorTextures hfit.colors t ht
  obtain ⟨hextent, hsamples, -⟩ := isLike_iff.1 (hfit.isLike t ht)
  have ht := hbacked x t hx
  exact ⟨hextent ▸ hsamples ▸ ht.color, fun i hi ↦ hextent ▸ ht.resolve i hi⟩

/-- The depth buffer suits the pass, or its texture has other samples. -/
theorem Pass.Parts.Fit.suits_depth {f : Format} {i : Image} {a : Attachment}
    (ht : parts.depth = some t) (hi : t.depth = some (f, i))
    (ha : a.samples = parts.first.samples) : Suits m desc parts.first calls a i.view := by
  rcases Pass.depthTexture_eq_ok hfit.depth with ⟨-, hnone⟩ | ⟨x, u, hx, hu, hfound, -, hextent⟩
  · cases ht.symm.trans hnone
  obtain rfl := Option.some.inj (ht.symm.trans hu)
  have hview := (hbacked x t hfound).depth f i hi
  by_cases hsamples : t.samples = parts.first.samples
  · refine .inl ?_
    rwa [ha, ← hextent, ← hsamples]
  · refine .inr ⟨x, t, hx, hfound, ?_, hsamples, hextent ▸ hview⟩
    rw [Texture.depthView?, hi, Option.map_some]

/-- The images of a new pass suit its shape, one by one. -/
theorem Pass.suits_viewsOf {ctx : Context} (hparts : partsOf desc m = .ok parts) :
    List.Forall₂ (Suits m desc parts.first calls)
      (layoutOf ctx desc parts).attachmentSet.attachments (viewsOf parts) := by
  obtain ⟨hsamples, hresolve⟩ := full_of_partsOf hparts
  refine List.rel_append (List.rel_append ?_ ?_) ?_
  · rw [PassLayout.colorAttachments, layoutOf, List.map_map, List.forall₂_map_left_iff,
      List.forall₂_map_right_iff, List.forall₂_same]
    intro t ht
    exact .inl (hsamples ▸ (hfit.backed hbacked ht).1)
  · rw [PassLayout.resolveAttachments]
    by_cases hr : parts.resolves
    · rw [if_pos hr, if_pos (show (layoutOf ctx desc parts).resolve from hr), layoutOf,
        List.map_map]
      refine forall₂_filterMap fun t ht ↦ ?_
      obtain ⟨i, hi⟩ := Option.isSome_iff_exists.1 (hresolve hr t ht)
      exact ⟨i.view, by rw [hi, Option.map_some], .inl ((hfit.backed hbacked ht).2 i hi)⟩
    · rw [if_neg hr, if_neg (show ¬(layoutOf ctx desc parts).resolve from hr)]
      exact .nil
  · rcases hdepth : parts.depth with _ | t
    · simp [layoutOf, hdepth]
    rcases hi : t.depth with _ | ⟨f, i⟩
    · simp [layoutOf, hdepth, Texture.depthFormat?, Texture.depthView?, hi]
    · have hsuits := hfit.suits_depth hbacked hdepth hi
        (a := (layoutOf ctx desc parts).depthAttachment (ctx.formatCode f)) hsamples
      simpa [layoutOf, hdepth, Texture.depthFormat?, Texture.depthView?, hi] using hsuits

end Images

/-- A pass that a device makes. -/
theorem Device.joins_of_createPass {s u : Device × Host} (hs : Device.Reached l s)
    (h : GraphicsDevice.createPass desc s = .ok q u) :
    ∃ p first, u.1.passes.get? q = some p ∧ Joins u.2.driver.calls u.1 desc p first := by
  have htook := answer_createPass h
  have hbacked := (Reached.provenance (hs.taken htook)).textures
  have hupdates := meets_updates.ok ⟨rfl, trivial⟩ htook
  revert hbacked hupdates
  generalize u.2.driver.calls = calls
  generalize u.1 = d
  intro hbacked hupdates
  cases hupdates with
  | @createPass _ _ parts p _ hparts hmade hjoined hi =>
    have hfit := Pass.fit_of_partsOf hparts
    obtain ⟨rest, hcolors, -⟩ := hfit.alike
    have hfirst : parts.first ∈ parts.colors := hcolors ▸ List.mem_cons_self
    refine ⟨p, parts.first, Slot.Map.get?_insert?_self hi,
      { found := Pass.id_of_colorTextures hfit.colors _ hfirst
        colors := fun x hx ↦ ?_
        depth := fun x hx ↦ ?_
        images := ⟨_, _, hjoined.renderPass, hjoined.framebuffer,
          Pass.suits_viewsOf hbacked hfit hparts⟩ }⟩
    · obtain ⟨t, ht, hfound⟩ := exists_of_colorTextures hfit.colors x hx
      exact ⟨t, hfound, hfit.isLike t ht⟩
    · rcases Pass.depthTexture_eq_ok hfit.depth with ⟨hnone, -⟩ | ⟨y, t, hy, -, hfound, ht⟩
      · cases hx.symm.trans hnone
      · obtain rfl := Option.some.inj (hx.symm.trans hy)
        exact ⟨t, hfound, ht⟩

/-! ### A pass that begins -/

/-- The command was recorded after the trace `past`, and nothing was made since. -/
def RecordedAfter (past : List Call) (r : Recorded) (calls : List Call) : Prop :=
  ∃ later b, calls = later ++ .record b r :: past ∧ ∀ c ∈ later, c.made? = none

theorem RecordedAfter.alive {past : List Call} {r : Recorded} {x : Holding}
    (h : RecordedAfter past r calls) (hx : Alive calls x) : Alive past x := by
  obtain ⟨later, b, rfl, hlater⟩ := h
  induction later with
  | nil =>
    rcases hx with hmade | ⟨hx, -⟩
    · cases hmade
    · exact hx
  | cons c later ih =>
    obtain ⟨hc, hlater⟩ := List.forall_mem_cons.1 hlater
    rcases hx with hmade | ⟨hx, -⟩
    · cases hc.symm.trans hmade
    · exact ih hlater hx

namespace Device

variable {α : Type} {base : List Call} {s u : Device × Host} {r : Recorded}

/-- The trace begins with what it was before. -/
abbrev Extends (base : List Call) (s : Device × Host) : Prop := base <:+ s.2.driver.calls

/-- Since the trace was `base`, the command was recorded, and then nothing was made. -/
def RecordedSince (base : List Call) (r : Recorded) (s : Device × Host) : Prop :=
  ∃ past, base <:+ past ∧ RecordedAfter past r s.2.driver.calls

theorem extends_lift {x : Run α} (hx : Keeps (fun h ↦ base <:+ h.driver.calls) x) :
    Keeps (Extends base) (liftM x : DeviceStep α) :=
  Meets.snd fun _ ↦ hx

theorem extends_work {action : String} {name : CallName} {c : Call} :
    Keeps (fun h ↦ base <:+ h.driver.calls) (work action (Driver.perform name c)) := by
  refine meets_work (fun h _ d hh hd ↦ ?_) (fun h _ d hh hd ↦ ?_) fun _ _ hh ↦ hh
  · exact Driver.perform_ok hd ▸ hh.trans (List.suffix_cons _ _)
  · exact Driver.perform_error hd ▸ hh.trans (List.suffix_cons _ _)

theorem extends_ensureFrame : Keeps (Extends base) ensureFrame := by
  have hslot : Keeps (Extends base) slot := meets_look fun _ ↦ .orTrap fun _ _ _ hs ↦ hs
  refine meets_look fun _ ↦ ?_
  refine .ite (fun _ ↦ .bind hslot fun f ↦ ?_) fun _ ↦ .pure fun _ hs ↦ hs
  have hbegin : Keeps (fun h ↦ base <:+ h.driver.calls) f.begin := by
    refine .bind extends_work fun _ ↦ ?_
    refine .bind extends_work fun _ ↦ ?_
    exact .bind extends_work fun _ ↦ extends_work
  exact .bind (extends_lift hbegin) fun _ ↦ Meets.update fun _ hs ↦ hs

/-- What is recorded comes last in the trace. -/
theorem meets_record_of {P : Device × Host → Prop} {Q : Unit → Device × Host → Prop}
    {E : EngineError → Device × Host → Prop}
    (h : ∀ b s, P s → Q () (s.1, { s.2 with driver := s.2.driver.push (.record b r) })) :
    Meets P (record r) Q E := by
  refine .bind (Q := fun _ ↦ P) (meets_look fun _ ↦ .orTrap fun _ _ _ hs ↦ hs) fun f ↦ ?_
  exact Meets.snd fun d k hk ↦ h f.commands (d, k) hk

theorem meets_recordBegin_after {extent : Extent} {t : Target} :
    Meets (Extends base) (recordBegin extent t)
      (fun _ ↦ RecordedSince base
        (.beginPass ⟨t.pass, t.framebuffer, extent.rect, t.clears⟩)) fun _ _ ↦ True := by
  have hmore (b r : Recorded) :
      Meets (RecordedSince base b) (record r) (fun _ ↦ RecordedSince base b) fun _ _ ↦ True := by
    refine meets_record_of ?_
    rintro o s ⟨past, hpast, later, b', hcalls, hlater⟩
    exact ⟨past, hpast, .record o r :: later, b', congrArg (_ :: ·) hcalls,
      List.forall_mem_cons.2 ⟨rfl, hlater⟩⟩
  refine .orTrap_bind fun _ _ ↦ .bind (meets_record_of fun b s hs ↦ ?_) fun _ ↦
    .bind (hmore _ _) fun _ ↦ hmore _ _
  exact ⟨_, hs, [], b, rfl, List.forall_mem_nil _⟩

/-- A pass into textures is begun in its framebuffer, if its textures to render into are alive. -/
theorem meets_beginPass_offscreen :
    Meets (RunOn.At d fun k ↦ base <:+ k.driver.calls) (beginPass (some q) action)
      (fun _ s ↦ ∃ p, d.passes.get? q = some p ∧ (∀ x ∈ p.textures, d.textures.contains x) ∧
        RecordedSince base
          (.beginPass ⟨p.renderPass, p.framebuffer, p.extent.rect, p.clearValues action⟩) s)
      fun _ _ ↦ True := by
  refine RunOn.meets_part_bind <| .ite (fun _ ↦ .refuse_bind fun _ _ _ ↦ trivial) fun _ ↦ ?_
  refine .bind (.ofChecked (Q := fun t s ↦ d.offscreenTarget q action = .ok t ∧ Extends base s)
    (fun t ht _ hs ↦ ⟨ht, hs.2⟩) fun _ _ _ _ ↦ trivial) fun ⟨active, target⟩ ↦ .assume fun ht ↦ ?_
  have henter : Meets (Extends base) (do
      recordBegin active.extent target
      RunOn.change ({ · with active := some active }) : DeviceStep Unit)
      (fun _ ↦ RecordedSince base
        (.beginPass ⟨target.pass, target.framebuffer, active.extent.rect, target.clears⟩))
      fun _ _ ↦ True :=
    .bind meets_recordBegin_after fun _ ↦ Meets.update fun _ hs ↦ hs
  refine Meets.post (.bind extends_ensureFrame.lax fun _ ↦ henter) fun _ s hs ↦ ?_
  rw [offscreenTarget] at ht
  split at ht
  · next p hp =>
    split at ht
    · cases ht
    · next hlive =>
      cases ht
      refine ⟨p, hp, fun x hx ↦ ?_, hs⟩
      simp only [List.any_eq_true, not_exists, not_and, Bool.not_eq_true] at hlive
      simpa using hlive x hx
  · cases ht

end Device

/-- A pass that a device begins. -/
theorem Device.shows_of_beginPass {s u : Device × Host} (hs : Device.Reached l s)
    (h : GraphicsDevice.beginPass (some q) action s = .ok () u) :
    ∃ p past d views, s.1.passes.get? q = some p ∧ s.2.driver.calls <:+ past ∧
      RecordedAfter past
        (.beginPass ⟨p.renderPass, p.framebuffer, p.extent.rect, p.clearValues action⟩)
        u.2.driver.calls ∧
      p.Shows d views past ∧ (∀ x ∈ d.textures, s.1.textures.contains x) ∧
      Attached l q d (fun x ↦ s.1.textures.contains x ∧ ∀ v ∈ views x, Alive past ⟨v.any, none⟩)
        fun x ↦ s.1.textures.contains x := by
  obtain ⟨p, hp, hlive, past, hpast, hrecorded⟩ :=
    meets_beginPass_offscreen.ok ⟨rfl, List.suffix_rfl⟩ h
  obtain ⟨d, views, hshows, hattached⟩ := (Reached.provenance hs).passes q p hp
  refine ⟨p, past, d, views, hp, hpast, hrecorded, p.lasts_shows hpast.subset hshows,
    hshows.textures ▸ hlive, hattached.mono ?_ fun _ hx ↦ hx⟩
  rintro x ⟨t, ht, hviews⟩
  refine ⟨Option.isSome_of_eq_some ht, fun v hv ↦ ?_⟩
  -- Nothing ended since the pass began, so what is alive now was alive then.
  have hleaves : s.1.Leaves u.1 := leaves_beginPass.ok (Leaves.refl s.1) h
  obtain ⟨mark, hmark⟩ := hleaves.stays ht
  have hsound := Reached.sound (hs.taken (answer_beginPass h))
  exact hrecorded.alive (alive_view hsound hmark (hviews ▸ hv))

end Vulkan

namespace Recorder

variable {s u : Recorder × Log.Journal}

/-- A pass that the recorder begins. -/
theorem attached_of_beginPass (hs : Reached l s)
    (h : GraphicsDevice.beginPass (some q) action s = .ok () u) :
    ∃ d, s.1.passes.get? q = some d ∧ (∃ x ∈ d.textures.head?, s.1.textures.contains x) ∧
      Attached l q d (fun x ↦ s.1.textures.contains x) fun x ↦ s.1.textures.contains x := by
  obtain ⟨r', hr, -⟩ := answer_ok_iff.1 (answer_beginPass h)
  cases hr with
  | beginPass _ hbegins =>
    obtain ⟨d, head, rest, first, hd, htextures, hfirst, -⟩ := beginOffscreen_eq_ok_iff.1 hbegins
    exact ⟨d, hd, ⟨head, by rw [htextures]; rfl, Option.isSome_of_eq_some hfirst⟩, hs.attached hd⟩

end Recorder

namespace GraphicsDevice

/-! ### Small passes -/

/-- Two textures, the second of which has a depth buffer. -/
def twoTextures (size samples : UInt32) : List Command :=
  [.createTexture ⟨"color", 4, 4, .rgba8Unorm, .sampledAndRenderTarget, 1, none⟩,
   .createTexture
     ⟨"depth", size, size, .rgba8Unorm, .sampledAndRenderTarget, samples, some .depth24Stencil8⟩]

/-- A pass that renders into the first texture, with the depth buffer of the second. -/
def depthPass : PassDesc := ⟨"pass", [⟨⟨1, 1⟩, .black⟩], some ⟨2, 1⟩, .one, 0, .store⟩

/-- A pass that renders into both textures. -/
def colorsPass : PassDesc :=
  ⟨"pass", [⟨⟨1, 1⟩, .black⟩, ⟨⟨2, 1⟩, .black⟩], none, .one, 0, .store⟩

/-- The state is as `check` wants, and the step answers. -/
def takes {σ α : Type} (x : Step σ α) (check : σ → Bool) (s : σ) : Bool :=
  check s && match x s with
    | .ok _ _ => true
    | .error _ _ => false

theorem takes_iff {σ α : Type} {x : Step σ α} {check : σ → Bool} {s : σ} :
    takes x check s ↔ check s ∧ ∃ a t, x s = .ok a t := by
  rw [takes, Bool.and_eq_true]
  split <;> next hx => simp [hx]

/-- A new recorder is given some commands, is then as `check` wants, and takes one more step. -/
theorem exists_recorder {α : Type} (commands : List Command)
    (x : Step (Recorder × Log.Journal) α) (check : Recorder × Log.Journal → Bool)
    (h : (settleAll (commands.map Command.answer)
      ((.fresh .every 4 ⟨640, 480, .bgra8Srgb, none, 1⟩ none none, {}) :
        Recorder × Log.Journal)).any (takes x check)) :
    ∃ l s a u, Recorder.Reached l s ∧ (l.map Prod.fst).Sublist commands ∧ check s ∧
      x s = .ok a u := by
  obtain ⟨s, hs, htakes⟩ := exists_accepted Recorder.IsFresh Recorder.Drains
    ⟨_, _, _, _, _, rfl⟩ h
  obtain ⟨hcheck, a, u, hu⟩ := takes_iff.1 htakes
  exact ⟨_, s, a, u, hs, sublist_accepted, hcheck, hu⟩

/-- A new Vulkan device is given commands, is then as `check` wants, and takes one more step. -/
theorem exists_device {α : Type} (commands : List Command)
    (x : Step (Vulkan.Device × Vulkan.Host) α) (check : Vulkan.Device × Vulkan.Host → Bool)
    (h : ∃ s, Vulkan.Device.IsNew s ∧
      (settleAll (commands.map Command.answer) s).any (takes x check)) :
    ∃ l s a u, Vulkan.Device.Reached l s ∧ (l.map Prod.fst).Sublist commands ∧ check s ∧
      x s = .ok a u := by
  obtain ⟨s₀, hs₀, h⟩ := h
  obtain ⟨s, hs, htakes⟩ := exists_accepted Vulkan.Device.IsNew Vulkan.Device.Happens hs₀ h
  obtain ⟨hcheck, a, u, hu⟩ := takes_iff.1 htakes
  exact ⟨_, s, a, u, hs, sublist_accepted, hcheck, hu⟩

/-! ### Both devices -/

/-- **What is known of the textures of a new pass.** Those rendered into are alive and alike. That
for depth is alive and has a depth buffer, on a Vulkan device of the same size, and a framebuffer of
images that suit the shape of the pass was made. -/
theorem createPass_attachments (desc : PassDesc) (q : PassId) :
    (∀ s u : Recorder × Log.Journal, createPass desc s = .ok q u → ∃ first, u.1.Joins desc first) ∧
      ∀ l (s u : Vulkan.Device × Vulkan.Host), Vulkan.Device.Reached l s →
        createPass desc s = .ok q u →
          ∃ p first, u.1.passes.get? q = some p ∧ u.1.Joins u.2.driver.calls desc p first :=
  ⟨fun _ _ ↦ Recorder.joins_of_createPass, fun _ _ _ hs ↦ Vulkan.Device.joins_of_createPass hs⟩

/-- Both devices make a pass of two textures of the same size and samples. -/
theorem createPass_attachments_depthPass :
    (∃ q, ∃ s u : Recorder × Log.Journal, createPass depthPass s = .ok q u ∧
      ∃ first, u.1.Joins depthPass first) ∧
      ∃ q l, ∃ s u : Vulkan.Device × Vulkan.Host, Vulkan.Device.Reached l s ∧
        createPass depthPass s = .ok q u ∧
        ∃ p first, u.1.passes.get? q = some p ∧ u.1.Joins u.2.driver.calls depthPass p first := by
  constructor
  · obtain ⟨-, s, q, u, -, -, -, hu⟩ := exists_recorder (twoTextures 4 1)
      (createPass depthPass) (fun _ ↦ true) (by decide +kernel)
    exact ⟨q, s, u, hu, (createPass_attachments depthPass q).1 s u hu⟩
  · obtain ⟨l, s, q, u, hs, -, -, hu⟩ := exists_device (twoTextures 4 1)
      (createPass depthPass) (fun _ ↦ true)
      (Vulkan.Device.exists_new Vulkan.Device.plainSurface [] _ (by decide +kernel))
    exact ⟨q, l, s, u, hs, hu, (createPass_attachments depthPass q).2 l s u hs hu⟩

/-- A recorder makes a pass whose depth buffer is of another size, and a Vulkan device one whose
depth buffer has other samples. -/
theorem createPass_attachments_unlike :
    (∃ q l, ∃ s u : Recorder × Log.Journal, Recorder.Reached l s ∧
      createPass depthPass s = .ok q u ∧
      ∃ color depth, s.1.textures.get? ⟨1, 1⟩ = some color ∧
        s.1.textures.get? ⟨2, 1⟩ = some depth ∧ color.width ≠ depth.width) ∧
      ∃ q l, ∃ s u : Vulkan.Device × Vulkan.Host, Vulkan.Device.Reached l s ∧
        createPass depthPass s = .ok q u ∧
        ∃ color depth, s.1.textures.get? ⟨1, 1⟩ = some color ∧
          s.1.textures.get? ⟨2, 1⟩ = some depth ∧ color.samples ≠ depth.samples := by
  constructor
  · obtain ⟨l, s, q, u, hs, -, hcheck, hu⟩ := exists_recorder (twoTextures 8 1)
      (createPass depthPass) (fun s ↦ (s.1.textures.get? ⟨1, 1⟩).any fun color ↦
        (s.1.textures.get? ⟨2, 1⟩).any fun depth ↦ color.width != depth.width) (by decide +kernel)
    obtain ⟨color, hcolor, hcheck⟩ := (Option.any_eq_true _ _).1 hcheck
    obtain ⟨depth, hdepth, hne⟩ := (Option.any_eq_true _ _).1 hcheck
    exact ⟨q, l, s, u, hs, hu, color, depth, hcolor, hdepth, bne_iff_ne.1 hne⟩
  · obtain ⟨l, s, q, u, hs, -, hcheck, hu⟩ := exists_device (twoTextures 4 4)
      (createPass depthPass) (fun s ↦ (s.1.textures.get? ⟨1, 1⟩).any fun color ↦
        (s.1.textures.get? ⟨2, 1⟩).any fun depth ↦ color.samples != depth.samples)
      (Vulkan.Device.exists_new Vulkan.Device.plainSurface [] _ (by decide +kernel))
    obtain ⟨color, hcolor, hcheck⟩ := (Option.any_eq_true _ _).1 hcheck
    obtain ⟨depth, hdepth, hne⟩ := (Option.any_eq_true _ _).1 hcheck
    exact ⟨q, l, s, u, hs, hu, color, depth, hcolor, hdepth, bne_iff_ne.1 hne⟩

/-- **What is known of the textures of a pass that begins.** A Vulkan device finds those rendered
into alive, and the recorder the first of them. Any other texture is as it was when the pass was
made, and so its views are alive, or it was released since. -/
theorem beginPass_attachments (q : PassId) (action : PassAction) :
    (∀ l (s u : Recorder × Log.Journal), Recorder.Reached l s →
      beginPass (some q) action s = .ok () u →
        ∃ d, s.1.passes.get? q = some d ∧ (∃ x ∈ d.textures.head?, s.1.textures.contains x) ∧
          Attached l q d (fun x ↦ s.1.textures.contains x) fun x ↦ s.1.textures.contains x) ∧
      ∀ l (s u : Vulkan.Device × Vulkan.Host), Vulkan.Device.Reached l s →
        beginPass (some q) action s = .ok () u →
          ∃ p past d views, s.1.passes.get? q = some p ∧ s.2.driver.calls <:+ past ∧
            Vulkan.RecordedAfter past
              (.beginPass ⟨p.renderPass, p.framebuffer, p.extent.rect, p.clearValues action⟩)
              u.2.driver.calls ∧
            p.Shows d views past ∧ (∀ x ∈ d.textures, s.1.textures.contains x) ∧
            Attached l q d
              (fun x ↦ s.1.textures.contains x ∧
                ∀ v ∈ views x, Vulkan.Alive past ⟨v.any, none⟩)
              fun x ↦ s.1.textures.contains x :=
  ⟨fun _ _ _ hs ↦ Recorder.attached_of_beginPass hs,
    fun _ _ _ hs ↦ Vulkan.Device.shows_of_beginPass hs⟩

/-- If no texture was released, all textures of a pass that begins are alive, and so are the images
of its framebuffer. -/
theorem beginPass_attachments_kept :
    (∃ l d, ∃ s u : Recorder × Log.Journal, Recorder.Reached l s ∧
      beginPass (some ⟨1, 1⟩) {} s = .ok () u ∧ s.1.passes.get? ⟨1, 1⟩ = some d ∧
      ∀ x, d.Attaches x → s.1.textures.contains x) ∧
      ∃ l past info, ∃ p : Vulkan.Pass, ∃ s u : Vulkan.Device × Vulkan.Host,
        Vulkan.Device.Reached l s ∧ beginPass (some ⟨1, 1⟩) {} s = .ok () u ∧
        Vulkan.RecordedAfter past
          (.beginPass ⟨p.renderPass, p.framebuffer, p.extent.rect, p.clearValues {}⟩)
          u.2.driver.calls ∧
        .createFramebuffer p.framebuffer info ∈ past ∧
        ∀ v ∈ info.views, Vulkan.Alive past ⟨v.any, none⟩ := by
  have hkept {l : List (Command × Option ResourceId)}
      (hl : (l.map Prod.fst).Sublist (twoTextures 4 1 ++ [.createPass depthPass])) (x : TextureId) :
      .destroy (.texture x) ∉ l.map Prod.fst := fun hx ↦ by
    have hmem := hl.subset hx
    simp [twoTextures] at hmem
  constructor
  · obtain ⟨l, s, ⟨⟩, u, hs, hl, -, hu⟩ := exists_recorder
      (twoTextures 4 1 ++ [.createPass depthPass])
      (beginPass (some ⟨1, 1⟩) {}) (fun _ ↦ true) (by decide +kernel)
    obtain ⟨d, hd, -, hattached⟩ := (beginPass_attachments ⟨1, 1⟩ {}).1 l s u hs hu
    exact ⟨l, d, s, u, hs, hu, hd, hattached.stays_of_notMem (hkept hl)⟩
  · obtain ⟨l, s, ⟨⟩, u, hs, hl, -, hu⟩ := exists_device
      (twoTextures 4 1 ++ [.createPass depthPass])
      (beginPass (some ⟨1, 1⟩) {}) (fun _ ↦ true)
      (Vulkan.Device.exists_new Vulkan.Device.plainSurface [] _ (by decide +kernel))
    obtain ⟨p, past, d, views, -, -, hrecorded, hshows, -, hattached⟩ :=
      (beginPass_attachments ⟨1, 1⟩ {}).2 l s u hs hu
    obtain ⟨info, hinfo, hviews⟩ := hshows.framebuffer
    refine ⟨l, past, info, p, s, u, hs, hu, hrecorded, hinfo, fun v hv ↦ ?_⟩
    obtain ⟨x, hx, hv⟩ := hviews v hv
    exact (hattached.stays_of_notMem (hkept hl) x hx).2 v hv

/-- A recorder begins a pass whose second texture was released, and a Vulkan device one whose depth
buffer was: the framebuffer has a view that was destroyed. -/
theorem beginPass_attachments_released :
    (∃ l d, ∃ s u : Recorder × Log.Journal, Recorder.Reached l s ∧
      beginPass (some ⟨1, 1⟩) {} s = .ok () u ∧ s.1.passes.get? ⟨1, 1⟩ = some d ∧
      ∃ x ∈ d.textures, ¬s.1.textures.contains x) ∧
      ∃ l past info, ∃ p : Vulkan.Pass, ∃ s u : Vulkan.Device × Vulkan.Host,
        Vulkan.Device.Reached l s ∧ beginPass (some ⟨1, 1⟩) {} s = .ok () u ∧
        Vulkan.RecordedAfter past
          (.beginPass ⟨p.renderPass, p.framebuffer, p.extent.rect, p.clearValues {}⟩)
          u.2.driver.calls ∧
        .createFramebuffer p.framebuffer info ∈ past ∧
        ∃ v ∈ info.views, .destroy v.any ∈ past := by
  constructor
  · obtain ⟨l, s, ⟨⟩, u, hs, -, hcheck, hu⟩ := exists_recorder
      (twoTextures 4 1 ++ [.createPass colorsPass, .destroy (.texture ⟨2, 1⟩)])
      (beginPass (some ⟨1, 1⟩) {}) (fun s ↦ (s.1.passes.get? ⟨1, 1⟩).any fun d ↦
        d.textures.any fun x ↦ !s.1.textures.contains x) (by decide +kernel)
    obtain ⟨d, hd, hcheck⟩ := (Option.any_eq_true _ _).1 hcheck
    obtain ⟨x, hx, hdead⟩ := List.any_eq_true.1 hcheck
    exact ⟨l, d, s, u, hs, hu, hd, x, hx, by simpa using hdead⟩
  · obtain ⟨l, s, ⟨⟩, u, hs, -, hcheck, hu⟩ := exists_device
      (twoTextures 4 1 ++ [.createPass depthPass, .destroy (.texture ⟨2, 1⟩)])
      (beginPass (some ⟨1, 1⟩) {}) (fun s ↦ (s.1.passes.get? ⟨1, 1⟩).any fun p ↦
        (Vulkan.Making.framebuffer.of? p.framebuffer s.2.driver.calls).any fun info ↦
          info.views.any fun v ↦ s.2.driver.calls.contains (.destroy v.any))
      (Vulkan.Device.exists_new Vulkan.Device.plainSurface [] _ (by decide +kernel))
    obtain ⟨p, hp, hcheck⟩ := (Option.any_eq_true _ _).1 hcheck
    obtain ⟨info, hinfo, hcheck⟩ := (Option.any_eq_true _ _).1 hcheck
    obtain ⟨v, hv, hdestroyed⟩ := List.any_eq_true.1 hcheck
    obtain ⟨p', past, -, -, hp', hpast, hrecorded, -⟩ := Vulkan.Device.shows_of_beginPass hs hu
    obtain rfl := Option.some.inj (hp.symm.trans hp')
    exact ⟨l, past, info, p, s, u, hs, hu, hrecorded,
      hpast.subset (Vulkan.Making.mem_of_of?_eq_some hinfo), v, hv,
      hpast.subset (List.contains_iff_mem.1 hdestroyed)⟩

end GraphicsDevice

end RenderTargets
