import RenderTargets.Proofs.Vulkan.Device.Estate
import RenderTargets.Vulkan.Device.Commands
/-!
# Commands keep a device sound

Commands make nothing but descriptor sets, so their part is to pass only what is alive: what a
command names was found in the device, and what is in the device is alive. Beginning and committing
a frame are also where fences are waited for and the screen is built anew.
-/

namespace RenderTargets.Vulkan.Device

open StepWith Run

variable {always now : Prop} {d : Device} {α : Type} {P : Host → Prop}

/-! ### Recording -/

theorem meets_slot {E : EngineError → Device × Host → Prop} :
    Meets (RunOn.At d P) slot (fun f s ↦ f ∈ d.slots ∧ RunOn.At d P s) E :=
  RunOn.meets_part_bind <| .orTrap fun _ hf _ hp ↦ ⟨List.mem_of_getElem? hf, hp⟩

/-- A command that needs a pass goes on with the active one. -/
theorem meets_activePass_bind {command : String} {x : ActivePass → DeviceStep α}
    {Q : α → Device × Host → Prop} {E : EngineError → Device × Host → Prop}
    (hE : ∀ s j, RunOn.At d P s →
      E (.backend (.outsidePass command)) (Log.HasJournal.journal.set j s))
    (h : ∀ a, d.active = some a → Meets (RunOn.At d P) (x a) Q E) :
    Meets (RunOn.At d P) (activePass command >>= x) Q E := by
  refine .bind (Q := fun a s ↦ d.active = some a ∧ RunOn.At d P s) (RunOn.meets_part_bind ?_)
    fun a ↦ .assume (h a)
  split
  · next a ha => exact .pure fun _ hs ↦ ⟨ha, hs⟩
  · exact .refuse hE

/-- Textures that are bound are alive and can be sampled, and the views are theirs. -/
theorem meets_sampledViews {E : EngineError → Device × Host → Prop}
    (hfail : ∀ e s, RunOn.At d P s → E e s)
    (hrefuse : ∀ e s j, RunOn.At d P s → E e (Log.HasJournal.journal.set j s))
    (ids : List TextureId) :
    Meets (RunOn.At d P) (sampledViews ids)
      (fun views s ↦ ((∀ id ∈ ids, ∃ t, d.textures.get? id = some t ∧ t.isSampleable) ∧
        ∀ v ∈ views, ∃ id t, d.textures.get? id = some t ∧ t.sampledView? = some v) ∧
        RunOn.At d P s) E := by
  induction ids with
  | nil => exact .pure fun _ hs ↦ ⟨⟨List.forall_mem_nil _, List.forall_mem_nil _⟩, hs⟩
  | cons id rest ih =>
    refine RunOn.meets_part_bind ?_
    split
    · exact .fail (hfail _)
    · next t ht =>
      refine .ite (fun _ ↦ .refuse_bind (hrefuse _)) fun hsample ↦ ?_
      refine .bind ih fun views ↦ .assume fun hrest ↦ .pure fun _ hs ↦ ⟨⟨?_, fun v hv ↦ ?_⟩, hs⟩
      · exact List.forall_mem_cons.2 ⟨⟨t, ht, by simpa using hsample⟩, hrest.1⟩
      · rcases List.mem_append.1 hv with hv | hv
        · exact ⟨id, t, ht, Option.mem_toList.1 hv⟩
        · exact hrest.2 v hv

/-- A command may be recorded if all that it names is alive. -/
theorem meets_record {c : Recorded} {E : EngineError → Device × Host → Prop}
    (hP : ∀ h, P h → d.Owns now h)
    (hu : ∀ h, P h → ∀ o ∈ c.uses, o.IsOwned → ∃ x, Alive h.driver.calls x ∧ x.object = o) :
    Meets (RunOn.At d P) (record c) (fun _ ↦ RunOn.At d (d.Owns now)) E := by
  refine .bind meets_slot fun f ↦ .assume fun hf ↦ ?_
  have hpush : Meets P (Run.record f.commands c) (fun _ ↦ d.Owns now) fun _ _ ↦ False := by
    refine meets_changeDriver fun h hh ↦ (hP h hh).push ⟨rfl, rfl, rfl⟩ trivial fun o ho ↦ ?_
    rcases List.mem_cons.1 ho with rfl | ho
    · exact Books.covered (hP h hh) (covers_slot hf f.covers_commands)
    · exact hu h hh o ho
  exact (RunOn.meets_lift hpush).mono (fun _ hp ↦ hp) (fun _ _ hp ↦ hp) fun _ _ hno ↦ hno.2.elim

/-- A command may be recorded if all that it names is in the device. -/
theorem meets_record_of_covers {c : Recorded} {E : EngineError → Device × Host → Prop}
    (hu : ∀ o ∈ c.uses, d.estate.Covers o) :
    Meets (RunOn.At d (d.Owns now)) (record c) (fun _ ↦ RunOn.At d (d.Owns now)) E :=
  meets_record (fun _ hh ↦ hh) fun _ hh o ho ↦ Books.covered hh (hu o ho)

/-! ### Frames -/

theorem meets_ensureFrame (hd : d.Shape always) :
    Meets (RunOn.At d (d.Owns now)) ensureFrame
      (fun _ s ↦ ∃ frame, s.1 = { d with frame } ∧ Sound always now s) fun _ ↦
        Sound always now := by
  have hsame : ∀ s, RunOn.At d (d.Owns now) s →
      ∃ frame, s.1 = { d with frame } ∧ Sound always now s :=
    fun s hp ↦ ⟨d.frame, hp.1, sound_of_at hd hp⟩
  refine RunOn.meets_part_bind (.ite (fun _ ↦ ?_) fun _ ↦ .pure hsame)
  refine .bind meets_slot fun f ↦ .assume fun hf ↦ ?_
  refine RunOn.meets_lift_bind (FrameSlot.keeps_begin (mem_fences hf) fun o ho ↦ covers_slot hf ho)
    (fun _ _ hh ↦ ⟨hd, hh⟩) fun _ ↦ RunOn.meets_change.post fun _ s hp ↦ ?_
  refine ⟨some {}, hp.1, sound_of_at (d := { d with frame := some {} }) ⟨hd.screen, ?_, ?_⟩ hp⟩
  · rintro f ⟨⟩ _
    rfl
  · rintro f ⟨⟩ hno
    cases hno

/-- What is done with the screen leaves the rest of the device alone. -/
theorem meets_onScreen {x : RunOn Swapchain α} {Q : α → Swapchain × Host → Prop}
    {R : α → Device × Host → Prop} {F : EngineError → Swapchain × Host → Prop}
    {E : EngineError → Device × Host → Prop} (h : Meets (RunOn.At d.screen P) x Q F)
    (hQ : ∀ a t k, Q a (t, k) → R a ({ d with screen := t }, k))
    (hE : ∀ e t k, F e (t, k) → E e ({ d with screen := t }, k)) :
    Meets (RunOn.At d P) (onScreen x) R E := by
  refine .within ?_
  rintro ⟨_, k⟩ ⟨rfl, hk⟩
  refine h.mono ?_ (fun a p hq ↦ hQ a p.1 p.2 hq) fun e p hf ↦ hE e p.1 p.2 hf
  rintro _ rfl
  exact ⟨rfl, hk⟩

theorem settled_mark {s : Swapchain} (h : s.IsSettled always) : s.mark.IsSettled always := by
  rcases h with h | ⟨h, hno⟩
  · exact .inl ⟨h.swapchain, h.views, h.framebuffers, h.renderFinished, h.depth⟩
  · exact .inr ⟨congrArg Swapchain.mark h, hno⟩

/-- A screen that was built anew is settled, as the surface has pixels if it always had. -/
theorem settled_of_rebuilt {s : Swapchain} (hnow : always → now)
    (h : Swapchain.Rebuilt (d.backdrop now) d.windowSize s) : s.IsSettled always := by
  obtain ⟨-, calls, offer, extent, hb, hx, hs⟩ := h
  split at hs
  · next hz =>
    refine .inr ⟨hs, fun halways ↦ ?_⟩
    have hpixels := Fenced.offer hb (hnow halways) extent hx
    exact hz.elim hpixels.1 hpixels.2
  · exact .inl hs

/-- The frame as it is after the screen was asked for an image, whatever became of the screen. -/
theorem shape_asked (hd : d.Shape always) {frame : FrameState} (hf : d.frame = some frame)
    (hn : frame.asked = false) {t : Swapchain} (ht : t.needsRebuild = false → t.IsSettled always) :
    ({ d with screen := t, frame := some { frame with asked := true } } : Device).Shape always where
  screen := ht
  asked := by
    rintro _ ⟨⟩ hno
    cases hno
  image := by
    rintro _ ⟨⟩ hsome
    rw [show frame.image = none from hd.asked frame hf hn] at hsome
    cases hsome

theorem meets_changeFrame_bind {f : FrameState → FrameState} {frame : FrameState}
    {y : Unit → DeviceStep α} {R : α → Device × Host → Prop}
    {E : EngineError → Device × Host → Prop}
    (hf : d.frame = some frame)
    (h : Meets (RunOn.At { d with frame := some (f frame) } P) (y ()) R E) :
    Meets (RunOn.At d P) (changeFrame f >>= y) R E := by
  refine RunOn.meets_change_bind ?_
  rw [hf]
  exact h

/-- A screen without a mark is asked for an image. It is settled, and stays so. -/
theorem meets_takeImage {frame : FrameState} {n : ℕ} (hd : d.Shape always)
    (hf : d.frame = some frame) (ha : frame.asked = true) (hm : d.screen.needsRebuild = false) :
    Meets (RunOn.At d (d.Owns now))
      (do
        let image ← onScreen (Swapchain.acquire n)
        changeFrame ({ · with image })
        return image)
      (fun _ ↦ Sound always now) fun _ ↦ Sound always now := by
  have hsettled : ∀ t, (t = d.screen ∨ t = d.screen.mark) → t.IsSettled always := by
    rintro _ (rfl | rfl)
    · exact hd.screen hm
    · exact settled_mark (hd.screen hm)
  have hshape : ∀ t image, (t = d.screen ∨ t = d.screen.mark) →
      ({ d with screen := t, frame := some { frame with image } } : Device).Shape always := by
    intro t image ht
    refine ⟨fun _ ↦ hsettled t ht, ?_, fun _ _ _ ↦ hsettled t ht⟩
    rintro _ ⟨⟩ hno
    rw [show frame.asked = false from hno] at ha
    cases ha
  refine .bind (meets_onScreen (R := fun _ s ↦ ∃ t, (t = d.screen ∨ t = d.screen.mark) ∧
    s.1 = { d with screen := t } ∧ Held (d.backdrop now) s.1.estate s.2)
    Swapchain.meets_acquire ?_ ?_) fun image ↦ ?_
  · rintro _ t k ⟨ht, hh⟩
    exact ⟨t, ht, rfl, hh⟩
  · rintro _ t k ⟨ht, hh⟩
    refine ⟨?_, hh⟩
    have hs := hshape t frame.image ht
    rwa [show ({ frame with image := frame.image } : FrameState) = frame from rfl, ← hf] at hs
  · rintro ⟨_, k⟩ ⟨t, ht, rfl, hh⟩
    have hlast : Meets (RunOn.At { d with screen := t } (Owns now { d with screen := t }))
        (do changeFrame ({ · with image }); return image) (fun _ ↦ Sound always now)
        fun _ ↦ Sound always now :=
      meets_changeFrame_bind hf (.pure fun _ hp ↦ sound_of_at (hshape t image ht) hp)
    exact hlast _ ⟨rfl, hh⟩

theorem keeps_screenImage (hnow : always → now) : Keeps (Sound always now) screenImage := by
  refine keeps_sound fun d hd ↦ RunOn.meets_part_bind ?_
  split
  · exact .refuse fun _ _ hp ↦ sound_of_at hd hp
  · next frame hf =>
    refine .ite (fun _ ↦ .pure fun _ hp ↦ sound_of_at hd hp) fun hn ↦ ?_
    refine meets_changeFrame_bind hf ?_
    have hn : frame.asked = false := Bool.eq_false_iff.2 hn
    refine .ite (fun hm ↦ ?_) fun hm ↦ ?_
    · let after (t : Swapchain) : Device :=
        { d with screen := t, frame := some { frame with asked := true } }
      refine .bind (meets_onScreen (R := fun _ s ↦ ∃ t, t.needsRebuild = false ∧
        t.IsSettled always ∧ RunOn.At (after t) ((after t).Owns now) s)
        (Swapchain.meets_rebuild d.covers_device) ?_ ?_) fun _ ↦ ?_
      · rintro _ t k ⟨ht, hh⟩
        exact ⟨t, ht.1, settled_of_rebuilt hnow ht, rfl, hh⟩
      · -- Only a marked screen is built anew, and it keeps its mark when that fails.
        rintro _ t k ⟨ht, hh⟩
        have hmark : t.needsRebuild = true := ht.trans hm
        refine ⟨shape_asked hd hf hn fun hclear ↦ ?_, hh⟩
        rw [hmark] at hclear
        cases hclear
      · rintro s ⟨t, hclear, ht, hs⟩
        have ht := shape_asked hd hf hn fun _ ↦ ht
        refine RunOn.meets_part_bind ?_ s hs
        refine .ite (fun _ ↦ .pure fun _ hp ↦ sound_of_at ht hp) fun _ ↦ ?_
        exact meets_takeImage ht rfl rfl hclear
    · exact meets_takeImage (shape_asked hd hf hn hd.screen) rfl rfl (Bool.eq_false_iff.2 hm)

/-! ### Beginning a pass -/

/-- What is rendered into is alive. -/
def Target.IsAlive (t : Target) (s : Device × Host) : Prop :=
  s.1.estate.Covers t.pass.any ∧ s.1.estate.Covers t.framebuffer.any

/-- A change of the frame that has nothing to do with its image. -/
theorem shape_changeFrame (hd : d.Shape always) {g : FrameState → FrameState}
    (hg : ∀ f, (g f).asked = f.asked ∧ (g f).image = f.image) :
    ({ d with frame := d.frame.map g } : Device).Shape always where
  screen := hd.screen
  asked := by
    intro f hf ha
    obtain ⟨f₀, hf₀, rfl⟩ := Option.map_eq_some_iff.1 hf
    rw [(hg f₀).1] at ha
    rw [(hg f₀).2]
    exact hd.asked f₀ hf₀ ha
  image := by
    intro f hf hi
    obtain ⟨f₀, hf₀, rfl⟩ := Option.map_eq_some_iff.1 hf
    rw [(hg f₀).2] at hi
    exact hd.image f₀ hf₀ hi

theorem meets_screenTarget (hnow : always → now) {action : PassAction} :
    Meets (Sound always now) (screenTarget action)
      (fun p s ↦ Sound always now s ∧ ∀ t, p.2 = some t → t.IsAlive s) fun _ ↦
        Sound always now := by
  refine meets_sound fun d hd ↦ RunOn.meets_change_bind ?_
  have hd₁ := shape_changeFrame (g := ({ · with screenPass := true })) hd fun _ ↦ ⟨rfl, rfl⟩
  refine Meets.pre (P := Sound always now) ?_ fun _ hp ↦ sound_of_at hd₁ hp
  refine .bind (keeps_screenImage hnow) fun image ↦ meets_sound fun d hd ↦ RunOn.meets_part_bind ?_
  cases image with
  | none => exact .pure fun s hp ↦ ⟨sound_of_at hd hp, fun _ ht ↦ by cases ht⟩
  | some index =>
    refine .orTrap_bind fun framebuffer hf ↦ .pure fun s hp ↦ ⟨sound_of_at hd hp, ?_⟩
    rintro _ ⟨⟩
    rw [Target.IsAlive, hp.1]
    exact ⟨covers_screen d.screen.covers_renderPass,
      covers_screen (Swapchain.covers_framebuffer (List.mem_of_getElem? hf))⟩

theorem alive_of_offscreenTarget {id : PassId} {action : PassAction} {p : ActivePass × Target}
    (h : d.offscreenTarget id action = .ok p) :
    d.estate.Covers p.2.pass.any ∧ d.estate.Covers p.2.framebuffer.any := by
  rw [offscreenTarget] at h
  split at h
  · next q hq =>
    split at h
    · cases h
    · cases h
      refine ⟨covers_pass hq ?_, covers_pass hq ?_⟩ <;> simp [Pass.estate]
  · cases h

theorem meets_recordBegin {extent : Extent} {t : Target} {E : EngineError → Device × Host → Prop}
    (hp : d.estate.Covers t.pass.any) (hf : d.estate.Covers t.framebuffer.any) :
    Meets (RunOn.At d (d.Owns now)) (recordBegin extent t)
      (fun _ ↦ RunOn.At d (d.Owns now)) E := by
  refine .orTrap_bind fun viewport _ ↦ ?_
  refine .bind (meets_record_of_covers ?_) fun _ ↦ ?_
  · simp [Recorded.uses, hp, hf]
  · exact .bind (meets_record_of_covers (List.forall_mem_nil _)) fun _ ↦
      meets_record_of_covers (List.forall_mem_nil _)

/-- The pass becomes the active one after its beginning was recorded. -/
theorem meets_enterPass {active : ActivePass} {target : Option Target} :
    Meets (fun s ↦ Sound always now s ∧ ∀ t, target = some t → t.IsAlive s)
      (do
        if let some t := target then recordBegin active.extent t
        RunOn.change ({ · with active := some active }) : DeviceStep Unit)
      (fun _ ↦ Sound always now) fun _ ↦ Sound always now := by
  have hlast : Keeps (Sound always now)
      (RunOn.change ({ · with active := some active }) : DeviceStep Unit) :=
    keeps_sound fun d hd ↦ RunOn.meets_change.post fun _ _ hp ↦
      sound_of_at (d := { d with active := some active }) ⟨hd.screen, hd.asked, hd.image⟩ hp
  cases target with
  | none => exact Meets.pre hlast fun _ hs ↦ hs.1
  | some t =>
    rintro ⟨d, k⟩ ⟨⟨hd, hh⟩, halive⟩
    obtain ⟨hp, hf⟩ := halive t rfl
    exact Meets.bind (meets_recordBegin hp hf) (fun _ ↦ Meets.pre hlast fun _ hp ↦
      sound_of_at hd hp) _ ⟨rfl, hh⟩

theorem keeps_beginPass {pass : Option PassId} (hnow : always → pass = none → now)
    {action : PassAction} :
    Keeps (Sound always now) (beginPass pass action) := by
  refine keeps_sound fun d hd ↦ RunOn.meets_part_bind ?_
  refine .ite (fun _ ↦ .refuse_bind fun _ _ hp ↦ sound_of_at hd hp) fun _ ↦ ?_
  cases pass with
  | none =>
    refine .bind ((meets_ensureFrame hd).post fun _ _ hp ↦ ?_) fun _ ↦
      .bind (meets_screenTarget fun h ↦ hnow h rfl) fun ⟨active, target⟩ ↦ meets_enterPass
    obtain ⟨_, -, hs⟩ := hp
    exact hs
  | some id =>
    refine .bind (.ofChecked (Q := fun p s ↦ RunOn.At d (d.Owns now) s ∧
      d.estate.Covers p.2.pass.any ∧ d.estate.Covers p.2.framebuffer.any)
      (fun p hp _ hs ↦ ⟨hs, alive_of_offscreenTarget hp⟩) fun _ _ _ hp ↦ sound_of_at hd hp)
      fun ⟨active, target⟩ ↦ ?_
    rintro s ⟨hs, halive⟩
    refine Meets.bind (Q := fun _ s ↦ Sound always now s ∧ ∀ t, some target = some t → t.IsAlive s)
      ((meets_ensureFrame hd).post ?_) (fun _ ↦ meets_enterPass) s hs
    rintro _ ⟨_, k⟩ ⟨frame, rfl, hsound⟩
    refine ⟨hsound, ?_⟩
    rintro _ ⟨⟩
    exact halive

/-! ### Inside a pass -/

/-- A command that is recorded at the end. -/
theorem keeps_recordAtEnd (hd : d.Shape always) {c : Recorded}
    (hu : ∀ o ∈ c.uses, d.estate.Covers o) :
    Meets (RunOn.At d (d.Owns now)) (record c) (fun _ ↦ Sound always now) fun _ ↦
      Sound always now :=
  (meets_record_of_covers hu).post fun _ _ hp ↦ sound_of_at hd hp

theorem keeps_applyViewport {rect : Rect} {topLeft : Bool} :
    Keeps (Sound always now) (applyViewport rect topLeft) := by
  refine keeps_sound fun d hd ↦ meets_activePass_bind (fun _ _ ↦ sound_of_at hd) fun active _ ↦ ?_
  refine .ite (fun _ ↦ .orTrap_bind fun viewport _ ↦ keeps_recordAtEnd hd (List.forall_mem_nil _))
    fun _ ↦ ?_
  exact .pure fun _ hp ↦ sound_of_at hd hp

/-- Views that are read belong to live textures. -/
theorem covers_sampledView {id : TextureId} {t : Texture} {v : Object .view}
    (ht : d.textures.get? id = some t) (hv : t.sampledView? = some v) : d.estate.Covers v.any := by
  obtain ⟨i, hi, rfl⟩ := Option.map_eq_some_iff.1 hv
  exact covers_texture ht (Texture.covers_sampled hi i.covers_view)

/-- The set is alive until it was written and bound. -/
theorem keeps_bindViews (hd : d.Shape always) {p : Pipeline} {views : List (Object .view)}
    (hp : ∀ o, p.estate.Covers o → d.estate.Covers o)
    (hviews : ∀ v ∈ views, d.estate.Covers v.any) :
    Meets (RunOn.At d (d.Owns now)) (bindViews p views) (fun _ ↦ Sound always now)
      fun _ ↦ Sound always now := by
  refine .ite (fun _ ↦ .pure fun _ hp ↦ sound_of_at hd hp) fun _ ↦ ?_
  refine .bind meets_slot fun f ↦ .assume fun hf ↦ RunOn.meets_part_bind ?_
  have hlayout : d.estate.Covers p.setLayout.any := hp _ (by simp [Pipeline.estate])
  refine RunOn.meets_lift_bind (FrameSlot.meets_allocateSet (mem_pool hf) hlayout)
    (fun _ _ hh ↦ ⟨hd, hh⟩) fun set ↦ ?_
  have hwrite : ∀ writes : List DescriptorWrite,
      (∀ w ∈ writes, w.set = set ∧ w.sampler = d.sampler ∧ w.view ∈ views) →
      Meets (fun h ↦ d.Owns now h ∧ ∃ x, Alive h.driver.calls x ∧ x.object = set.any)
        (changeDriver (·.push (.updateSets writes)))
        (fun _ h ↦ d.Owns now h ∧ ∃ x, Alive h.driver.calls x ∧ x.object = set.any)
        fun _ _ ↦ False := by
    refine fun writes hwrites ↦ meets_changeDriver ?_
    rintro h ⟨hh, x, hx, hset⟩
    refine ⟨hh.push ⟨rfl, rfl, rfl⟩ trivial fun o ho ↦ ?_, x, .inr ⟨hx, ?_⟩, hset⟩
    · obtain ⟨w, hw, ho⟩ := List.mem_flatMap.1 ho
      obtain ⟨rfl, hsampler, hview⟩ := hwrites w hw
      simp only [List.mem_cons, List.not_mem_nil, or_false] at ho
      rcases ho with rfl | rfl | rfl
      · exact fun _ ↦ ⟨x, hx, hset⟩
      · exact Books.covered hh (hsampler ▸ d.covers_sampler)
      · exact Books.covered hh (hviews w.view hview)
    · exact Call.IsPlain.not_ends ⟨rfl, rfl, rfl⟩ x
  refine RunOn.meets_lift_bind (hwrite _ fun w hw ↦ ?_) (fun _ _ hno ↦ hno.elim) fun _ ↦ ?_
  · obtain ⟨⟨binding, view⟩, hz, rfl⟩ := List.mem_map.1 hw
    exact ⟨rfl, rfl, (List.of_mem_zip hz).2⟩
  refine (meets_record (fun _ hh ↦ hh.1) ?_).post fun _ _ hs ↦ sound_of_at hd hs
  rintro h ⟨hh, hset⟩ o ho
  simp only [Recorded.uses, List.mem_cons, List.not_mem_nil, or_false] at ho
  rcases ho with rfl | rfl
  · exact Books.covered hh (hp _ (by simp [Pipeline.estate]))
  · exact fun _ ↦ hset

theorem keeps_bindMesh {m : Mesh} {f : FrameSlot} {E : EngineError → Host → Prop} {b : Backdrop}
    {e : Estate} (hm : ∀ o, m.estate.Covers o → e.Covers o) (hf : e.Covers f.commands.any) :
    Meets (Held b e) (m.bind f.commands) (fun _ ↦ Held b e) E := by
  have hvertices := hm _ m.covers_vertices
  refine .bind (meets_push ⟨rfl, rfl, rfl⟩ trivial ?_) fun _ ↦ ?_
  · simp [Call.uses, Recorded.uses, hf, hvertices]
  split
  · next u code hi =>
    have hindices := hm _ (Mesh.covers_indices hi)
    exact meets_push ⟨rfl, rfl, rfl⟩ trivial (by simp [Call.uses, Recorded.uses, hf, hindices])
  · exact .pure fun _ hh ↦ hh

theorem keeps_applyDrawState {state : DrawState} :
    Keeps (Sound always now) (applyDrawState state) := by
  refine keeps_sound fun d hd ↦ RunOn.meets_part_bind ?_
  have hfail : ∀ s, RunOn.At d (d.Owns now) s → Sound always now s := fun _ ↦ sound_of_at hd
  refine .orFail_bind (fun pipeline hp ↦ ?_) hfail
  refine .orFail_bind (fun mesh hm ↦ ?_) hfail
  refine .bind (meets_sampledViews (fun _ _ ↦ hfail _) (fun _ _ _ ↦ hfail _) state.textures)
    fun views ↦ .assume fun hsampled ↦ ?_
  have hviews : ∀ v ∈ views, d.estate.Covers v.any := fun v hv ↦
    have ⟨_, _, ht, hview⟩ := hsampled.2 v hv
    covers_sampledView ht hview
  refine .ite (fun _ ↦ .refuse_bind fun _ _ ↦ hfail _) fun _ ↦ ?_
  refine meets_activePass_bind (fun _ _ ↦ hfail _) fun active _ ↦ ?_
  refine .ite (fun _ ↦ .refuse_bind fun _ _ ↦ hfail _) fun _ ↦ ?_
  refine .ite (fun _ ↦ .refuse_bind fun _ _ ↦ hfail _) fun _ ↦ ?_
  refine RunOn.meets_change_bind ?_
  let d' : Device := { d with active := some { active with
    pipeline := some state.pipeline, mesh := some state.mesh } }
  have hd' : d'.Shape always := ⟨hd.screen, hd.asked, hd.image⟩
  refine .ite (fun _ ↦ ?_) fun _ ↦ .pure fun _ ↦ sound_of_at hd'
  refine .bind (meets_record_of_covers (d := d') ?_) fun _ ↦ ?_
  · have hpipeline : d'.estate.Covers pipeline.pipeline.any :=
      covers_pipeline (d := d) hp (by simp [Pipeline.estate])
    simpa [Recorded.uses] using hpipeline
  refine .bind meets_slot fun f ↦ .assume fun hf ↦ ?_
  refine RunOn.meets_lift_bind (F := fun _ _ ↦ False) (keeps_bindMesh (fun _ ↦ covers_mesh hm)
    (covers_slot hf f.covers_commands)) (fun _ _ hno ↦ hno.elim) fun _ ↦ ?_
  exact keeps_bindViews hd' (fun _ ↦ covers_pipeline hp) hviews

theorem keeps_applyUniforms {stage : ShaderStage} {data : List UInt8} :
    Keeps (Sound always now) (applyUniforms stage data) := by
  refine keeps_sound fun d hd ↦ meets_activePass_bind (fun _ _ ↦ sound_of_at hd) fun active _ ↦ ?_
  have hfail : ∀ s, RunOn.At d (d.Owns now) s → Sound always now s := fun _ ↦ sound_of_at hd
  split
  · exact .refuse fun _ _ ↦ hfail _
  · refine RunOn.meets_part_bind (.orFail_bind (fun p hp ↦ ?_) hfail)
    refine .ite (fun _ ↦ .refuse_bind fun _ _ ↦ hfail _) fun _ ↦ ?_
    refine .ite (fun _ ↦ .refuse_bind fun _ _ ↦ hfail _) fun _ ↦ ?_
    refine .ite (fun _ ↦ keeps_recordAtEnd hd ?_) fun _ ↦ .pure hfail
    have hlayout : d.estate.Covers p.layout.any := covers_pipeline hp (by simp [Pipeline.estate])
    simpa [Recorded.uses] using hlayout

theorem keeps_draw {group : ℕ} : Keeps (Sound always now) (draw group) := by
  refine keeps_sound fun d hd ↦ meets_activePass_bind (fun _ _ ↦ sound_of_at hd) fun active _ ↦ ?_
  have hfail : ∀ s, RunOn.At d (d.Owns now) s → Sound always now s := fun _ ↦ sound_of_at hd
  split
  · exact .refuse fun _ _ ↦ hfail _
  · refine RunOn.meets_part_bind (.orFail_bind (fun mesh _ ↦ ?_) hfail)
    split
    · exact .refuse fun _ _ ↦ hfail _
    · next g hg =>
      refine .ite (fun _ ↦ .bind meets_slot fun f ↦ .assume fun hf ↦ ?_) fun _ ↦ .pure hfail
      have hcommands := covers_slot hf f.covers_commands
      have hdraw : Meets (d.Owns now) (mesh.draw f.commands g) (fun _ ↦ d.Owns now)
          fun _ _ ↦ False := by
        refine meets_push ⟨rfl, rfl, rfl⟩ trivial ?_
        rw [Call.uses]
        split <;> simpa [Recorded.uses] using hcommands
      exact (RunOn.meets_lift hdraw).mono (fun _ hp ↦ hp) (fun _ _ ↦ hfail _)
        fun _ _ hno ↦ hno.2.elim

theorem keeps_fillRects {color : Vec4} {rects : List Rect} :
    Keeps (Sound always now) (fillRects color rects) := by
  refine keeps_sound fun d hd ↦ meets_activePass_bind (fun _ _ ↦ sound_of_at hd) fun active _ ↦ ?_
  refine .ite (fun _ ↦ .orTrap_bind fun clipped _ ↦ ?_) fun _ ↦ .pure fun _ ↦ sound_of_at hd
  exact .ite (fun _ ↦ keeps_recordAtEnd hd (List.forall_mem_nil _)) fun _ ↦ .pure fun _ ↦
    sound_of_at hd

/-- Textures that were resolved have the same images. -/
theorem stock_markResolved (textures : TextureMap) (ids : List TextureId) :
    stock Texture.estate (ids.foldl markResolved textures) = stock Texture.estate textures := by
  induction ids generalizing textures with
  | nil => rfl
  | cons id ids ih =>
    have hmark := Slot.Map.map_values_modify (m := textures) (h := id) (g := Texture.estate)
      (f := ({ · with resolved := true })) fun _ ↦ rfl
    rw [List.foldl_cons, ih, stock, markResolved, hmark, stock]

theorem keeps_endPass : Keeps (Sound always now) endPass := by
  refine keeps_sound fun d hd ↦ RunOn.meets_part_bind ?_
  split
  · exact .refuse fun _ _ ↦ sound_of_at hd
  · next active _ =>
    refine RunOn.meets_change_bind ?_
    let d' : Device := { d with active := none }
    have hd' : d'.Shape always := ⟨hd.screen, hd.asked, hd.image⟩
    have hresolve : Meets (RunOn.At d' (d'.Owns now))
        (if active.resolves then
          RunOn.change fun d ↦
            { d with textures := active.attachments.foldl markResolved d.textures }
        else pure () : DeviceStep Unit) (fun _ ↦ Sound always now) fun _ ↦ Sound always now := by
      refine .ite (fun _ ↦ RunOn.meets_change.post fun _ s hp ↦ ?_) fun _ ↦ .pure fun _ ↦
        sound_of_at hd'
      let d'' : Device := { d' with textures := active.attachments.foldl markResolved d'.textures }
      have hsame : d'.estate = d''.estate := by
        simp only [d', d'', estate, otherEstate, resourceEstate, slotEstate, fixedEstate,
          stock_markResolved]
      exact sound_of_at (d := d'') ⟨hd.screen, hd.asked, hd.image⟩ ⟨hp.1, hp.2.of_eq hsame⟩
    exact .ite (fun _ ↦ .bind (meets_record_of_covers (List.forall_mem_nil _)) fun _ ↦ hresolve)
      fun _ ↦ hresolve

/-! ### Committing a frame -/

theorem keeps_nextSlot : Keeps (Sound always now)
    (RunOn.change fun d ↦ { d with slotIndex := (d.slotIndex + 1) % d.slots.length }) :=
  keeps_sound fun d hd ↦ RunOn.meets_change.post fun _ _ hp ↦
    sound_of_at (d := { d with slotIndex := (d.slotIndex + 1) % d.slots.length })
      ⟨hd.screen, hd.asked, hd.image⟩ hp

theorem keeps_handOver : Keeps (Sound always now) handOver := by
  refine keeps_sound fun d hd ↦ RunOn.meets_part_bind (RunOn.meets_change_bind ?_)
  let d' : Device := { d with frame := none }
  have hd' : d'.Shape always := .of_no_frame rfl hd.screen
  refine .bind (meets_slot (d := d')) fun f ↦ .assume fun hf ↦ ?_
  have hslot : ∀ o, (f.estate d'.framePool).Covers o → d'.estate.Covers o :=
    fun _ ↦ covers_slot hf
  cases d.frame.bind (·.image) with
  | none =>
    refine RunOn.meets_lift_bind (FrameSlot.keeps_submit hslot fun _ _ h ↦ by cases h)
      (fun _ _ hh ↦ ⟨hd', hh⟩)
      fun _ ↦ ?_
    exact Meets.pre keeps_nextSlot fun _ ↦ sound_of_at hd'
  | some index =>
    refine .orTrap_bind fun sync hs ↦ ?_
    obtain ⟨wait, hw, hs⟩ := Option.bind_eq_some_iff.1 hs
    obtain ⟨signal, hg, hs⟩ := Option.bind_eq_some_iff.1 hs
    cases hs
    have hsync : ∀ w g, some (wait, signal) = some (w, g) →
        d'.estate.Covers w.any ∧ d'.estate.Covers g.any := by
      rintro _ _ ⟨⟩
      exact ⟨covers_screen (Swapchain.covers_imageAvailable (List.mem_of_getElem? hw)),
        covers_screen (Swapchain.covers_renderFinished (List.mem_of_getElem? hg))⟩
    refine RunOn.meets_lift_bind (FrameSlot.keeps_submit hslot hsync) (fun _ _ hh ↦ ⟨hd', hh⟩)
      fun _ ↦ ?_
    refine .bind (meets_onScreen (R := fun _ ↦ Sound always now) (E := fun _ ↦ Sound always now)
      Swapchain.meets_present ?_ ?_) fun _ ↦ keeps_nextSlot
    all_goals
      -- Showing an image marks the screen at the most.
      rintro _ t k ⟨ht, hh⟩
      refine ⟨.of_no_frame rfl fun hm ↦ ?_, hh⟩
      rcases ht with ht | ht
      · rw [show t = d.screen from ht] at hm ⊢
        exact hd.screen hm
      · rw [show t = d.screen.mark from ht] at hm
        cases hm

theorem keeps_commitFrame (hnow : always → now) : Keeps (Sound always now) commitFrame := by
  refine keeps_sound fun d hd ↦ RunOn.meets_part_bind ?_
  refine .ite (fun _ ↦ .refuse_bind fun _ _ ↦ sound_of_at hd) fun _ ↦ ?_
  refine .bind (Q := fun _ ↦ Sound always now) ((meets_ensureFrame hd).post fun _ _ hp ↦ ?_)
    fun _ ↦ ?_
  · obtain ⟨_, -, hs⟩ := hp
    exact hs
  · refine meets_sound fun d hd ↦ RunOn.meets_part_bind (Meets.pre ?_ fun _ ↦ sound_of_at hd)
    refine .ite (fun _ ↦ ?_) fun _ ↦ keeps_handOver
    refine .bind (keeps_beginPass fun h _ ↦ hnow h) fun _ ↦ ?_
    exact .bind keeps_endPass fun _ ↦ keeps_handOver

theorem keeps_requestQuit : Keeps (Sound always now) requestQuit :=
  keeps_sound fun d hd ↦ RunOn.meets_change.post fun _ _ hp ↦
    sound_of_at (d := { d with quit := true }) ⟨hd.screen, hd.asked, hd.image⟩ hp

/-- A window that changes its size only marks the screen. -/
theorem sound_resize {k : Host} {size : Extent} (h : Sound always False (d, k)) :
    Sound always False (d.resize size, k) := by
  obtain ⟨hd, hh⟩ := h
  refine ⟨⟨(fun hm ↦ by cases hm), hd.asked, fun f hf hi ↦ settled_mark (hd.image f hf hi)⟩, ?_⟩
  have hb : Fenced _ d.fences k.driver.calls k.driver.surface := Books.backdrop hh
  exact Books.reframe hh rfl ⟨hb.waits, hb.fences, False.elim⟩

end RenderTargets.Vulkan.Device
