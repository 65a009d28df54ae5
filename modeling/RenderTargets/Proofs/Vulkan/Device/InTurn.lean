import RenderTargets.Proofs.Vulkan.Device.InTurn.Basic
/-!
# Commands record in turn

Every command that a device records is in its turn (`InTurn`). Between a frame that was begun and a
pass, the device records outside (`Outside`); that is where passes begin and frames are handed over.

A draw is the only command that draws, and everything is set by then (`meets_draw_inTurn`).
-/

namespace RenderTargets.Vulkan.Device

open StepWith Run

variable {uploads : Object .commandPool} {slots : List FrameSlot} {base : List Call}
  {d d' : Device} {k : Host} {a : ActivePass} {x y : Instance} {i j : Option Instance}
  {f : FrameSlot} {c : Recorded} {s t : Device × Host} {α β : Type}
  {E : EngineError → Device × Host → Prop}

/-! ### Frames -/

/-- A frame is recorded, and no pass. -/
structure Outside (uploads : Object .commandPool) (slots : List FrameSlot) (base : List Call)
    (s : Device × Host) : Prop where
  /-- The device records in turn. -/
  inTurn : InTurn uploads slots base s
  /-- There is a frame. -/
  frame : s.1.frame.isSome = true
  /-- There is no pass. -/
  active : s.1.active = none

/-- What comes of such a device is such a device. -/
theorem Outside.of_came (hf : d.frame.isSome = true) (ha : d.active = none)
    (h : Came uploads slots base d s) : Outside uploads slots base s :=
  ⟨h.2, h.1.frame.trans hf, h.1.active.trans ha⟩

section Apart

variable (hslots : Apart slots)
include hslots

theorem meets_ensureFrame_inTurn (ha : d.active = none) :
    Meets (RunOn.At d (InTurnOn uploads slots base d)) ensureFrame
      (fun _ ↦ Outside uploads slots base) fun _ ↦ InTurn uploads slots base := by
  refine RunOn.meets_part_bind (.ite (fun hf ↦ ?_) fun hf ↦ .pure fun s hs ↦ ?_)
  · rintro ⟨d, k⟩ ⟨rfl, hk⟩
    cases hk with
    | busy _ hbusy _ _ _ => simp_all
    | idle hd hidle _ hk =>
      have hslotAt : Meets (RunOn.At d fun k ↦ ∀ f, Stands uploads slots base f .rest k) slot
          (fun f s ↦ slots[d.slotIndex]? = some f ∧
            RunOn.At d (Stands uploads slots base f .rest) s)
          fun _ ↦ InTurn uploads slots base := by
        refine RunOn.meets_part_bind ?_
        exact .orTrap fun f hslot _ hs ↦ ⟨hd.slots ▸ hslot, hs.1, hs.2 f⟩
      refine Meets.bind hslotAt (fun f ↦ .assume fun hslot ↦ ?_) (d, k) ⟨rfl, hk⟩
      refine RunOn.meets_lift_bind (FrameSlot.meets_beginInTurn hslots (List.mem_of_getElem? hslot))
        (fun _ _ hk ↦ .idle hd hidle ha hk.rest) fun _ ↦ RunOn.meets_change.post ?_
      rintro _ ⟨_, k⟩ ⟨rfl, hk⟩
      exact ⟨.busy ⟨hd.uploads, hd.slots⟩ rfl hslot (.of_none ha) hk, rfl, ha⟩
  · exact .of_came (Option.isSome_iff_ne_none.2 (by simpa using hf)) ha (came_of_at hs)

end Apart

/-! ### The screen -/

/-- A step that only looks at the device. -/
theorem meets_look {P : Device × Host → Prop} {R : α → Device × Host → Prop}
    {g : Device → DeviceStep α} (h : ∀ d', Meets P (g d') R E) : Meets P (RunOn.part >>= g) R E :=
  fun s hs ↦ h s.1 s hs

theorem keeps_changeFrame {g : FrameState → FrameState} :
    Keeps (Came uploads slots base d) (changeFrame g) :=
  keeps_came fun _ ↦ meets_changeCame ⟨rfl, rfl, rfl, by simp, rfl, id, id⟩

/-- What is done with the screen outside frames. -/
theorem keeps_onScreen {x : RunOn Swapchain α} (hx : RunOn.IsOutsideFrames uploads x) :
    Keeps (Came uploads slots base d) (onScreen x) := by
  refine keeps_came fun d ↦ meets_onScreen (P := InTurnOn uploads slots base d)
    (Q := fun _ s ↦ InTurnOn uploads slots base d s.2)
    (F := fun _ s ↦ InTurnOn uploads slots base d s.2) (fun s hs ↦ ?_) ?_ ?_
  · exact (hx s.2.driver s (.refl _)).mono (fun _ _ ha ↦ hs.2.adds ha.toGrows)
      fun _ _ ha ↦ hs.2.adds ha.toGrows
  all_goals
    intro _ t k hk
    have hp : d.Precedes { d with screen := t } := ⟨rfl, rfl, rfl, rfl, rfl, id, id⟩
    exact ⟨hp, hk.of_precedes hp⟩

/-- The screen is asked for an image outside frames. -/
theorem keeps_screenImage_came : Keeps (Came uploads slots base d) screenImage := by
  have htake : ∀ n, Keeps (Came uploads slots base d) (do
      let image ← onScreen (Swapchain.acquire n)
      changeFrame ({ · with image })
      return image) := fun n ↦
    .bind (keeps_onScreen Swapchain.outsideFrames_acquire) fun _ ↦ .bind keeps_changeFrame fun _ ↦
      .pure fun _ hs ↦ hs
  refine meets_look fun d' ↦ ?_
  split
  · exact .refuse fun _ j hs ↦ ⟨hs.1, hs.2.note j⟩
  · refine .ite (fun _ ↦ .pure fun _ hs ↦ hs) fun _ ↦ .bind keeps_changeFrame fun _ ↦ ?_
    refine .ite (fun _ ↦ ?_) fun _ ↦ htake _
    refine .bind (keeps_onScreen Swapchain.outsideFrames_rebuild) fun _ ↦ meets_look fun _ ↦ ?_
    exact .ite (fun _ ↦ .pure fun _ hs ↦ hs) fun _ ↦ htake _

/-! ### Beginning a pass -/

/-- The pass as it begins: it records if it has a target, and nothing is bound. -/
def Begins (p : ActivePass × Option Target) : Prop :=
  p.1.recording = p.2.isSome ∧ p.1.mesh = none

theorem meets_screenTarget_inTurn {action : PassAction} :
    Meets (Outside uploads slots base) (screenTarget action)
      (fun p s ↦ Begins p ∧ Outside uploads slots base s) fun _ ↦ InTurn uploads slots base := by
  rintro ⟨d, k⟩ hs
  have htarget : Meets (Came uploads slots base d) (screenTarget action)
      (fun p s ↦ Begins p ∧ Came uploads slots base d s) fun _ ↦ Came uploads slots base d := by
    refine .bind keeps_changeFrame fun _ ↦ ?_
    refine .bind keeps_screenImage_came fun image ↦ ?_
    refine meets_look fun _ ↦ ?_
    cases image with
    | none => exact .pure fun _ hs ↦ ⟨⟨rfl, rfl⟩, hs⟩
    | some index => exact .orTrap_bind fun _ _ ↦ .pure fun _ hs ↦ ⟨⟨rfl, rfl⟩, hs⟩
  exact (htarget (d, k) ⟨.refl d, hs.inTurn⟩).mono
    (fun _ _ hp ↦ ⟨hp.1, .of_came hs.frame hs.active hp.2⟩) fun _ _ hp ↦ hp.2

theorem begins_of_offscreenTarget {id : PassId} {action : PassAction} {p : ActivePass × Target}
    (h : d.offscreenTarget id action = .ok p) : Begins (p.1, some p.2) := by
  rw [offscreenTarget] at h
  split at h
  · split at h
    · cases h
    · cases h
      exact ⟨rfl, rfl⟩
  · cases h

section Recording

variable (hd : d.HasSlots uploads slots) (hslot : slots[d.slotIndex]? = some f)
include hd hslot

theorem meets_slot_inTurn {P : Host → Prop} :
    Meets (RunOn.At d P) slot (fun g s ↦ g = f ∧ RunOn.At d P s) E := by
  refine RunOn.meets_part_bind (.orTrap fun g hg _ hs ↦ ⟨?_, hs⟩)
  rw [hd.slots, hslot] at hg
  exact (Option.some.inj hg).symm

variable (hslots : Apart slots)
include hslots

/-- A command in its turn. -/
theorem meets_record_inTurn (hn : c.next? i = some j) (hc : ¬c.IsDraw) :
    Meets (RunOn.At d (Stands uploads slots base f (.recording i))) (record c)
      (fun _ ↦ RunOn.At d (Stands uploads slots base f (.recording j))) E := by
  refine .bind (meets_slot_inTurn hd hslot) fun g ↦ .assume ?_
  rintro rfl
  have hrecord : Meets (Stands uploads slots base g (.recording i)) (Run.record g.commands c)
      (fun _ ↦ Stands uploads slots base g (.recording j)) fun _ _ ↦ False :=
    meets_recordInTurn hslots (List.mem_of_getElem? hslot) hn hc
  exact (RunOn.meets_lift hrecord).mono (fun _ hs ↦ hs) (fun _ _ hs ↦ hs) fun _ _ hno ↦ hno.2.elim

theorem meets_recordBegin_inTurn {extent : Extent} {target : Target} :
    Meets (RunOn.At d (Stands uploads slots base f (.recording none))) (recordBegin extent target)
      (fun _ ↦ RunOn.At d (Stands uploads slots base f
        (.recording (some { viewport := true, scissor := true })))) E := by
  refine .orTrap_bind fun _ _ ↦ ?_
  refine .bind (meets_record_inTurn hd hslot hslots (j := some {}) rfl id) fun _ ↦ ?_
  refine .bind (meets_record_inTurn hd hslot hslots (j := some { viewport := true }) rfl id)
    fun _ ↦ ?_
  exact meets_record_inTurn hd hslot hslots rfl id

end Recording

section Commands

variable (hslots : Apart slots)
include hslots

/-- The pass becomes the active one after its beginning was recorded. -/
theorem meets_enterPass_inTurn {active : ActivePass} {target : Option Target} :
    Meets (fun s ↦ Begins (active, target) ∧ Outside uploads slots base s)
      (do
        if let some t := target then recordBegin active.extent t
        RunOn.change ({ · with active := some active }) : DeviceStep Unit)
      (fun _ s ↦ InTurn uploads slots base s ∧ s.1.active.isSome = true)
      fun _ ↦ InTurn uploads slots base := by
  rintro ⟨d, k⟩ ⟨⟨hrecording, hmesh⟩, hs⟩
  have hd := hs.inTurn.hasSlots
  obtain ⟨f, hslot, hk⟩ := hs.inTurn.outside hs.frame fun _ ha ↦ by cases ha.symm.trans hs.active
  cases target with
  | none =>
    refine ⟨.busy ⟨hd.uploads, hd.slots⟩ hs.frame hslot (.outside ?_) hk, rfl⟩
    rintro _ ⟨⟩
    exact hrecording
  | some t =>
    refine Meets.bind (meets_recordBegin_inTurn hd hslot hslots) (fun _ ↦ ?_) (d, k) ⟨rfl, hk⟩
    rintro ⟨_, k⟩ ⟨rfl, hk⟩
    refine ⟨.busy ⟨hd.uploads, hd.slots⟩ hs.frame hslot (.inside rfl hrecording ⟨rfl, rfl, ?_⟩) hk,
      rfl⟩
    intro id hid
    cases hmesh.symm.trans hid

theorem meets_beginPass_inTurn {pass : Option PassId} {action : PassAction} :
    Meets (InTurn uploads slots base) (beginPass pass action)
      (fun _ s ↦ InTurn uploads slots base s ∧ s.1.active.isSome = true)
      fun _ ↦ InTurn uploads slots base := by
  refine meets_inTurn fun d hd ↦ RunOn.meets_part_bind ?_
  refine .ite (fun _ ↦ .refuse_bind fun _ j hs ↦ inTurn_of_at (at_of_note j hs)) fun ha ↦ ?_
  have hframe : Meets (RunOn.At d (InTurnOn uploads slots base d)) ensureFrame
      (fun _ ↦ Outside uploads slots base) fun _ ↦ InTurn uploads slots base :=
    meets_ensureFrame_inTurn hslots (Option.not_isSome_iff_eq_none.1 ha)
  cases pass with
  | none =>
    refine .bind hframe fun _ ↦ ?_
    exact .bind meets_screenTarget_inTurn fun ⟨active, target⟩ ↦ meets_enterPass_inTurn hslots
  | some id =>
    refine .bind (.ofChecked (Q := fun p s ↦ Begins (p.1, some p.2) ∧
      RunOn.At d (InTurnOn uploads slots base d) s)
      (fun p hp _ hs ↦ ⟨begins_of_offscreenTarget hp, hs⟩) fun _ _ _ ↦ inTurn_of_at)
      fun ⟨active, target⟩ ↦ .assume fun hb ↦ ?_
    exact .bind (Q := fun _ s ↦ Begins (active, some target) ∧ Outside uploads slots base s)
      (hframe.post fun _ _ hs ↦ ⟨hb, hs⟩) fun _ ↦ meets_enterPass_inTurn hslots

/-! ### Inside a pass -/

/-- A command that leaves what was set in the pass. -/
theorem meets_recordInside (hd : d.HasSlots uploads slots) (ha : d.active = some a)
    (hr : a.recording = true) (hc : ¬c.IsDraw)
    (hn : ∀ x, d.Shows a x → ∃ y, c.next? (some x) = some (some y) ∧ d.Shows a y) :
    Meets (RunOn.At d (InTurnOn uploads slots base d)) (record c)
      (fun _ ↦ InTurn uploads slots base)
      E := by
  rintro ⟨d, k⟩ ⟨rfl, hk⟩
  obtain ⟨f, x, hf, hslot, hx, hk⟩ := hk.inside ha hr
  obtain ⟨y, hn, hy⟩ := hn x hx
  refine (meets_record_inTurn hd hslot hslots hn hc).post ?_ (d, k) ⟨rfl, hk⟩
  rintro _ ⟨_, l⟩ ⟨rfl, hl⟩
  exact .busy hd hf hslot (.inside ha hr hy) hl

theorem keeps_applyViewport_inTurn {rect : Rect} {topLeft : Bool} :
    Keeps (InTurn uploads slots base) (applyViewport rect topLeft) := by
  refine meets_inTurn fun d hd ↦ meets_activePass_bind
    (fun _ j hs ↦ inTurn_of_at (at_of_note j hs)) fun a ha ↦ ?_
  refine .ite (fun hr ↦ .orTrap_bind fun _ _ ↦ ?_) fun _ ↦ .pure fun _ ↦ inTurn_of_at
  refine meets_recordInside hslots hd ha hr id fun x hx ↦
    ⟨{ x with viewport := true }, rfl, rfl, hx.scissor, fun id hid ↦ ?_⟩
  obtain ⟨m, pid, p, hm, hpid, hp, hhas⟩ := hx.bound id hid
  exact ⟨m, pid, p, hm, hpid, hp, { hhas with viewport := rfl }⟩

theorem keeps_applyUniforms_inTurn {stage : ShaderStage} {data : List UInt8} :
    Keeps (InTurn uploads slots base) (applyUniforms stage data) := by
  have hrefuse : ∀ {d : Device} {j} {s : Device × Host},
      RunOn.At d (InTurnOn uploads slots base d) s →
      InTurn uploads slots base (Log.HasJournal.journal.set j s) :=
    fun hs ↦ inTurn_of_at (at_of_note _ hs)
  refine meets_inTurn fun d hd ↦ meets_activePass_bind
    (fun _ j hs ↦ inTurn_of_at (at_of_note j hs)) fun a ha ↦ ?_
  split
  · exact .refuse fun _ _ ↦ hrefuse
  · refine RunOn.meets_part_bind (.orFail_bind (fun p _ ↦ ?_) fun _ ↦ inTurn_of_at)
    refine .ite (fun _ ↦ .refuse_bind fun _ _ ↦ hrefuse) fun _ ↦ ?_
    refine .ite (fun _ ↦ .refuse_bind fun _ _ ↦ hrefuse) fun _ ↦ ?_
    refine .ite (fun hr ↦ ?_) fun _ ↦ .pure fun _ ↦ inTurn_of_at
    exact meets_recordInside hslots hd ha hr id fun x hx ↦ ⟨x, rfl, hx⟩

theorem keeps_fillRects_inTurn {color : Vec4} {rects : List Rect} :
    Keeps (InTurn uploads slots base) (fillRects color rects) := by
  refine meets_inTurn fun d hd ↦ meets_activePass_bind
    (fun _ j hs ↦ inTurn_of_at (at_of_note j hs)) fun a ha ↦ ?_
  refine .ite (fun hr ↦ .orTrap_bind fun _ _ ↦ ?_) fun _ ↦ .pure fun _ ↦ inTurn_of_at
  refine .ite (fun _ ↦ ?_) fun _ ↦ .pure fun _ ↦ inTurn_of_at
  exact meets_recordInside hslots hd ha hr id fun x hx ↦ ⟨x, rfl, hx⟩

/-! ### Binding -/

omit hslots in
/-- A descriptor set is made in no turn. -/
theorem keeps_allocateSet_inTurn {layout : Object .setLayout} :
    Keeps (InTurnOn uploads slots base d) (f.allocateSet layout) := by
  refine meets_work (fun k o e hk he ↦ ?_) (fun k code e hk he ↦ ?_) fun k j hk ↦ hk.congr rfl rfl
  · obtain ⟨-, rfl⟩ := Driver.create_ok he
    exact InTurn.pass (k := { k with driver := ((k.driver.tally _).2.fresh _).2 })
      (hk.adds (Driver.adds_tally.trans Driver.adds_fresh).toGrows)
      (fun _ _ ↦ rfl) (by simp)
  · obtain rfl := Driver.create_error he
    exact InTurn.pass (k := { k with driver := (k.driver.tally _).2 })
      (hk.adds Driver.adds_tally.toGrows) (fun _ _ ↦ rfl) (by simp)

theorem meets_bindViews_inTurn (hd : d.HasSlots uploads slots) (ha : d.active = some a)
    (hr : a.recording = true) {p : Pipeline} {views : List (Object .view)} :
    Meets (RunOn.At d (InTurnOn uploads slots base d)) (bindViews p views)
      (fun _ ↦ InTurn uploads slots base) fun _ ↦ InTurn uploads slots base := by
  refine .ite (fun _ ↦ .pure fun _ ↦ inTurn_of_at) fun _ ↦ ?_
  refine .bind meets_slot fun f ↦ .assume fun _ ↦ RunOn.meets_part_bind ?_
  refine RunOn.meets_lift_bind keeps_allocateSet_inTurn (fun e k hk ↦ hk) fun set ↦ ?_
  refine RunOn.meets_lift_bind (Q := fun _ ↦ InTurnOn uploads slots base d) (F := fun _ _ ↦ False)
    (meets_changeDriver fun k hk ↦ hk.pass (fun _ _ ↦ rfl) (by simp)) (fun _ _ hno ↦ hno.elim)
    fun _ ↦ ?_
  exact meets_recordInside hslots hd ha hr id fun x hx ↦ ⟨x, rfl, hx⟩

/-- The buffers of a mesh are bound. -/
theorem meets_bindMesh_inTurn (hf : f ∈ slots) {m : Mesh} {E : EngineError → Host → Prop} :
    Meets (Stands uploads slots base f (.recording (some x))) (m.bind f.commands)
      (fun _ ↦ Stands uploads slots base f (.recording (some
        { x with
          vertices := some m.vertices.buffer
          indices := (m.indices.map (·.1.buffer)).or x.indices }))) E := by
  refine .bind (meets_recordInTurn hslots hf (j := some { x with
    vertices := some m.vertices.buffer }) rfl id) fun _ ↦ ?_
  cases m.indices with
  | none => exact .pure fun _ hs ↦ hs
  | some i => exact meets_recordInTurn hslots hf rfl id

/-- With the pipeline and the mesh bound, the pass may name them. -/
theorem meets_bindState {state : DrawState} {p : Pipeline} {m : Mesh} {b : ActivePass}
    (hd : d.HasSlots uploads slots) (ha : d.active = some b)
    (hb : b = { a with pipeline := some state.pipeline, mesh := some state.mesh })
    (hr : a.recording = true) (hp : d.pipelines.get? state.pipeline = some p)
    (hm : d.meshes.get? state.mesh = some m) {y : DeviceStep Unit}
    (hy : Meets (RunOn.At d (InTurnOn uploads slots base d)) y (fun _ ↦ InTurn uploads slots base)
      fun _ ↦ InTurn uploads slots base) :
    Meets (RunOn.At d fun k ↦ ∃ f x, d.frame.isSome = true ∧ slots[d.slotIndex]? = some f ∧
        d.Shows a x ∧ Stands uploads slots base f (.recording (some x)) k)
      (do
        record (.bindPipeline p.pipeline)
        let f ← slot
        m.bind f.commands
        y)
      (fun _ ↦ InTurn uploads slots base) fun _ ↦ InTurn uploads slots base := by
  rintro ⟨_, k⟩ ⟨rfl, f, x, hf, hslot, hx, hk⟩
  refine Meets.bind (meets_record_inTurn hd hslot hslots (j := some { x with
    pipeline := some p.pipeline }) rfl id) (fun _ ↦ ?_) (_, k) ⟨rfl, hk⟩
  refine .bind (meets_slot_inTurn hd hslot) fun g ↦ .assume ?_
  rintro rfl
  refine RunOn.meets_lift_bind (F := fun _ _ ↦ False)
    (meets_bindMesh_inTurn hslots (List.mem_of_getElem? hslot)) (fun _ _ hno ↦ hno.elim) fun _ ↦ ?_
  refine hy.pre ?_
  rintro ⟨_, l⟩ ⟨rfl, hl⟩
  subst hb
  refine ⟨rfl, .busy hd hf hslot (.inside ha hr ?_) hl⟩
  refine ⟨hx.viewport, hx.scissor, ?_⟩
  rintro _ ⟨⟩
  refine ⟨m, _, p, hm, rfl, hp, hx.viewport, hx.scissor, rfl, rfl, fun u code hi ↦ ?_⟩
  simp [hi]

theorem keeps_applyDrawState_inTurn {state : DrawState} :
    Keeps (InTurn uploads slots base) (applyDrawState state) := by
  refine meets_inTurn fun d hd ↦ RunOn.meets_part_bind ?_
  have hrefuse : ∀ {j} {s : Device × Host}, RunOn.At d (InTurnOn uploads slots base d) s →
      InTurn uploads slots base (Log.HasJournal.journal.set j s) :=
    fun hs ↦ inTurn_of_at (at_of_note _ hs)
  refine .orFail_bind (fun pipeline hp ↦ ?_) fun _ ↦ inTurn_of_at
  refine .orFail_bind (fun mesh hm ↦ ?_) fun _ ↦ inTurn_of_at
  refine .bind (meets_sampledViews (fun _ _ ↦ inTurn_of_at) (fun _ _ _ ↦ hrefuse) state.textures)
    fun views ↦ .assume fun _ ↦ ?_
  refine .ite (fun _ ↦ .refuse_bind fun _ _ ↦ hrefuse) fun _ ↦ ?_
  refine meets_activePass_bind (fun _ _ ↦ hrefuse) fun a ha ↦ ?_
  refine .ite (fun _ ↦ .refuse_bind fun _ _ ↦ hrefuse) fun _ ↦ ?_
  refine .ite (fun _ ↦ .refuse_bind fun _ _ ↦ hrefuse) fun _ ↦ ?_
  refine RunOn.meets_change_bind ?_
  let b : ActivePass := { a with pipeline := some state.pipeline, mesh := some state.mesh }
  let d' : Device := { d with active := some b }
  have hd' : d'.HasSlots uploads slots := ⟨hd.uploads, hd.slots⟩
  refine .ite (fun hr ↦ ?_) fun hr ↦ .pure ?_
  · refine Meets.pre (meets_bindState (d := d') hslots hd' rfl rfl hr hp hm
      (meets_bindViews_inTurn hslots hd' rfl hr)) fun s hs ↦ ⟨hs.1, ?_⟩
    obtain ⟨f, x, hf, hslot, hx, hk⟩ := InTurn.inside (d := d) hs.2 ha hr
    exact ⟨f, x, hf, hslot, ⟨hx.viewport, hx.scissor, hx.bound⟩, hk⟩
  · -- Without a target nothing is recorded.
    rintro ⟨_, k⟩ ⟨rfl, hk⟩
    have hk : InTurn uploads slots base (d, k) := hk
    cases hk with
    | idle _ _ hno _ => cases ha.symm.trans hno
    | busy _ hf hslot hi hk =>
      cases hi with
      | outside _ =>
        refine .busy hd' hf hslot (.outside ?_) hk
        rintro _ ⟨⟩
        exact Bool.eq_false_iff.2 hr
      | inside ha' hr' _ => exact (hr (Option.some.inj (ha.symm.trans ha') ▸ hr')).elim

/-! ### Ending a pass -/

theorem meets_endPass_inTurn :
    Meets (InTurn uploads slots base) endPass (fun _ ↦ Outside uploads slots base)
      fun _ ↦ InTurn uploads slots base := by
  refine meets_inTurn fun d hd ↦ RunOn.meets_part_bind ?_
  split
  · exact .refuse fun _ j hs ↦ inTurn_of_at (at_of_note j hs)
  · next a ha =>
    refine RunOn.meets_change_bind ?_
    let d' : Device := { d with active := none }
    have hd' : d'.HasSlots uploads slots := ⟨hd.uploads, hd.slots⟩
    have hresolve : Meets (Outside uploads slots base)
        (if a.resolves then
          RunOn.change fun d ↦ { d with textures := a.attachments.foldl markResolved d.textures }
        else pure () : DeviceStep Unit) (fun _ ↦ Outside uploads slots base)
        fun _ ↦ InTurn uploads slots base := by
      refine .ite (fun _ ↦ ?_) fun _ ↦ .pure fun _ hs ↦ hs
      rintro ⟨d, k⟩ hs
      exact ⟨hs.inTurn.of_precedes ⟨rfl, rfl, rfl, rfl, rfl, id, id⟩, hs.frame, hs.active⟩
    refine .ite (fun hr ↦ ?_) fun hr ↦ hresolve.pre ?_
    · rintro ⟨_, k⟩ ⟨rfl, hk⟩
      obtain ⟨f, x, hf, hslot, -, hk⟩ := InTurn.inside (d := d) hk ha hr
      refine Meets.bind (meets_record_inTurn hd' hslot hslots (j := none) rfl id)
        (fun _ ↦ hresolve.pre ?_) (d', k) ⟨rfl, hk⟩
      rintro ⟨_, l⟩ ⟨rfl, hl⟩
      exact ⟨.busy hd' hf hslot (.of_none rfl) hl, hf, rfl⟩
    · rintro ⟨_, k⟩ ⟨rfl, hk⟩
      have hk : InTurn uploads slots base (d, k) := hk
      cases hk with
      | idle _ _ hno _ => cases ha.symm.trans hno
      | busy hd hf hslot hi hk =>
        have hno : ∀ b, d.active = some b → b.recording = false := fun b hb ↦
          Bool.eq_false_iff.2 (Option.some.inj (ha.symm.trans hb) ▸ hr)
        obtain ⟨f, hslot, hk⟩ := (InTurn.busy hd hf hslot hi hk).outside hf hno
        exact ⟨.busy hd' hf hslot (.of_none rfl) hk, hf, rfl⟩

/-! ### Committing a frame -/

omit hslots in
/-- Between frames any slot may be the next one. -/
theorem keeps_nextSlot_inTurn (hf : d.frame.isSome = false) :
    Meets (RunOn.At d (InTurnOn uploads slots base d))
      (RunOn.change fun d ↦ { d with slotIndex := (d.slotIndex + 1) % d.slots.length })
      (fun _ ↦ InTurn uploads slots base) E := by
  rintro ⟨_, k⟩ ⟨rfl, hk⟩
  cases hk with
  | idle hd hf ha hk => exact .idle ⟨hd.uploads, hd.slots⟩ hf ha hk
  | busy _ hbusy _ _ _ => cases hf.symm.trans hbusy

/-- A slot that was handed over rests, and so do all slots after a failure. -/
theorem meets_handOver_inTurn :
    Meets (Outside uploads slots base) handOver (fun _ ↦ InTurn uploads slots base)
      fun _ ↦ InTurn uploads slots base := by
  rintro ⟨d, k⟩ hs
  have hd := hs.inTurn.hasSlots
  obtain ⟨f, hslot, hk⟩ := hs.inTurn.outside hs.frame fun _ ha ↦ by cases ha.symm.trans hs.active
  let d' : Device := { d with frame := none }
  have hd' : d'.HasSlots uploads slots := ⟨hd.uploads, hd.slots⟩
  have hidle : ∀ l, Stands uploads slots base f .rest l → InTurnOn uploads slots base d' l :=
    fun _ hl ↦ .idle hd' rfl hs.active hl.rest
  have hsubmit : ∀ screen, Meets (Stands uploads slots base f (.recording none))
      (f.submit d.context screen) (fun _ ↦ InTurnOn uploads slots base d')
      fun _ ↦ InTurnOn uploads slots base d' := fun _ ↦
    (FrameSlot.meets_submitInTurn hslots (List.mem_of_getElem? hslot)).mono (fun _ hl ↦ hl)
      (fun _ ↦ hidle) fun _ ↦ hidle
  have hmain : Meets (RunOn.At d (Stands uploads slots base f (.recording none))) handOver
      (fun _ ↦ InTurn uploads slots base) fun _ ↦ InTurn uploads slots base := by
    refine RunOn.meets_part_bind (RunOn.meets_change_bind ?_)
    refine .bind (meets_slot_inTurn (d := d') hd' hslot) fun g ↦ .assume ?_
    rintro rfl
    cases d.frame.bind (·.image) with
    | none =>
      exact RunOn.meets_lift_bind (hsubmit none) (fun _ _ hl ↦ hl) fun _ ↦
        keeps_nextSlot_inTurn rfl
    | some index =>
      refine .orTrap_bind fun sync _ ↦ ?_
      refine RunOn.meets_lift_bind (hsubmit (some sync)) (fun _ _ hl ↦ hl) fun _ ↦ ?_
      refine .bind ((keeps_onScreen (d := d') Swapchain.outsideFrames_present).mono
        (fun _ ↦ came_of_at)
        (fun _ _ hs ↦ hs) fun _ _ hs ↦ hs.2) fun _ ↦ ?_
      exact meets_came fun d'' hp ↦ keeps_nextSlot_inTurn hp.frame
  exact hmain (d, k) ⟨rfl, hk⟩

theorem keeps_commitFrame_inTurn : Keeps (InTurn uploads slots base) commitFrame := by
  refine meets_inTurn fun d hd ↦ RunOn.meets_part_bind ?_
  refine .ite (fun _ ↦ .refuse_bind fun _ j hs ↦ inTurn_of_at (at_of_note j hs)) fun ha ↦ ?_
  refine .bind (meets_ensureFrame_inTurn hslots (Option.not_isSome_iff_eq_none.1 ha)) fun _ ↦ ?_
  refine meets_look fun _ ↦ ?_
  refine .ite (fun _ ↦ ?_) fun _ ↦ meets_handOver_inTurn hslots
  refine .bind (Meets.pre (meets_beginPass_inTurn hslots) fun _ hs ↦ hs.inTurn) fun _ ↦ ?_
  exact .bind (Meets.pre (meets_endPass_inTurn hslots) fun _ hs ↦ hs.1) fun _ ↦
    meets_handOver_inTurn hslots

end Commands

theorem keeps_requestQuit_inTurn : Keeps (InTurn uploads slots base) requestQuit :=
  keeps_of_came fun _ _ ↦ meets_changeCame ⟨rfl, rfl, rfl, rfl, rfl, id, id⟩

end RenderTargets.Vulkan.Device
