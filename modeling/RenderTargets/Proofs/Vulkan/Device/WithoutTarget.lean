import RenderTargets.Proofs.Device.DrawStates
import RenderTargets.Proofs.Step.Agree
import RenderTargets.Proofs.Vulkan.Edges
/-!
# Passes without a target are checked like others

A pass into the screen has no target while there is no image of the screen. Nothing is recorded in
it then, and all commands in it are **checked as if it had one**. So take two devices of which one
has a target for its pass and the other has none, and which are the same otherwise (`Parallel`): in
this pass both take the same commands and refuse the same ones with the same words, they stay the
same otherwise, and the second one makes no call at all (`together_of_beginPass`).

The first device also does what the second one does not, and this has to go well for the two to stay
together. Calls do not fail on a driver without a script (`Goes`). What is left is arithmetic: edges
of rectangles are signed words. Viewports and cleared rectangles are worked out only if there is a
target, so an edge that no word holds is noticed only then (`applyViewport_trap`).
-/

namespace RenderTargets.Vulkan

open StepWith Run

variable {d d' : Device} {k k' : Host} {s t s₀ t₀ : Device × Host} {α β : Type} {a : ActivePass}
  {frame : Option FrameState} {screen : Swapchain}

/-! ### What goes well if no call fails -/

theorem Run.driving_ok {f : Driver → α × Driver} {b : α} {driver : Driver}
    (h : f k.driver = (b, driver)) : driving f k = .ok b { k with driver } := by
  show EStateM.Result.ok (f k.driver).1 { k with driver := (f k.driver).2 } = _
  rw [h]

/-- From a host that never fails the step answers, and no call fails afterwards. -/
def Run.Goes (x : Run α) : Prop := ∀ k : Host, k.NeverFails → ∃ b k', x k = .ok b k' ∧ k'.NeverFails

namespace Run.Goes

theorem pure {b : α} : Goes (Pure.pure b : Run α) := fun k hk ↦ ⟨b, k, rfl, hk⟩

theorem bind {x : Run α} {f : α → Run β} (hx : Goes x) (hf : ∀ b, Goes (f b)) : Goes (x >>= f) := by
  intro k hk
  obtain ⟨b, k', hb, hk'⟩ := hx k hk
  obtain ⟨c, k'', hc, hk''⟩ := hf b k' hk'
  exact ⟨c, k'', (bind_ok hb).trans hc, hk''⟩

theorem push {c : Call} : Goes (changeDriver (·.push c)) := fun _ hk ↦ ⟨_, _, rfl, hk⟩

theorem record {b : Object .commandBuffer} {r : Recorded} : Goes (Run.record b r) := push

theorem allocateSet {f : FrameSlot} {layout : Object .setLayout} : Goes (f.allocateSet layout) := by
  intro k hk
  obtain ⟨o, driver, hd, hnever⟩ := Driver.exists_create .allocateDescriptorSets hk
    (.allocateDescriptorSet · f.pool layout)
  exact ⟨o, { k with driver }, bind_ok (driving_ok hd), hnever⟩

theorem bindMesh {m : Mesh} {b : Object .commandBuffer} : Goes (m.bind b) := by
  refine .bind .record fun _ ↦ ?_
  split
  · exact .record
  · exact .pure

end Run.Goes

namespace Device

/-- From a host that never fails the step of the device answers, leaves the device alone, and no
call fails afterwards. -/
def Goes (d : Device) (x : DeviceStep α) : Prop :=
  ∀ k : Host, k.NeverFails → ∃ b k', x (d, k) = .ok b (d, k') ∧ k'.NeverFails

namespace Goes

theorem pure {b : α} : d.Goes (Pure.pure b : DeviceStep α) := fun k hk ↦ ⟨b, k, rfl, hk⟩

theorem bind {x : DeviceStep α} {f : α → DeviceStep β} (hx : d.Goes x) (hf : ∀ b, d.Goes (f b)) :
    d.Goes (x >>= f) := by
  intro k hk
  obtain ⟨b, k', hb, hk'⟩ := hx k hk
  obtain ⟨c, k'', hc, hk''⟩ := hf b k' hk'
  exact ⟨c, k'', (bind_ok hb).trans hc, hk''⟩

theorem part_bind {f : Device → DeviceStep α} (h : d.Goes (f d)) : d.Goes (RunOn.part >>= f) := h

theorem orTrap_bind {o : Option α} {f : α → DeviceStep β} (ho : o.isSome = true)
    (hf : ∀ b, o = some b → d.Goes (f b)) : d.Goes (StepWith.orTrap o >>= f) := by
  obtain ⟨b, rfl⟩ := Option.isSome_iff_exists.1 ho
  exact hf b rfl

theorem lift {x : Run α} (hx : Run.Goes x) : d.Goes (liftM x : DeviceStep α) := by
  intro k hk
  obtain ⟨b, k', hb, hk'⟩ := hx k hk
  exact ⟨b, k', within_snd_ok hb, hk'⟩

section Slot

variable (hslot : (d.slots[d.slotIndex]?).isSome = true)
include hslot

theorem slot_bind {f : FrameSlot → DeviceStep α} (h : ∀ g, d.Goes (f g)) : d.Goes (slot >>= f) := by
  obtain ⟨g, hg⟩ := Option.isSome_iff_exists.1 hslot
  refine .bind (fun k hk ↦ ⟨g, k, ?_, hk⟩) h
  show StepWith.orTrap d.slots[d.slotIndex]? (d, k) = _
  rw [hg]
  rfl

theorem record {r : Recorded} : d.Goes (record r) := slot_bind hslot fun _ ↦ .lift .record

theorem bindViews {p : Pipeline} {views : List (Object .view)} : d.Goes (bindViews p views) := by
  rw [Device.bindViews]
  split
  · exact .pure
  · refine slot_bind hslot fun f ↦ ?_
    refine .part_bind ?_
    refine .bind (.lift .allocateSet) fun set ↦ ?_
    exact .bind (.lift .push) fun _ ↦ record hslot

end Slot

end Goes

/-! ### Two devices -/

/-- The device with another frame and screen, and without a target for its pass. -/
def untargeted (d : Device) (frame : Option FrameState) (screen : Swapchain) : Device :=
  { d with frame, screen, active := d.active.map ({ · with recording := false }) }

/-- A device records a pass into the screen, or did so before, and has the frame and the screen of
`d₀`. -/
structure Follows (d₀ d : Device) : Prop where
  /-- The frame is. -/
  frame : d.frame = d₀.frame
  /-- The screen is. -/
  screen : d.screen = d₀.screen
  /-- There is a slot to record with. -/
  slot : (d.slots[d.slotIndex]?).isSome = true
  /-- A pass has a target, of the size of the screen. -/
  recording : ∀ a, d.active = some a → a.recording = true ∧ a.extent = d₀.screen.extent

/-- The pass may be over, and textures marked. -/
theorem Follows.outside {d₀ d : Device} (h : d₀.Follows d) (textures : TextureMap) :
    d₀.Follows { d with active := none, textures } :=
  ⟨h.frame, h.screen, h.slot, fun _ ha ↦ by simp at ha⟩

/-- Two devices in a pass into the screen, which only has a target on the first one. They are the
same but for their frames and screens, which stay as they were in `s₀` and `t₀`, and the driver of
the second one does nothing. -/
structure Parallel (s₀ t₀ s t : Device × Host) : Prop where
  /-- The first device records. -/
  follows : s₀.1.Follows s.1
  /-- The second device is the same without a target. -/
  device : t.1 = s.1.untargeted t₀.1.frame t₀.1.screen
  /-- No call of the first one fails. -/
  neverFails : s.2.NeverFails
  /-- The second one makes no call. -/
  driver : t.2.driver = t₀.2.driver

/-- The devices are the given ones. -/
structure Pair (t₀ : Device × Host) (d d' : Device) (s t : Device × Host) : Prop where
  /-- The first one. -/
  first : s.1 = d
  /-- The second one. -/
  second : t.1 = d'
  /-- No call of the first one fails. -/
  neverFails : s.2.NeverFails
  /-- The second one makes no call. -/
  driver : t.2.driver = t₀.2.driver

theorem Pair.parallel (hd : s₀.1.Follows d)
    (h : Pair t₀ d (d.untargeted t₀.1.frame t₀.1.screen) s t) :
    Parallel s₀ t₀ s t :=
  ⟨h.first ▸ hd, by rw [h.first]; exact h.second, h.neverFails, h.driver⟩

theorem Pair.journal (h : Pair t₀ d d' s t) (j j' : Log.Journal) :
    Pair t₀ d d' (Log.HasJournal.journal.set j s) (Log.HasJournal.journal.set j' t) :=
  ⟨h.first, h.second, h.neverFails, h.driver⟩

section Rules

variable {x y : DeviceStep α} {Q : α → Device × Host → Device × Host → Prop}
  {E : Device × Host → Device × Host → Prop}

/-- What holds of all such devices holds of any of them. -/
theorem agrees_parallel (h : ∀ d, s₀.1.Follows d →
    Agrees (Pair t₀ d (d.untargeted t₀.1.frame t₀.1.screen)) x y Q E) :
    Agrees (Parallel s₀ t₀) x y Q E := by
  rintro ⟨d, k⟩ t hs
  exact h d hs.follows (d, k) t ⟨rfl, hs.device, hs.neverFails, hs.driver⟩

theorem agrees_part_bind {f g : Device → DeviceStep α}
    (h : Agrees (Pair t₀ d d') (f d) (g d') Q E) :
    Agrees (Pair t₀ d d') (RunOn.part >>= f) (RunOn.part >>= g) Q E := by
  rintro ⟨d, k⟩ ⟨d', k'⟩ hs
  obtain rfl := hs.first
  obtain rfl := hs.second
  exact h (d, k) (d', k') hs

theorem agrees_change_bind {f g : Device → Device} {z w : Unit → DeviceStep α}
    (h : Agrees (Pair t₀ (f d) (g d')) (z ()) (w ()) Q E) :
    Agrees (Pair t₀ d d') (RunOn.change f >>= z) (RunOn.change g >>= w) Q E := by
  rintro ⟨d, k⟩ ⟨d', k'⟩ hs
  obtain rfl := hs.first
  obtain rfl := hs.second
  exact h (f d, k) (g d', k') ⟨rfl, rfl, hs.neverFails, hs.driver⟩

/-- What is recorded for the target is done by the first device alone. -/
theorem agrees_goes {z : DeviceStep Unit} (hz : d.Goes z) :
    Agrees (Pair t₀ d d') z (Pure.pure () : DeviceStep Unit) (fun _ ↦ Pair t₀ d d') E := by
  refine .absorb fun s t hs ↦ ?_
  obtain ⟨d, k⟩ := s
  obtain rfl := hs.first
  obtain ⟨_, k', hrun, hnever⟩ := hz k hs.neverFails
  exact ⟨(d, k'), hrun, rfl, hs.second, hnever, hs.driver⟩

end Rules

theorem activePass_of_some {name : String} {a : ActivePass} (h : s.1.active = some a) :
    activePass name s = .ok a s := by
  rw [activePass, RunOn.part_bind_apply, h]
  rfl

theorem activePass_of_none {name : String} (h : s.1.active = none) :
    activePass name s = Log.refuse source (.outsidePass name) s := by
  rw [activePass, RunOn.part_bind_apply, h]

section Commands

variable (hd : s₀.1.Follows d)
include hd

/-- What is recorded for the target, with nothing after it. -/
theorem parallel_goes {z : DeviceStep Unit} (hz : d.Goes z) :
    Agrees (Pair t₀ d (d.untargeted t₀.1.frame t₀.1.screen)) z (Pure.pure () : DeviceStep Unit)
      (fun _ ↦ Parallel s₀ t₀) (Parallel s₀ t₀) :=
  (agrees_goes hz).mono (fun _ _ h ↦ h) (fun _ _ _ ↦ Pair.parallel hd) fun _ _ h ↦ h

/-- Both devices refuse a command. -/
theorem parallel_refuse {cause : BackendCause} {Q : α → Device × Host → Device × Host → Prop} :
    Agrees (Pair t₀ d (d.untargeted t₀.1.frame t₀.1.screen))
      (Log.refuse source cause : DeviceStep α)
      (Log.refuse source cause) Q (Parallel s₀ t₀) :=
  .refuse fun _ _ j j' h ↦ (h.journal j j').parallel hd

/-- Both devices are in a pass, or refuse a command that needs one. -/
theorem parallel_activePass_bind {name : String} {f g : ActivePass → DeviceStep α}
    {Q : α → Device × Host → Device × Host → Prop}
    (h : ∀ a, d.active = some a → Agrees (Pair t₀ d (d.untargeted t₀.1.frame t₀.1.screen)) (f a)
      (g { a with recording := false }) Q (Parallel s₀ t₀)) :
    Agrees (Pair t₀ d (d.untargeted t₀.1.frame t₀.1.screen)) (activePass name >>= f)
      (activePass name >>= g) Q (Parallel s₀ t₀) := by
  rintro ⟨d, k⟩ ⟨d', k'⟩ hs
  obtain rfl := hs.first
  obtain rfl := hs.second
  rcases ha : d.active with _ | a
  · have ha' : (d.untargeted t₀.1.frame t₀.1.screen).active = none := by rw [untargeted, ha]; rfl
    rw [bind_error ((activePass_of_none ha).trans rfl),
      bind_error ((activePass_of_none ha').trans rfl)]
    exact ⟨rfl, (hs.journal _ _).parallel hd⟩
  · have ha' : (d.untargeted t₀.1.frame t₀.1.screen).active =
      some { a with recording := false } := by
      rw [untargeted, ha]; rfl
    rw [bind_ok (activePass_of_some ha), bind_ok (activePass_of_some ha')]
    exact h a ha (d, k) _ hs

theorem parallel_applyViewport {rect : Rect} {topLeft : Bool} (hrect : rect.Fits)
    (hbelow : topLeft = false → rect.FitsBelow s₀.1.screen.extent.height) :
    Agrees (Pair t₀ d (d.untargeted t₀.1.frame t₀.1.screen)) (applyViewport rect topLeft)
      (applyViewport rect topLeft) (fun _ ↦ Parallel s₀ t₀) (Parallel s₀ t₀) := by
  refine parallel_activePass_bind hd fun a ha ↦ ?_
  obtain ⟨hr, he⟩ := hd.recording a ha
  rw [if_pos hr, if_neg Bool.false_ne_true]
  exact parallel_goes hd <| .orTrap_bind (isSome_flippedViewport? hrect (he ▸ hbelow)) fun _ _ ↦
    .record hd.slot

theorem parallel_fillRects {color : Vec4} {rects : List Rect} (hrects : ∀ r ∈ rects, r.Fits) :
    Agrees (Pair t₀ d (d.untargeted t₀.1.frame t₀.1.screen)) (fillRects color rects)
      (fillRects color rects) (fun _ ↦ Parallel s₀ t₀) (Parallel s₀ t₀) := by
  refine parallel_activePass_bind hd fun a ha ↦ ?_
  rw [if_pos (hd.recording a ha).1, if_neg Bool.false_ne_true]
  refine parallel_goes hd <| .orTrap_bind (isSome_clearRects? hrects) fun clipped _ ↦ ?_
  split
  · exact .record hd.slot
  · exact .pure

theorem parallel_applyUniforms {stage : ShaderStage} {data : List UInt8} :
    Agrees (Pair t₀ d (d.untargeted t₀.1.frame t₀.1.screen)) (applyUniforms stage data)
      (applyUniforms stage data) (fun _ ↦ Parallel s₀ t₀) (Parallel s₀ t₀) := by
  refine parallel_activePass_bind hd fun a ha ↦ ?_
  dsimp only
  cases a.pipeline with
  | none => exact parallel_refuse hd
  | some id =>
    refine agrees_part_bind (.orFail_bind (fun p hp ↦ ?_) fun _ _ h ↦ h.parallel hd)
    refine .ite (fun _ ↦ .refuse_bind fun _ _ j j' h ↦ (h.journal j j').parallel hd) fun _ ↦ ?_
    refine .ite (fun _ ↦ .refuse_bind fun _ _ j j' h ↦ (h.journal j j').parallel hd) fun _ ↦ ?_
    rw [if_pos (hd.recording a ha).1, if_neg Bool.false_ne_true]
    exact parallel_goes hd (.record hd.slot)

theorem parallel_draw {group : Nat} :
    Agrees (Pair t₀ d (d.untargeted t₀.1.frame t₀.1.screen)) (draw group) (draw group)
      (fun _ ↦ Parallel s₀ t₀) (Parallel s₀ t₀) := by
  refine parallel_activePass_bind hd fun a ha ↦ ?_
  dsimp only
  cases a.mesh with
  | none => exact parallel_refuse hd
  | some id =>
    refine agrees_part_bind (.orFail_bind (fun m hm ↦ ?_) fun _ _ h ↦ h.parallel hd)
    cases m.groups[group]? with
    | none => exact parallel_refuse hd
    | some g =>
      dsimp only
      rw [if_pos (hd.recording a ha).1, if_neg Bool.false_ne_true]
      exact parallel_goes hd (.slot_bind hd.slot fun f ↦ .lift .record)

/-- Both devices have the same textures to sample. -/
theorem parallel_sampledViews (ids : List TextureId) :
    Agrees (Pair t₀ d (d.untargeted t₀.1.frame t₀.1.screen)) (sampledViews ids) (sampledViews ids)
      (fun _ ↦ Pair t₀ d (d.untargeted t₀.1.frame t₀.1.screen)) (Parallel s₀ t₀) := by
  induction ids with
  | nil => exact .pure fun _ _ h ↦ h
  | cons id rest ih =>
    refine agrees_part_bind ?_
    have htextures : (d.untargeted t₀.1.frame t₀.1.screen).textures = d.textures := rfl
    dsimp only
    rw [htextures]
    cases d.textures.get? id with
    | none => exact .fail fun _ _ h ↦ h.parallel hd
    | some t =>
      refine .ite (fun _ ↦ .refuse_bind fun _ _ j j' h ↦ (h.journal j j').parallel hd) fun _ ↦ ?_
      exact .bind ih fun views ↦ .pure fun _ _ h ↦ h

theorem parallel_applyDrawState {state : DrawState} :
    Agrees (Pair t₀ d (d.untargeted t₀.1.frame t₀.1.screen)) (applyDrawState state)
      (applyDrawState state) (fun _ ↦ Parallel s₀ t₀) (Parallel s₀ t₀) := by
  refine agrees_part_bind ?_
  refine .orFail_bind (fun p hp ↦ ?_) fun _ _ h ↦ h.parallel hd
  refine .orFail_bind (fun m hm ↦ ?_) fun _ _ h ↦ h.parallel hd
  refine .bind (parallel_sampledViews hd state.textures) fun views ↦ ?_
  refine .ite (fun _ ↦ .refuse_bind fun _ _ j j' h ↦ (h.journal j j').parallel hd) fun _ ↦ ?_
  refine parallel_activePass_bind hd fun a ha ↦ ?_
  refine .ite (fun _ ↦ .refuse_bind fun _ _ j j' h ↦ (h.journal j j').parallel hd) fun _ ↦ ?_
  refine .ite (fun _ ↦ .refuse_bind fun _ _ j j' h ↦ (h.journal j j').parallel hd) fun _ ↦ ?_
  obtain ⟨hr, he⟩ := hd.recording a ha
  rw [if_pos hr, if_neg Bool.false_ne_true]
  -- The draw state is put to use before anything is recorded.
  let bound : Device := { d with active := some (a.use state) }
  have hbound : s₀.1.Follows bound :=
    ⟨hd.frame, hd.screen, hd.slot, fun b hb ↦ Option.some.inj hb ▸ ⟨hr, he⟩⟩
  refine agrees_change_bind ?_
  refine parallel_goes hbound ?_
  refine .bind (.record hbound.slot) fun _ ↦ ?_
  exact .slot_bind hbound.slot fun f ↦ .bind (.lift .bindMesh) fun _ ↦ .bindViews hbound.slot

theorem parallel_endPass :
    Agrees (Pair t₀ d (d.untargeted t₀.1.frame t₀.1.screen)) endPass endPass
      (fun _ ↦ Parallel s₀ t₀) (Parallel s₀ t₀) := by
  refine agrees_part_bind ?_
  rcases ha : d.active with _ | a
  · have ha' : (d.untargeted t₀.1.frame t₀.1.screen).active = none := by rw [untargeted, ha]; rfl
    rw [ha']
    exact parallel_refuse hd
  have ha' : (d.untargeted t₀.1.frame t₀.1.screen).active = some { a with recording := false } := by
    rw [untargeted, ha]; rfl
  rw [ha']
  let left : Device := { d with active := none }
  have hleft : s₀.1.Follows left := hd.outside d.textures
  refine agrees_change_bind ?_
  dsimp only
  rw [if_pos (hd.recording a ha).1, if_neg Bool.false_ne_true]
  -- The pass is over on both devices before its textures are marked.
  have hmarks : Agrees (Pair t₀ left (left.untargeted t₀.1.frame t₀.1.screen))
      (if a.resolves then
        RunOn.change fun d ↦ { d with textures := a.attachments.foldl markResolved d.textures }
      else pure () : DeviceStep Unit)
      (if a.resolves then
        RunOn.change fun d ↦ { d with textures := a.attachments.foldl markResolved d.textures }
      else pure () : DeviceStep Unit) (fun _ ↦ Parallel s₀ t₀) (Parallel s₀ t₀) := by
    refine .ite (fun _ ↦ ?_) fun _ ↦ .pure fun _ _ h ↦ h.parallel hleft
    rintro ⟨_, k⟩ ⟨_, k'⟩ ⟨rfl, rfl, hnever, hdriver⟩
    exact ⟨rfl, hd.outside _, rfl, hnever, hdriver⟩
  exact Agrees.bind (y := Pure.pure ()) (agrees_goes (.record hleft.slot)) fun _ ↦ hmarks

end Commands

/-- The command is one of those that are given in a pass, and signed words hold the edges of its
rectangles in a target of the extent. -/
def Drawable (e : Extent) : GraphicsDevice.Command → Prop
  | .applyViewport rect topLeft => rect.Fits ∧ (topLeft = false → rect.FitsBelow e.height)
  | .fillRects _ rects => ∀ r ∈ rects, r.Fits
  | .applyDrawState _ | .applyUniforms _ _ | .draw _ | .endPass => True
  | _ => False

/-- Both devices answer a command in a pass the same, whether they take or refuse it. -/
theorem agrees_answer {c : GraphicsDevice.Command} (hc : Drawable s₀.1.screen.extent c) :
    Agrees (Parallel s₀ t₀) c.answer c.answer (fun _ ↦ Parallel s₀ t₀) (Parallel s₀ t₀) := by
  cases c with
  | applyViewport =>
    exact .map (agrees_parallel fun d hd ↦ parallel_applyViewport hd hc.1 hc.2)
  | fillRects => exact .map (agrees_parallel fun d hd ↦ parallel_fillRects hd hc)
  | applyDrawState => exact .map (agrees_parallel fun d hd ↦ parallel_applyDrawState hd)
  | applyUniforms => exact .map (agrees_parallel fun d hd ↦ parallel_applyUniforms hd)
  | draw => exact .map (agrees_parallel fun d hd ↦ parallel_draw hd)
  | endPass => exact .map (agrees_parallel fun d hd ↦ parallel_endPass hd)
  | createTexture | createMesh | createShader | createPipeline | createPass | destroy | beginPass
  | commitFrame | requestQuit => exact hc.elim

/-! ### The beginning of the pass -/

/-- The device has another frame or screen, and is the same otherwise. -/
def Reframed (d : Device) (s : Device × Host) : Prop :=
  ∃ frame screen, s.1 = { d with frame, screen }

section Begin

variable {E : EngineError → Device × Host → Prop}

theorem reframed_slot : Meets (Reframed d) slot (fun _ ↦ Reframed d) E :=
  meets_look fun _ ↦ .orTrap fun _ _ _ h ↦ h

theorem reframed_ensureFrame : Keeps (Reframed d) ensureFrame := by
  refine meets_look fun _ ↦ .ite (fun _ ↦ ?_) fun _ ↦ .pure fun _ h ↦ h
  have hbegin (f : FrameSlot) : Keeps (Reframed d) (liftM f.begin : DeviceStep Unit) :=
    Meets.snd fun s ↦ Keeps.const (p := ∃ frame screen, s = { d with frame, screen })
  refine .bind reframed_slot fun f ↦ .bind (hbegin f) fun _ ↦ .update ?_
  rintro s ⟨frame, screen, hs⟩
  exact ⟨some {}, screen, by rw [hs]⟩

theorem reframed_changeFrame {g : FrameState → FrameState} :
    Keeps (Reframed d) (changeFrame g) := by
  refine .update ?_
  rintro s ⟨frame, screen, hs⟩
  exact ⟨_, screen, by rw [hs]⟩

theorem reframed_onScreen {x : RunOn Swapchain α} : Keeps (Reframed d) (onScreen x) := by
  refine .within ?_
  rintro s ⟨frame, screen, hs⟩
  have hset (t : Swapchain × Host) : Reframed d (screenLens.beside.set t s) :=
    ⟨frame, t.1, by show { s.1 with screen := t.1 } = _; rw [hs]⟩
  exact Meets.any.mono (fun _ _ ↦ trivial) (fun _ t _ ↦ hset t) fun _ t _ ↦ hset t

theorem reframed_screenImage : Keeps (Reframed d) screenImage := by
  have htake (n : ℕ) : Keeps (Reframed d) (do
      let image ← onScreen (Swapchain.acquire n)
      changeFrame ({ · with image })
      return image) :=
    .bind reframed_onScreen fun _ ↦ .bind reframed_changeFrame fun _ ↦ .pure fun _ h ↦ h
  refine meets_look fun d' ↦ ?_
  split
  · exact .refuse fun _ _ h ↦ h
  · refine .ite (fun _ ↦ .pure fun _ h ↦ h) fun _ ↦ .bind reframed_changeFrame fun _ ↦ ?_
    refine .ite (fun _ ↦ .bind reframed_onScreen fun _ ↦ meets_look fun _ ↦ ?_) fun _ ↦ htake _
    exact .ite (fun _ ↦ .pure fun _ h ↦ h) fun _ ↦ htake _

/-- A pass has a target if there is an image. -/
theorem reframed_screenTarget {action : PassAction} :
    Meets (Reframed d) (screenTarget action)
      (fun p s ↦ Reframed d s ∧ p.1 = s.1.screenPass p.2.isSome) fun _ ↦ Reframed d := by
  refine .bind reframed_changeFrame fun _ ↦ .bind reframed_screenImage fun image ↦ ?_
  rintro ⟨d', k⟩ h
  cases image with
  | none => exact ⟨h, rfl⟩
  | some index =>
    refine Meets.orTrap_bind (P := (· = (d', k))) (fun framebuffer _ ↦ .pure ?_) (d', k) rfl
    rintro _ rfl
    exact ⟨h, rfl⟩

/-- What is recorded is recorded with a slot. -/
theorem meets_recordSlotted {r : Recorded} :
    Meets (fun s ↦ s.1 = d) (record r)
      (fun _ s ↦ (d.slots[d.slotIndex]?).isSome = true ∧ s.1 = d) E := by
  rintro ⟨d, k⟩ rfl
  refine (meets_recordGainsFirst (k := k)).post ?_ (d, k) ⟨rfl, .refl k⟩
  rintro _ s ⟨f, hslot, hs⟩
  exact ⟨Option.isSome_of_eq_some hslot, hs.1⟩

/-- The pass into the screen begins, with the screen as it is by then. -/
theorem meets_beginScreen {action : PassAction} :
    Meets (fun s ↦ s.1 = d) (beginPass none action)
      (fun _ s ↦ ∃ frame screen recording,
        s.1 = { d with frame, screen, active := some ({ d with screen }.screenPass recording) } ∧
        (recording = true → (d.slots[d.slotIndex]?).isSome = true)) fun _ _ ↦ True := by
  have hbegin (d' : Device) (extent : Extent) (t : Target) :
      Meets (fun s ↦ s.1 = d') (recordBegin extent t)
        (fun _ s ↦ (d'.slots[d'.slotIndex]?).isSome = true ∧ s.1 = d') fun _ _ ↦ True := by
    refine .orTrap_bind fun _ _ ↦ ?_
    refine .bind meets_recordSlotted fun _ ↦ .assume fun _ ↦ ?_
    exact .bind meets_recordSlotted fun _ ↦ .assume fun _ ↦ meets_recordSlotted
  refine meets_look fun _ ↦ .ite (fun _ ↦ .refuse_bind fun _ _ _ ↦ trivial) fun _ ↦ ?_
  refine .bind (Q := fun _ ↦ Reframed d) (reframed_ensureFrame.mono (fun s hs ↦ ?_)
    (fun _ _ h ↦ h) fun _ _ _ ↦ trivial) fun _ ↦ ?_
  · exact ⟨d.frame, d.screen, hs⟩
  refine .bind (reframed_screenTarget.mono (fun _ h ↦ h) (fun _ _ h ↦ h) fun _ _ _ ↦ trivial)
    fun ⟨active, target⟩ ↦ ?_
  rintro ⟨d', k⟩ ⟨⟨frame, screen, hd'⟩, hactive⟩
  obtain rfl : d' = { d with frame, screen } := hd'
  have hactive : active = ({ d with screen }.screenPass target.isSome) := hactive
  subst hactive
  cases target with
  | none => exact ⟨frame, screen, false, rfl, nofun⟩
  | some t =>
    refine Meets.bind (hbegin _ _ t) (fun _ ↦ .update ?_) (_, k) rfl
    rintro ⟨_, k'⟩ ⟨hslot, rfl⟩
    exact ⟨frame, screen, true, rfl, fun _ ↦ hslot⟩

end Begin

/-- Two devices that are the same but for their screens begin a pass into the screen. The first one
has an image for it and the second one has none, and then their screens look the same. -/
structure BeginParallel (action : PassAction) (u v s t : Device × Host) : Prop where
  /-- Only the screens may differ before. -/
  same : v.1 = { u.1 with screen := v.1.screen }
  /-- The first device begins the pass. -/
  first : GraphicsDevice.beginPass none action u = .ok () s
  /-- The second device begins the pass. -/
  second : GraphicsDevice.beginPass none action v = .ok () t
  /-- The first one has an image. -/
  image : s.1.active.any (·.recording)
  /-- The second one has none. -/
  none : ¬t.1.active.any (·.recording)
  /-- The screens look the same. -/
  display : t.1.display = s.1.display
  /-- No call fails from now on. -/
  neverFails : s.2.NeverFails

variable {u v : Device × Host} {action : PassAction} {commands : List GraphicsDevice.Command}

theorem BeginParallel.parallel (h : BeginParallel action u v s t) : Parallel s t s t := by
  obtain ⟨frame, screen, recording, hs, hslot⟩ := meets_beginScreen.ok rfl h.first
  obtain ⟨frame', screen', recording', ht, -⟩ := meets_beginScreen.ok rfl h.second
  have hrecording : recording = true := by simpa [hs, screenPass] using h.image
  have hrecording' : recording' = false := by simpa [ht, screenPass] using h.none
  subst hrecording hrecording'
  have hlook : screen'.extent = screen.extent ∧ screen'.colorFormat = screen.colorFormat := by
    have hdisplay := h.display
    rw [hs, ht] at hdisplay
    injection hdisplay with hwidth hheight hformat
    have hextent : screen'.extent = screen.extent :=
      (Extent.mk.injEq ..).mpr ⟨hwidth, hheight⟩
    exact ⟨hextent, hformat⟩
  have hdevice : t.1 = s.1.untargeted t.1.frame t.1.screen := by
    rw [ht, hs, h.same]
    simp only [untargeted, screenPass, hlook, Option.map_some]
  have hfollows : s.1.Follows s.1 := by
    refine ⟨rfl, rfl, ?_, fun a ha ↦ ?_⟩
    · rw [hs]
      exact hslot rfl
    · rw [hs] at ha ⊢
      obtain rfl := Option.some.inj ha
      exact ⟨rfl, rfl⟩
  exact ⟨hfollows, hdevice, h.neverFails, rfl⟩

/-- **Whether there is an image of the screen makes no difference to what is checked.** Two devices
begin a pass into the screen, and only the first one has an image for it. Of any commands in the
pass, both take the same and refuse the same with the same error. They stay the same but for the
target of the pass, and the driver of the second one does nothing. -/
theorem together_of_beginPass (h : BeginParallel action u v s t)
    (hdrawable : ∀ c ∈ commands, Drawable s.1.screen.extent c) :
    GraphicsDevice.Together (Parallel s t) commands s t :=
  .of_agrees (fun c hc ↦ agrees_answer (hdrawable c hc)) h.parallel

/-! ### A screen that is out of date -/

instance (e : Extent) : (c : GraphicsDevice.Command) → Decidable (Drawable e c)
  | .applyViewport rect topLeft =>
    inferInstanceAs (Decidable (rect.Fits ∧ (topLeft = false → rect.FitsBelow e.height)))
  | .fillRects _ rects => inferInstanceAs (Decidable (∀ r ∈ rects, r.Fits))
  | .applyDrawState _ | .applyUniforms _ _ | .draw _ | .endPass => isTrue trivial
  | .createTexture _ | .createMesh _ | .createShader _ | .createPipeline _ | .createPass _
  | .destroy _ | .beginPass _ _ | .commitFrame | .requestQuit => isFalse id

/-- The next image that is asked for is that of a screen which is out of date. -/
def outOfDate (s : Device × Host) : Device × Host :=
  (s.1, { s.2 with driver := { s.2.driver with script := [⟨.acquire, 1, .outOfDate⟩] } })

/-- A pass begins with an image, and without one if the screen is out of date. -/
def beginsParallel (check : Device × Host → Device × Host → Bool) (u : Device × Host) : Bool :=
  match GraphicsDevice.beginPass none {} u, GraphicsDevice.beginPass none {} (outOfDate u) with
  | .ok _ s, .ok _ t => s.1.active.any (·.recording) && (!t.1.active.any (·.recording) &&
      (t.1.display == s.1.display && (s.2.driver.script.isEmpty && check s t)))
  | _, _ => false

/-- It does so after everything for a draw with a texture was made. -/
def preparesParallel (check : Device × Host → Device × Host → Bool) (s : Device × Host) : Bool :=
  (settleAll ((GraphicsDevice.samplingDraw.take 4).map GraphicsDevice.Command.answer) s).any
    (beginsParallel check)

theorem exists_beginParallel {check : Device × Host → Device × Host → Bool} (hs : IsNew s)
    (hcheck : preparesParallel check s = true) :
    ∃ l u v s t, Reached l u ∧ BeginParallel {} u v s t ∧ check s t = true := by
  rw [preparesParallel] at hcheck
  obtain ⟨u, hu, hcheck⟩ := GraphicsDevice.exists_accepted IsNew Happens hs hcheck
  rw [beginsParallel] at hcheck
  split at hcheck
  · next _ s _ t hs ht =>
    simp only [Bool.and_eq_true, beq_iff_eq, Bool.not_eq_true', List.isEmpty_iff] at hcheck
    obtain ⟨himage, hnone, hdisplay, hnever, hcheck⟩ := hcheck
    exact ⟨_, u, outOfDate u, s, t, hu,
      ⟨rfl, hs, ht, himage, Bool.eq_false_iff.1 hnone, hdisplay, hnever⟩, hcheck⟩
  · cases hcheck

/-- Commands for a pass. Two of them are refused. -/
def untargetedDraws : List GraphicsDevice.Command :=
  [.draw 0, .applyViewport ⟨0, 0, 640, 480⟩ false, .applyDrawState ⟨⟨1, 1⟩, ⟨1, 1⟩, [⟨1, 1⟩]⟩,
   .draw 0, .draw 7, .fillRects .black [⟨-8, -8, 64, 64⟩, ⟨600, 400, 64, 64⟩], .endPass]

/-- A quad is drawn with a texture, whether there is an image to draw it into or not. -/
theorem together_of_untargetedDraws :
    ∃ l u v s t, Reached l u ∧ BeginParallel {} u v s t ∧
      (GraphicsDevice.accepted untargetedDraws s).length = 5 ∧
      GraphicsDevice.Together (Parallel s t) untargetedDraws s t := by
  obtain ⟨_, hnew, hcheck⟩ := exists_new plainSurface []
    (preparesParallel fun s _ ↦ s.1.screen.extent == ⟨640, 480⟩ &&
      (GraphicsDevice.accepted untargetedDraws s).length == 5) (by decide +kernel)
  obtain ⟨l, u, v, s, t, hu, hbegin, hcheck⟩ := exists_beginParallel hnew hcheck
  simp only [Bool.and_eq_true, beq_iff_eq] at hcheck
  obtain ⟨hextent, haccepted⟩ := hcheck
  have hdrawable : ∀ c ∈ untargetedDraws, Drawable s.1.screen.extent c := by
    rw [hextent]
    decide +kernel
  exact ⟨l, u, v, s, t, hu, hbegin, haccepted, together_of_beginPass hbegin hdrawable⟩

/-- A pixel far below the bottom of the screen. -/
def farBelow : Rect := ⟨0, -2147483648, 1, 1⟩

/-- The first device traps in the viewport, and the second one takes it. -/
def partsAtFarBelow (s t : Device × Host) : Bool :=
  match (GraphicsDevice.Command.applyViewport farBelow false).answer s,
    (GraphicsDevice.Command.applyViewport farBelow false).answer t with
  | .error .trap _, .ok none _ => true
  | _, _ => false

/-- The far edges of a rectangle are words, but it is so far below the screen that its edges
counted from the top are not. As a viewport it makes the device with an image trap, and the device
without one takes it. -/
theorem applyViewport_trap :
    farBelow.Fits ∧ ∃ l u v s t, Reached l u ∧ BeginParallel {} u v s t ∧
      (∃ s', (GraphicsDevice.Command.applyViewport farBelow false).answer s = .error .trap s') ∧
      (∃ t', (GraphicsDevice.Command.applyViewport farBelow false).answer t = .ok none t') ∧
      ¬GraphicsDevice.Together (Parallel s t) [.applyViewport farBelow false] s t := by
  obtain ⟨_, hnew, hcheck⟩ := exists_new plainSurface [] (preparesParallel partsAtFarBelow)
    (by decide +kernel)
  obtain ⟨l, u, v, s, t, hu, hbegin, hcheck⟩ := exists_beginParallel hnew hcheck
  refine ⟨by decide +kernel, l, u, v, s, t, hu, hbegin, ?_⟩
  rw [partsAtFarBelow] at hcheck
  split at hcheck
  · next s' t' hs ht =>
    refine ⟨⟨s', hs⟩, ⟨t', ht⟩, fun h ↦ ?_⟩
    have hagree := h.2
    rw [hs] at hagree
    exact hagree.elim
  · cases hcheck

end Device

end RenderTargets.Vulkan
