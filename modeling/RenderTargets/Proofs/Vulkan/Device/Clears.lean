import RenderTargets.Proofs.Vulkan.Device.WithoutTarget
import RenderTargets.Proofs.Vulkan.Device.Serving
/-!
# What is cleared, and where

Of rectangles to clear a device records the parts that lie in the target of the pass. These are the
exact parts if the rectangles and the target fit (`exists_clearRects?`). In any case they lie in the
area of the render pass instance that the buffer is in (`Reached.cleared_within`): only one move
records them, in a pass with a target, and an instance is begun with all of the target for its area.

## What traps

Inside a pass with a target, nothing but arithmetic can go wrong (`answers_inPass`). For rectangles
that fit nothing does. Others may trap although no pixel of them is far from the target, or be
passed over although they cover it (`fillRects_wrapped`).
-/

namespace RenderTargets.Vulkan.Device

open StepWith GraphicsDevice

variable {l : List (GraphicsDevice.Command × Option ResourceId)} {s t : Device × Host}
  {cs : List GraphicsDevice.Command} {later past : List Call} {b : Object .commandBuffer}
  {attachments : List UInt32} {color : Vec4} {parts : List Rect} {u : Option DrawState}

/-! ### Clears in a trace -/

/-- In this state parts of rectangles are cleared in the buffer, in a pass with a target. -/
inductive Clears (s : Device × Host) (b : Object .commandBuffer) (parts : List Rect) : Prop
  | intro {a f rects} (active : s.1.active = some a) (recording : a.recording = true)
      (slot : s.1.slots[s.1.slotIndex]? = some f) (buffer : f.commands = b)
      (clip : clearRects? a.extent rects = some parts)

/-- Parts that are cleared were cleared before the move, or are what the move records. -/
theorem Move.clearing_cases (h : Move cs s t)
    (hcalls : t.2.driver.calls =
      later ++ .record b (.clearAttachments attachments color parts) :: past) :
    (∃ earlier, s.2.driver.calls =
        earlier ++ .record b (.clearAttachments attachments color parts) :: past) ∨
      s.2.driver.calls = past ∧ Clears s b parts := by
  have hbinds {f : FrameSlot} {p : Pipeline} {m : Mesh} :
      .record b (.clearAttachments attachments color parts) ∉ f.binds p m := by
    rw [FrameSlot.binds, Mesh.binds]
    cases m.indices <;> simp
  cases h with
  | note | next | enterUntargeted | leaveUntargeted => exact .inl ⟨later, hcalls⟩
  | bindUntargeted _ _ _ rests => exact .inl ⟨later, rests ▸ hcalls⟩
  | outsideFrames grows | release _ _ grows => exact .inl (grows.record_before id hcalls)
  | make stores => exact .inl (stores.grows.record_before id hcalls)
  | screen _ works =>
    have hgrows : Driver.Grows .null _ _ := works.grows
    exact .inl (hgrows.record_before id hcalls)
  | begin _ _ _ gains | submit _ _ _ gains | leave _ _ _ gains =>
    exact .inl (gains.call_before (by simp) hcalls)
  | enter _ _ _ _ gains => exact .inl (gains.call_before (by simp [beginsOf]) hcalls)
  | stall _ _ gains steps => exact .inl (gains.call_before (fun hmem ↦ steps _ hmem) hcalls)
  | bind _ _ _ _ fetches gains =>
    refine .inl (gains.call_before (fun hmem ↦ ?_) hcalls)
    cases fetches with
    | unneeded => exact hbinds hmem
    | made => simp [hbinds] at hmem
  | misbind _ _ _ _ _ gains => exact .inl (gains.call_before (by simp [hbinds]) hcalls)
  | record active recording slot records gains =>
    cases later with
    | cons c later => exact .inl ⟨later, (List.cons.inj (gains.calls.symm.trans hcalls)).2⟩
    | nil =>
      obtain ⟨hrecord, hpast⟩ := List.cons.inj (gains.calls.symm.trans hcalls)
      obtain ⟨hbuffer, rfl⟩ := Call.record.inj hrecord
      cases records with
      | clear clip => exact .inr ⟨hpast, active, recording, slot, hbuffer, clip⟩
      | draw _ _ _ drawn =>
        split at drawn <;> cases drawn

/-- Among moves there is one that recorded what was cleared. -/
theorem Moves.exists_clears (h : Moves s cs t)
    (hcalls : t.2.driver.calls =
      later ++ .record b (.clearAttachments attachments color parts) :: past) :
    (∃ earlier, s.2.driver.calls =
        earlier ++ .record b (.clearAttachments attachments color parts) :: past) ∨
      ∃ cs' v, Moves s cs' v ∧ v.2.driver.calls = past ∧ Clears v b parts := by
  induction h generalizing later with
  | refl => exact .inl ⟨later, hcalls⟩
  | step moves move ih =>
    rcases move.clearing_cases hcalls with ⟨earlier, hearlier⟩ | ⟨hpast, hclears⟩
    · exact ih hearlier
    · exact .inr ⟨_, _, moves, hpast, hclears⟩

/-- Where parts are cleared, they lie in the area of the render pass instance. -/
theorem InPass.cleared_within (h : InPass u s) (hclears : Clears s b parts) :
    ∃ info, passOf (contents b s.2.driver.calls) = some info ∧
      ∀ q ∈ parts, q.HasPixels ∧ q.IsWithin info.area := by
  obtain ⟨active, recording, slot, buffer, clip⟩ := hclears
  obtain ⟨g, hg, hholds⟩ := h.holds _ active recording
  obtain rfl := Option.some.inj (slot.symm.trans hg)
  obtain ⟨info, hinfo, -⟩ := hholds.target
  refine ⟨info, buffer ▸ hinfo, ?_⟩
  rw [hholds.area info hinfo]
  exact clearRects?_within clip

/-- **Whatever is cleared lies in the area of the render pass instance** that the buffer is in. -/
theorem Reached.cleared_within (h : Reached l t)
    (hcalls : t.2.driver.calls =
      later ++ .record b (.clearAttachments attachments color parts) :: past) :
    ∃ info, passOf (contents b past) = some info ∧
      ∀ q ∈ parts, q.HasPixels ∧ q.IsWithin info.area := by
  obtain ⟨s, cs, hs, hmoves⟩ := Reached.moves h
  rcases hmoves.exists_clears hcalls with ⟨earlier, hearlier⟩ | ⟨cs', v, hv, rfl, hclears⟩
  · -- Nothing was cleared while the device was set up.
    obtain ⟨k, hempty, hgrows⟩ := hs.exists_grows
    obtain ⟨earlier', hearlier'⟩ := hgrows.record_before id hearlier
    simp [hempty] at hearlier'
  · exact (hv.inPass hs.inPass).cleared_within hclears

/-- **Rectangles are clipped exactly.** For a target and rectangles whose sizes and far edges are
signed words there is one part for each rectangle that meets the target, in their order. The parts
have pixels, lie in the target, and together have the pixels that the rectangles have there.
Whatever parts are recorded, they lie in the area of the render pass instance that the buffer is
in. -/
theorem cleared_parts :
    (∀ e : Extent, e.width.toNat < 0x80000000 → e.height.toNat < 0x80000000 →
      ∀ rects : List Rect, (∀ r ∈ rects, r.Fits) →
        ∃ parts, clearRects? e rects = some parts ∧ e.rect.AreParts rects parts) ∧
    ∀ l t later b attachments color parts past, Reached l t →
      t.2.driver.calls = later ++ .record b (.clearAttachments attachments color parts) :: past →
      ∃ info, passOf (contents b past) = some info ∧
        ∀ q ∈ parts, q.HasPixels ∧ q.IsWithin info.area := by
  exact ⟨fun e hw hh rects hrects ↦ exists_clearRects? (e.fits_rect hw hh) hrects,
    fun l t later b attachments color parts past h hcalls ↦ h.cleared_within hcalls⟩

/-- Rectangles on, over, beside and off the edges of a screen of 640 by 480 pixels. -/
def strewnRects : List Rect :=
  [⟨-8, -8, 64, 64⟩, ⟨640, 0, 5, 5⟩, ⟨600, 400, 64, 64⟩, ⟨3, 3, 0, 9⟩, ⟨20, 20, 4, 4⟩]

/-- The parts of them on the screen. -/
def strewnParts : List Rect := [⟨0, 0, 56, 56⟩, ⟨600, 400, 40, 64⟩, ⟨20, 20, 4, 4⟩]

/-- Three of five rectangles are cleared, as far as they are on the screen. -/
theorem cleared_parts_strewn :
    (⟨0, 0, 640, 480⟩ : Rect).AreParts strewnRects strewnParts ∧
      ∃ l t b attachments color past, Reached l t ∧
        t.2.driver.calls = .record b (.clearAttachments attachments color strewnParts) :: past ∧
        ∃ info, passOf (contents b past) = some info ∧
          ∀ q ∈ strewnParts, q.HasPixels ∧ q.IsWithin info.area := by
  obtain ⟨parts, hclear, hparts⟩ := cleared_parts.1 ⟨640, 480⟩ (by decide) (by decide) strewnRects
    (by decide)
  have hvalue : clearRects? ⟨640, 480⟩ strewnRects = some strewnParts := by decide
  obtain rfl : parts = strewnParts := Option.some.inj (hclear.symm.trans hvalue)
  refine ⟨hparts, ?_⟩
  obtain ⟨s, hnew, hcheck⟩ := exists_new plainSurface []
    (fun s ↦ (settleAll ([GraphicsDevice.Command.beginPass none {},
      .fillRects .black strewnRects].map GraphicsDevice.Command.answer) s).any fun t ↦
        t.2.driver.calls.head? ==
          some (.record ⟨1⟩ (.clearAttachments [0] .black strewnParts))) (by decide +kernel)
  obtain ⟨t, ht, hcheck⟩ := GraphicsDevice.exists_accepted IsNew Happens hnew hcheck
  obtain ⟨past, hcalls⟩ := List.head?_eq_some_iff.1 (eq_of_beq hcheck)
  exact ⟨_, t, _, _, _, past, ht, hcalls, cleared_parts.2 _ t [] _ _ _ _ past ht hcalls⟩

/-! ### What traps -/

section InPass

variable {a : ActivePass} {f : FrameSlot} {rect : Rect} {rects : List Rect} {topLeft : Bool}

/-- The numbers of all color attachments of a pass. -/
def colorAttachments (a : ActivePass) : List UInt32 :=
  (List.range a.signature.colorCount.toNat).map UInt32.ofNat

/-- The device after a command was recorded in the buffer of a slot. -/
def recorded (s : Device × Host) (f : FrameSlot) (r : Recorded) : Device × Host :=
  (s.1, { s.2 with driver := s.2.driver.push (.record f.commands r) })

theorem record_of_slot {r : Recorded} (hslot : s.1.slots[s.1.slotIndex]? = some f) :
    record r s = .ok () (recorded s f r) := by
  have hf : slot s = .ok f s := by
    rw [slot, RunOn.part_bind_apply, hslot]
    rfl
  rw [record, bind_ok hf]
  rfl

theorem orTrap_bind_some {α β : Type} {x : α} {g : α → DeviceStep β} :
    (StepWith.orTrap (some x) >>= g) s = g x s :=
  rfl

section Recording

variable (ha : s.1.active = some a) (hr : a.recording = true)
  (hslot : s.1.slots[s.1.slotIndex]? = some f)
include ha hr hslot

/-- In a pass with a target a viewport whose edges are words is recorded. -/
theorem applyViewport_of_some {v : Viewport}
    (h : flippedViewport? rect topLeft a.extent.height = some v) :
    applyViewport rect topLeft s = .ok () (recorded s f (.viewport v)) := by
  rw [applyViewport, bind_ok (activePass_of_some ha), if_pos hr, h, orTrap_bind_some]
  exact record_of_slot hslot

/-- What is left of rectangles is cleared at once, in all color attachments. -/
theorem fillRects_of_some (h : clearRects? a.extent rects = some parts) :
    fillRects color rects s = .ok () (if parts = [] then s
      else recorded s f (.clearAttachments (colorAttachments a) color parts)) := by
  rw [fillRects, bind_ok (activePass_of_some ha), if_pos hr, h, orTrap_bind_some]
  cases parts with
  | nil => rfl
  | cons q parts => exact record_of_slot hslot

end Recording

theorem applyViewport_of_none (ha : s.1.active = some a) (hr : a.recording = true)
    (h : flippedViewport? rect topLeft a.extent.height = none) :
    applyViewport rect topLeft s = .error .trap s := by
  rw [applyViewport, bind_ok (activePass_of_some ha), if_pos hr, h]
  rfl

theorem fillRects_of_none (ha : s.1.active = some a) (hr : a.recording = true)
    (h : clearRects? a.extent rects = none) : fillRects color rects s = .error .trap s := by
  rw [fillRects, bind_ok (activePass_of_some ha), if_pos hr, h]
  rfl

end InPass

/-- **Inside a pass with a target, only edges that are no words go wrong.** A viewport that fits is
taken, counted from the bottom if its edges fit there too. Rectangles are taken if all their far
edges are words, and trap otherwise. If they fit in a target that does, their parts in it are
cleared in all color attachments, by one command, or by none if there is no part. -/
theorem answers_inPass {a : ActivePass} (h : Reached l s) (ha : s.1.active = some a)
    (hr : a.recording = true) :
    ∃ f, s.1.slots[s.1.slotIndex]? = some f ∧
      (∀ rect topLeft, rect.Fits → (topLeft = false → rect.FitsBelow a.extent.height) →
        ∃ v, applyViewport rect topLeft s = .ok () (recorded s f (.viewport v))) ∧
      ∀ color rects,
        ((∀ r ∈ rects, r.right?.isSome ∧ r.bottom?.isSome) →
          ∃ t, fillRects color rects s = .ok () t) ∧
        (¬(∀ r ∈ rects, r.right?.isSome ∧ r.bottom?.isSome) →
          fillRects color rects s = .error .trap s) ∧
        (a.extent.rect.Fits → (∀ r ∈ rects, r.Fits) → ∃ parts,
          a.extent.rect.AreParts rects parts ∧
          fillRects color rects s = .ok () (if parts = [] then s
            else recorded s f (.clearAttachments (colorAttachments a) color parts))) := by
  obtain ⟨f, hslot, -⟩ := h.inPass.holds a ha hr
  refine ⟨f, hslot, fun rect topLeft hfits hbelow ↦ ?_, fun color rects ↦ ⟨fun hedges ↦ ?_,
    fun hedges ↦ ?_, fun htarget hfits ↦ ?_⟩⟩
  · obtain ⟨v, hv⟩ := Option.isSome_iff_exists.1 (isSome_flippedViewport? hfits hbelow)
    exact ⟨v, applyViewport_of_some ha hr hslot hv⟩
  · obtain ⟨parts, hparts⟩ := Option.isSome_iff_exists.1 (isSome_clearRects?_iff.2 hedges)
    exact ⟨_, fillRects_of_some ha hr hslot hparts⟩
  · rw [← isSome_clearRects?_iff (e := a.extent), Option.not_isSome_iff_eq_none] at hedges
    exact fillRects_of_none ha hr hedges
  · obtain ⟨parts, hclear, hparts⟩ := exists_clearRects? htarget hfits
    exact ⟨parts, hparts, fillRects_of_some ha hr hslot hclear⟩

/-- Whether the device is in a pass with a target of 640 by 480 pixels. -/
def inScreenPass (s : Device × Host) : Bool :=
  s.1.active.any fun a ↦ a.recording && a.extent == ⟨640, 480⟩

theorem exists_inScreenPass :
    ∃ l s a, Reached l s ∧ s.1.active = some a ∧ a.recording = true ∧ a.extent = ⟨640, 480⟩ := by
  obtain ⟨s, hnew, hcheck⟩ := exists_new plainSurface []
    (fun s ↦ (settleAll ([GraphicsDevice.Command.beginPass none {}].map
      GraphicsDevice.Command.answer) s).any inScreenPass) (by decide +kernel)
  obtain ⟨t, ht, hcheck⟩ := GraphicsDevice.exists_accepted IsNew Happens hnew hcheck
  obtain ⟨a, ha, hpass⟩ := (Option.any_eq_true _ _).1 hcheck
  obtain ⟨hr, he⟩ := Bool.and_eq_true_iff.1 hpass
  exact ⟨_, t, a, ht, ha, hr, eq_of_beq he⟩

/-- Rectangles on and off a screen are cleared, and one of them is drawn to. -/
theorem answers_inPass_screen :
    ∃ l s a f v parts, Reached l s ∧ s.1.active = some a ∧ a.recording = true ∧
      applyViewport ⟨-8, -8, 64, 64⟩ false s = .ok () (recorded s f (.viewport v)) ∧
      a.extent.rect.AreParts strewnRects parts ∧
      fillRects .black strewnRects s = .ok () (if parts = [] then s
        else recorded s f (.clearAttachments (colorAttachments a) .black parts)) := by
  obtain ⟨l, s, a, h, ha, hr, he⟩ := exists_inScreenPass
  obtain ⟨f, -, hviewport, hfill⟩ := answers_inPass h ha hr
  obtain ⟨v, hv⟩ := hviewport ⟨-8, -8, 64, 64⟩ false (by decide) (by rw [he]; decide)
  obtain ⟨parts, hparts, hcleared⟩ := (hfill .black strewnRects).2.2 (by rw [he]; decide)
    (by decide)
  exact ⟨l, s, a, f, v, parts, h, ha, hr, hv, hparts, hcleared⟩

/-- A rectangle of one pixel far to the right of the screen traps, as the edge after it is no word.
So does a viewport of one pixel far below the screen. A row so long that its width is taken for a
negative number is passed over, although it covers the first row of the screen. -/
theorem fillRects_wrapped :
    ∃ l s a, Reached l s ∧ s.1.active = some a ∧ a.recording = true ∧ a.extent = ⟨640, 480⟩ ∧
      applyViewport ⟨0, 2147483647, 1, 1⟩ true s = .error .trap s ∧
      fillRects .black [⟨2147483647, 0, 1, 1⟩] s = .error .trap s ∧
      fillRects .black [⟨0, 0, 2147483648, 1⟩] s = .ok () s ∧
      ∀ x, 0 ≤ x → x < 640 →
        a.extent.rect.Contains x 0 ∧ Rect.Contains ⟨0, 0, 2147483648, 1⟩ x 0 := by
  obtain ⟨l, s, a, h, ha, hr, he⟩ := exists_inScreenPass
  obtain ⟨f, hslot, -⟩ := h.inPass.holds a ha hr
  refine ⟨l, s, a, h, ha, hr, he, applyViewport_of_none ha hr (by rw [he]; decide),
    fillRects_of_none ha hr (by rw [he]; decide), ?_, fun x hmin hmax ↦ ?_⟩
  · have hnone : clearRects? a.extent [⟨0, 0, 2147483648, 1⟩] = some [] := by
      rw [he]
      decide
    exact fillRects_of_some ha hr hslot hnone
  · rw [he]
    exact ⟨⟨⟨hmin, hmax⟩, by decide⟩, ⟨hmin, hmax.trans (by decide)⟩, by decide⟩

end RenderTargets.Vulkan.Device
