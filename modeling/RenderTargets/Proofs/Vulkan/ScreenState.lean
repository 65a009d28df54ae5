import Mathlib.Logic.Relation
import RenderTargets.Proofs.Vulkan.Rounds
import RenderTargets.Vulkan.Device.Basic
/-!
# What of a device matters to the images of its screen

Little of a device matters to the images of its screen: its slots and their semaphores, the
swapchain and whether it is marked, and what there is of a frame. This is its `ScreenState`. It
changes with an `Action`, one for each thing that a device does, and with a frame being handed over
(`HandOver`). No action is about what a device draws, so what follows is true of anything with such
a state.

* A state that is steady stays so, and its trace is one of whole rounds (`ScreenState.IsSteady`).
* After an occasion to renew the swapchain, an image is only asked for when that was done
  (`ScreenState.IsDue`).
* Within a frame at most one image is asked for (`ScreenState.budget`).
-/

namespace RenderTargets.Vulkan

/-- What of a device matters to the images of its screen. -/
structure ScreenState where
  /-- What frames are recorded with. -/
  slots : List FrameSlot
  /-- Position of the slot in use. -/
  slotIndex : ℕ
  /-- For each slot, what tells that its image is there. -/
  available : List (Object .semaphore)
  /-- The swapchain. -/
  swapchain : Object .swapchain
  /-- The swapchain no longer fits. -/
  marked : Bool
  /-- The frame that is being recorded. -/
  frame : Option FrameState
  /-- The calls made so far, the latest first. -/
  calls : List Call

namespace ScreenState

/-- The slot in use. -/
def slot? (p : ScreenState) : Option FrameSlot := p.slots[p.slotIndex]?

/-- What tells that the image of the frame is there. -/
def available? (p : ScreenState) : Option (Object .semaphore) :=
  p.available[p.slotIndex % p.available.length]?

/-- The image that is rendered into in this frame. -/
def image (p : ScreenState) : Option ℕ := p.frame.bind (·.image)

/-! ### Actions -/

/-- What a device does within a frame or without one. -/
inductive Action (p : ScreenState) : ScreenState → Prop
  /-- It does something else. The swapchain may become marked. -/
  | offScreen {marked l} (hm : p.marked = true → marked = true)
      (hl : ∀ c ∈ l, c.isOffScreen = true) :
      Action p { p with marked, calls := l ++ p.calls }
  /-- A frame begins. -/
  | begin {f l} (idle : p.frame = none) (slot : p.slot? = some f)
      (hl : ∀ c ∈ l, c.isOffScreen = true) :
      Action p { p with frame := some {}, calls := l ++ .waitForFence f.fence :: p.calls }
  /-- The swapchain is made anew. -/
  | renew {frame swapchain info l} (recording : p.frame = some frame)
      (unasked : frame.asked = false) (made : .createSwapchain swapchain info ∈ l)
      (hl : ∀ c ∈ l, c.ofScreen = true) :
      Action p { p with swapchain, marked := false, calls := l ++ p.calls }
  /-- The swapchain was to be made anew, and could not be. -/
  | fail {frame swapchain l} (recording : p.frame = some frame) (unasked : frame.asked = false)
      (marked : p.marked = true) (hl : ∀ c ∈ l, c.ofScreen = true) :
      Action p { p with
        swapchain, frame := some { frame with asked := true }, calls := l ++ p.calls }
  /-- An image is asked for in vain. -/
  | miss {frame s wanted} (recording : p.frame = some frame) (unasked : frame.asked = false)
      (fits : p.marked = false) (signal : p.available? = some s) :
      Action p { p with
        marked := true, frame := some { frame with asked := true, image := none }
        calls := .failed .acquire wanted .outOfDate :: p.calls }
  /-- An image is asked for. -/
  | take {frame s i code marked} (recording : p.frame = some frame) (unasked : frame.asked = false)
      (fits : p.marked = false) (signal : p.available? = some s)
      (hm : code = .suboptimal → marked = true) :
      Action p { p with
        marked, frame := some { frame with asked := true, image := some i }
        calls := .acquire p.swapchain s i code :: p.calls }

/-- The frame is handed over. -/
inductive HandOver (p : ScreenState) : ScreenState → Prop
  /-- It has no image. -/
  | withoutImage {slotIndex l} (image : p.image = none) (hl : ∀ c ∈ l, c.isOffScreen = true) :
      HandOver p { p with frame := none, slotIndex, calls := l ++ p.calls }
  /-- It has one, and that is shown. -/
  | shown {f s rendered i code queue marked slotIndex l} (image : p.image = some i)
      (slot : p.slot? = some f) (signal : p.available? = some s)
      (hm : p.marked = true ∨ code ≠ .success → marked = true)
        (hl : ∀ c ∈ l, c.isOffScreen = true) :
      HandOver p { p with
        marked, frame := none, slotIndex
        calls := .present queue rendered p.swapchain i code ::
          .submit queue (f.submission (some (s, rendered))) f.fence :: (l ++ p.calls) }

/-- What a device does. -/
def Step (p q : ScreenState) : Prop := Action p q ∨ HandOver p q

variable {p q : ScreenState} {l past : List Call}

/-! ### Slots and semaphores -/

theorem Step.slots_eq (h : Step p q) : q.slots = p.slots ∧ q.available = p.available := by
  rcases h with h | h <;> cases h <;> exact ⟨rfl, rfl⟩

/-- There is a semaphore for each slot, and of its own. -/
structure IsFitted (p : ScreenState) : Prop where
  /-- As many. -/
  length : p.available.length = p.slots.length
  /-- Of its own. -/
  nodup : p.available.Nodup

theorem IsFitted.step (h : p.IsFitted) (hq : Step p q) : q.IsFitted := by
  obtain ⟨hslots, havailable⟩ := hq.slots_eq
  exact ⟨by rw [hslots, havailable, h.length], havailable ▸ h.nodup⟩

theorem IsFitted.available?_eq (h : p.IsFitted) {f : FrameSlot} (hf : p.slot? = some f) :
    p.available? = p.available[p.slotIndex]? := by
  obtain ⟨hlt, -⟩ := List.getElem?_eq_some_iff.1 hf
  rw [available?, Nat.mod_eq_of_lt (h.length ▸ hlt)]

/-! ### Steady states -/

/-- The trace is one of whole rounds, the latest of which was begun if the frame has an image. -/
def IsInRounds (p : ScreenState) : Prop :=
  match p.image with
  | none => Rounds (onScreen p.calls)
  | some i => ∃ s code l, p.available? = some s ∧
      onScreen p.calls = .acquire p.swapchain s i code :: l ∧ Rounds l

/-- How far the signals of semaphores are consumed. -/
structure IsSignalled (p : ScreenState) : Prop where
  /-- The slot in use was waited for. -/
  used : p.frame.isSome = true → ∃ f, p.slot? = some f ∧ f.IsInUse p.calls
  /-- The signals of the other slots are consumed. -/
  spent : ∀ (j : ℕ) (f : FrameSlot) (s : Object .semaphore), p.slots[j]? = some f →
    p.available[j]? = some s → (p.frame.isSome = true → j ≠ p.slotIndex) → f.HasSpent s p.calls
  /-- Until it has an image, the semaphore of the slot in use can be passed. -/
  free : p.frame.isSome = true → p.image = none → ∀ f s, p.slot? = some f →
    p.available[p.slotIndex]? = some s → f.IsFree s p.calls

/-- The images of the screen go in turn. -/
structure IsSteady (p : ScreenState) : Prop where
  /-- The semaphores. -/
  fitted : p.IsFitted
  /-- No image comes without asking. -/
  asked : ∀ frame, p.frame = some frame → frame.asked = false → frame.image = none
  /-- The rounds. -/
  rounds : p.IsInRounds
  /-- The signals. -/
  signals : p.IsSignalled
  /-- The semaphores that were passed. -/
  asks : AsksFreely p.slots p.available p.calls

theorem IsSteady.image_eq_none (h : p.IsSteady) {frame : FrameState} (hf : p.frame = some frame)
    (ha : frame.asked = false) : p.image = none := by
  rw [image, hf]
  exact h.asked frame hf ha

theorem IsInRounds.of_none (h : p.image = none) (hr : Rounds (onScreen p.calls)) :
    p.IsInRounds := by
  rwa [IsInRounds, h]

theorem IsInRounds.rounds (hp : p.IsInRounds) (h : p.image = none) : Rounds (onScreen p.calls) := by
  rwa [IsInRounds, h] at hp

theorem not_mem_wait_of_isQuiet (hl : ∀ c ∈ l, c.isQuiet = true) (fence : Object .fence) :
    .waitForFence fence ∉ l :=
  fun h ↦ Bool.noConfusion (hl _ h)

theorem isQuiet_of_isOffScreen (hl : ∀ c ∈ l, c.isOffScreen = true) : ∀ c ∈ l, c.isQuiet = true :=
  fun c hc ↦ Call.isQuiet_of_isOffScreen (hl c hc)

theorem onScreen_append_of_isOffScreen (hl : ∀ c ∈ l, c.isOffScreen = true) (calls : List Call) :
    onScreen (l ++ calls) = onScreen calls :=
  onScreen_append fun c hc ↦ Call.not_isOnScreen_of_isOffScreen (hl c hc)

theorem isQuiet_of_ofScreen (hl : ∀ c ∈ l, c.ofScreen = true) : ∀ c ∈ l, c.isQuiet = true :=
  fun c hc ↦ Call.isQuiet_of_touches (hl c hc)

theorem not_asks_of_isQuiet (hl : ∀ c ∈ l, c.isQuiet = true) : ∀ c ∈ l, c.asks = false :=
  fun c hc ↦ Call.not_asks_of_isQuiet (hl c hc)

/-- Calls that signal nothing and wait for no fence leave the signals as they are. -/
theorem IsSignalled.append (h : p.IsSignalled) (hs : q.slots = p.slots)
    (hi : q.slotIndex = p.slotIndex) (ha : q.available = p.available)
    (hf : q.frame.isSome = p.frame.isSome) (hm : q.image = p.image) (hc : q.calls = l ++ p.calls)
    (hsignal : ∀ o s i code, .acquire o s i code ∉ l) (hwait : ∀ fence, .waitForFence fence ∉ l) :
    q.IsSignalled := by
  have hslot : q.slot? = p.slot? := by rw [slot?, slot?, hs, hi]
  refine ⟨fun hq ↦ ?_, fun j f s hj ho hne ↦ ?_, fun hq himage f s hf' ho ↦ ?_⟩
  · obtain ⟨f, hf', hused⟩ := h.used (hf ▸ hq)
    exact ⟨f, hslot.trans hf', hc ▸ hused.append hwait⟩
  · rw [hc]
    exact (h.spent j f s (hs ▸ hj) (ha ▸ ho) (hf ▸ hi ▸ hne)).append
      (fun _ hk ↦ hk.append l) fun o ↦ hsignal o s
  · rw [hc]
    exact (h.free (hf ▸ hq) (hm ▸ himage) f s (hslot ▸ hf') (ha ▸ hi ▸ ho)).append
      (fun _ hk ↦ hk.append l) fun o ↦ hsignal o s

/-- Asking for an image leaves the signals of the other slots as they are. -/
theorem IsSignalled.take (h : p.IsSignalled) (hp : p.IsFitted) {frame : FrameState}
    {s : Object .semaphore} {i : ℕ} {code : ResultCode} {marked : Bool}
    (recording : p.frame = some frame) (signal : p.available? = some s) :
    IsSignalled { p with
      marked, frame := some { frame with asked := true, image := some i }
      calls := .acquire p.swapchain s i code :: p.calls } := by
  obtain ⟨f, hf, hused⟩ := h.used (by rw [recording, Option.isSome_some])
  refine ⟨fun _ ↦ ⟨f, hf, hused.append (l := [_]) (by simp)⟩, fun j g t hj ht hne ↦ ?_,
    fun _ himage ↦ by cases himage⟩
  · rw [hp.available?_eq hf] at signal
    have hst : s ≠ t := by
      rintro rfl
      exact hne rfl ((List.getElem?_inj (List.getElem?_eq_some_iff.1 ht).1 hp.nodup).1
        (ht.trans signal.symm))
    exact (h.spent j g t hj ht fun _ ↦ hne rfl).append (l := [_]) (fun _ hk ↦ hk.append _)
      (by simp [hst.symm])

/-- When a frame begins, the semaphore of its slot becomes free. -/
theorem IsSignalled.begin (h : p.IsSignalled) {f : FrameSlot} (idle : p.frame = none)
    (slot : p.slot? = some f) (hl : ∀ c ∈ l, c.isQuiet = true) :
    IsSignalled { p with frame := some {}, calls := l ++ .waitForFence f.fence :: p.calls } := by
  have hspent {j : ℕ} {g : FrameSlot} {s : Object .semaphore} (hj : p.slots[j]? = some g)
      (hs : p.available[j]? = some s) : g.HasSpent s p.calls := by
    refine h.spent j g s hj hs fun hno ↦ ?_
    rw [idle] at hno
    cases hno
  refine ⟨fun _ ↦ ⟨f, slot, f.isInUse_wait.append (not_mem_wait_of_isQuiet hl)⟩,
    fun j g s hj hs _ ↦ ?_, fun _ _ g s hg hs ↦ ?_⟩
  · rw [List.append_cons]
    refine (hspent hj hs).append (fun _ hk ↦ hk.append _) fun o i code hmem ↦ ?_
    rcases List.mem_append.1 hmem with hmem | hmem
    · exact not_mem_of_isQuiet hl o s i code hmem
    · cases List.mem_singleton.1 hmem
  · obtain rfl := Option.some.inj (slot.symm.trans hg)
    exact (hspent hg hs).wait.append (fun _ hk ↦ hk.append l) fun o ↦ not_mem_of_isQuiet hl o s

/-- The semaphore that is passed to ask for an image is free. -/
theorem IsSteady.exists_free (h : p.IsSteady) {frame : FrameState} {s : Object .semaphore}
    (recording : p.frame = some frame) (unasked : frame.asked = false)
    (signal : p.available? = some s) :
    ∃ f, p.slot? = some f ∧ p.available[p.slotIndex]? = some s ∧ f.IsInUse p.calls ∧
      f.IsFree s p.calls := by
  have hframe : p.frame.isSome = true := by rw [recording, Option.isSome_some]
  obtain ⟨f, hf, hused⟩ := h.signals.used hframe
  rw [h.fitted.available?_eq hf] at signal
  exact ⟨f, hf, signal, hused,
    h.signals.free hframe (h.image_eq_none recording unasked) f s hf signal⟩

theorem IsSteady.action (h : p.IsSteady) (hb : Action p q) : q.IsSteady := by
  have hfitted := h.fitted.step (.inl hb)
  cases hb with
  | offScreen hm hl =>
    refine ⟨hfitted, h.asked, ?_, ?_, ?_⟩
    · have hrounds := h.rounds
      simp only [IsInRounds, image, available?, onScreen_append_of_isOffScreen hl]
        at hrounds ⊢
      exact hrounds
    · exact h.signals.append rfl rfl rfl rfl rfl rfl
        (not_mem_of_isQuiet (isQuiet_of_isOffScreen hl))
        (not_mem_wait_of_isQuiet (isQuiet_of_isOffScreen hl))
    · exact h.asks.append (not_asks_of_isQuiet (isQuiet_of_isOffScreen hl))
  | @begin f l idle slot hl =>
    have himage : p.image = none := by rw [image, idle, Option.bind_none]
    refine ⟨hfitted, fun _ hf _ ↦ Option.some.inj hf ▸ rfl, ?_,
      h.signals.begin idle slot (isQuiet_of_isOffScreen hl), ?_⟩
    · refine .of_none rfl ?_
      rw [onScreen_append_of_isOffScreen hl]
      exact h.rounds.rounds himage
    · exact AsksFreely.append (AsksFreely.append (l := [_]) h.asks (by simp [Call.asks]))
        (not_asks_of_isQuiet (isQuiet_of_isOffScreen hl))
  | renew recording unasked made hl =>
    have himage := h.image_eq_none recording unasked
    have hquiet := isQuiet_of_ofScreen hl
    refine ⟨hfitted, h.asked, ?_, ?_, h.asks.append (not_asks_of_isQuiet hquiet)⟩
    · exact .of_none himage ((h.rounds.rounds himage).append fun c hc ↦
        Call.isBetweenRounds_of_touches (hl c hc))
    · exact h.signals.append rfl rfl rfl rfl rfl rfl (not_mem_of_isQuiet hquiet)
        (not_mem_wait_of_isQuiet hquiet)
  | @fail frame _ _ recording unasked marked hl =>
    have himage := h.image_eq_none recording unasked
    have hquiet := isQuiet_of_ofScreen hl
    have hnone := h.asked frame recording unasked
    refine ⟨hfitted, fun _ hf ha ↦ ?_, ?_, ?_, h.asks.append (not_asks_of_isQuiet hquiet)⟩
    · rw [← Option.some.inj hf] at ha
      cases ha
    · exact .of_none hnone ((h.rounds.rounds himage).append fun c hc ↦
        Call.isBetweenRounds_of_touches (hl c hc))
    · exact h.signals.append rfl rfl rfl (by rw [recording]; rfl) (hnone.trans himage.symm) rfl
        (not_mem_of_isQuiet hquiet) (not_mem_wait_of_isQuiet hquiet)
  | @miss frame s _ recording unasked fits signal =>
    have himage := h.image_eq_none recording unasked
    refine ⟨hfitted, fun _ hf ha ↦ ?_, ?_, ?_, ?_⟩
    · rw [← Option.some.inj hf] at ha
      cases ha
    · exact .of_none rfl (.between (h.rounds.rounds himage) rfl)
    · exact h.signals.append (l := [_]) rfl rfl rfl (by rw [recording]; rfl) himage.symm rfl
        (by simp) (by simp)
    · obtain ⟨g, hg, hs, hused, hfree⟩ := h.exists_free recording unasked signal
      exact h.asks.cons hg hs hused hfree (by rintro _ _ _ _ ⟨⟩)
  | @take frame s i code marked recording unasked fits signal hm =>
    -- From here on the latest round is not whole: it waits for the frame to be handed over.
    have himage := h.image_eq_none recording unasked
    refine ⟨hfitted, fun _ hf ha ↦ ?_, ?_, h.signals.take h.fitted recording signal, ?_⟩
    · rw [← Option.some.inj hf] at ha
      cases ha
    · exact ⟨s, code, _, signal, rfl, h.rounds.rounds himage⟩
    · obtain ⟨g, hg, hs, hused, hfree⟩ := h.exists_free recording unasked signal
      refine h.asks.cons hg hs hused hfree ?_
      rintro _ _ _ _ ⟨⟩
      rfl

/-- A frame that is handed over without an image has spent the signals of its semaphore before. -/
theorem IsSignalled.hasSpent (h : p.IsSignalled) (himage : p.image = none) {j : ℕ} {f : FrameSlot}
    {s : Object .semaphore} (hj : p.slots[j]? = some f) (hs : p.available[j]? = some s) :
    f.HasSpent s p.calls := by
  by_cases hne : p.frame.isSome = true → j ≠ p.slotIndex
  · exact h.spent j f s hj hs hne
  · obtain ⟨hframe, hji⟩ := Classical.not_imp.1 hne
    obtain rfl := not_not.1 hji
    exact (h.free hframe himage f s hj hs).mono fun _ ↦ FrameSlot.Retires.consumes

theorem IsSteady.handOver (h : p.IsSteady) (hq : HandOver p q) : q.IsSteady := by
  have hfitted := h.fitted.step (.inr hq)
  cases hq with
  | @withoutImage slotIndex l image hl =>
    have hquiet := isQuiet_of_isOffScreen hl
    refine ⟨hfitted, nofun, ?_, ⟨nofun, fun j f s hj hs _ ↦ ?_, nofun⟩,
      h.asks.append (not_asks_of_isQuiet hquiet)⟩
    · refine .of_none rfl ?_
      rw [onScreen_append_of_isOffScreen hl]
      exact h.rounds.rounds image
    · exact (h.signals.hasSpent image hj hs).append (fun _ hk ↦ hk.append l)
        fun o ↦ not_mem_of_isQuiet hquiet o s
  | @shown f s rendered i code queue marked slotIndex l image slot signal hm hl =>
    -- The submission and the presentation complete the round that the image began.
    have hquiet := isQuiet_of_isOffScreen hl
    refine ⟨hfitted, nofun, .of_none rfl ?_, ⟨nofun, fun j g t hj ht _ ↦ ?_, nofun⟩, ?_⟩
    · have hrounds := h.rounds
      rw [IsInRounds, image] at hrounds
      obtain ⟨s', code', past, hs', htrace, hpast⟩ := hrounds
      obtain rfl := Option.some.inj (signal.symm.trans hs')
      have hscreen : onScreen (l ++ p.calls) = .acquire p.swapchain s i code' :: past := by
        rw [onScreen_append_of_isOffScreen hl, htrace]
      show Rounds (_ :: _ :: onScreen (l ++ p.calls))
      rw [hscreen]
      exact .round hpast
    · -- The submission consumes the signal of its slot, and touches no other.
      by_cases hji : j = p.slotIndex
      · subst hji
        obtain rfl := Option.some.inj (slot.symm.trans hj)
        rw [h.fitted.available?_eq slot] at signal
        obtain rfl := Option.some.inj (signal.symm.trans ht)
        exact FrameSlot.hasSpent_submit.append (l := [_]) (fun _ hk ↦ hk.append _) (by simp)
      · have hsignal (o : Object .swapchain) (k : ℕ) (code' : ResultCode) :
            .acquire o t k code' ∉ .present queue rendered p.swapchain i code ::
              .submit queue (f.submission (some (s, rendered))) f.fence :: l := by
          simp [not_mem_of_isQuiet hquiet]
        exact (h.signals.spent j g t hj ht fun _ ↦ hji).append (fun _ hk ↦ hk.append _) hsignal
    · refine AsksFreely.append (l := _ :: _ :: l) h.asks ?_
      simpa [Call.asks] using not_asks_of_isQuiet hquiet

theorem IsSteady.step (h : p.IsSteady) (hq : Step p q) : q.IsSteady :=
  hq.elim h.action h.handOver

/-! ### Renewing the swapchain -/

/-- Since an occasion to renew the swapchain, images were only asked for when that was done, and
otherwise it is still marked. -/
def IsDue (past : List Call) (p : ScreenState) : Prop :=
  ∃ later, p.calls = later ++ past ∧ AsksRenewed later ∧
    (p.marked = true ∨ ∃ info, .createSwapchain p.swapchain info ∈ later)

theorem IsDue.of_marked (h : p.marked = true) : p.IsDue p.calls := ⟨[], rfl, .nil, .inl h⟩

theorem IsDue.append (h : p.IsDue past) (hm : p.marked = true → q.marked = true)
    (hs : q.swapchain = p.swapchain) (hc : q.calls = l ++ p.calls)
    (hl : ∀ c ∈ l, c.asks = false) : q.IsDue past := by
  obtain ⟨later, hlater, hasks, hdone⟩ := h
  refine ⟨l ++ later, by rw [hc, hlater, List.append_assoc], hasks.append hl, hdone.imp hm ?_⟩
  rintro ⟨info, hmem⟩
  exact ⟨info, hs ▸ List.mem_append_right l hmem⟩

/-- Whoever asks for an image does not leave the swapchain as it was. -/
theorem IsDue.ask (h : p.IsDue past) (fits : p.marked = false) {c : Call}
    (hc : ∀ o s i code, c = .acquire o s i code → o = p.swapchain)
    (hs : q.swapchain = p.swapchain) (hcalls : q.calls = c :: p.calls) : q.IsDue past := by
  obtain ⟨later, hlater, hasks, hdone⟩ := h
  obtain ⟨info, hmem⟩ := hdone.resolve_left (Bool.eq_false_iff.1 fits)
  exact ⟨c :: later, by rw [hcalls, hlater, List.cons_append],
    hasks.cons ⟨p.swapchain, info, hmem, hc⟩, .inr ⟨info, hs ▸ List.mem_cons_of_mem c hmem⟩⟩

theorem IsDue.action (h : p.IsDue past) (hb : Action p q) : q.IsDue past := by
  cases hb with
  | offScreen hm hl => exact h.append hm rfl rfl (not_asks_of_isQuiet (isQuiet_of_isOffScreen hl))
  | @begin f l idle slot hl =>
    refine h.append (l := l ++ [.waitForFence f.fence]) id rfl (by simp) fun c hc ↦ ?_
    rcases List.mem_append.1 hc with hc | hc
    · exact not_asks_of_isQuiet (isQuiet_of_isOffScreen hl) c hc
    · exact List.mem_singleton.1 hc ▸ rfl
  | @renew frame swapchain info l recording unasked made hl =>
    obtain ⟨later, hlater, hasks, -⟩ := h
    exact ⟨l ++ later, by rw [hlater, List.append_assoc],
      hasks.append (not_asks_of_isQuiet (isQuiet_of_ofScreen hl)),
      .inr ⟨info, List.mem_append_left later made⟩⟩
  | @fail frame swapchain l recording unasked marked hl =>
    obtain ⟨later, hlater, hasks, -⟩ := h
    exact ⟨l ++ later, by rw [hlater, List.append_assoc],
      hasks.append (not_asks_of_isQuiet (isQuiet_of_ofScreen hl)), .inl marked⟩
  | miss recording unasked fits => exact h.ask fits (fun _ _ _ _ hc ↦ by cases hc) rfl rfl
  | take recording unasked fits =>
    refine h.ask fits ?_ rfl rfl
    rintro _ _ _ _ ⟨⟩
    rfl

theorem IsDue.step (h : p.IsDue past) (hq : Step p q) : q.IsDue past := by
  rcases hq with hb | hq
  · exact h.action hb
  cases hq with
  | withoutImage image hl =>
    exact h.append id rfl rfl (not_asks_of_isQuiet (isQuiet_of_isOffScreen hl))
  | shown image slot signal hm hl =>
    refine h.append (l := _ :: _ :: _) (fun h ↦ hm (.inl h)) rfl rfl ?_
    simpa [Call.asks] using not_asks_of_isQuiet (isQuiet_of_isOffScreen hl)

/-- What a report of the driver makes due. -/
def IsPrompt (p : ScreenState) : Prop :=
  ∀ later c past, p.calls = later ++ c :: past → c.Reports → p.IsDue (c :: past)

/-- Only the latest call of a step may be a report, and then the swapchain is marked. -/
theorem Step.reports (h : Step p q) :
    (∃ l, q.calls = l ++ p.calls ∧ ∀ c ∈ l, ¬c.Reports) ∨
      ∃ c l, q.calls = c :: (l ++ p.calls) ∧ (∀ c ∈ l, ¬c.Reports) ∧
        (c.Reports → q.marked = true) := by
  have hquiet {l : List Call} (hl : ∀ c ∈ l, c.isQuiet = true) : ∀ c ∈ l, ¬c.Reports :=
    fun c hc ↦ Call.not_reports_of_isQuiet (hl c hc)
  rcases h with h | h
  · cases h with
    | offScreen hm hl => exact .inl ⟨_, rfl, hquiet (isQuiet_of_isOffScreen hl)⟩
    | @begin f l idle slot hl =>
      exact .inl ⟨l ++ [.waitForFence f.fence], by simp, List.forall_mem_append.2
        ⟨hquiet (isQuiet_of_isOffScreen hl), List.forall_mem_singleton.2 id⟩⟩
    | renew recording unasked made hl => exact .inl ⟨_, rfl, hquiet (isQuiet_of_ofScreen hl)⟩
    | fail recording unasked marked hl => exact .inl ⟨_, rfl, hquiet (isQuiet_of_ofScreen hl)⟩
    | miss => exact .inr ⟨_, [], rfl, List.forall_mem_nil _, fun _ ↦ rfl⟩
    | take recording unasked fits signal hm => exact .inr ⟨_, [], rfl, List.forall_mem_nil _, hm⟩
  · cases h with
    | withoutImage image hl => exact .inl ⟨_, rfl, hquiet (isQuiet_of_isOffScreen hl)⟩
    | shown image slot signal hm hl =>
      refine .inr ⟨_, _ :: _, rfl, List.forall_mem_cons.2
        ⟨id, hquiet (isQuiet_of_isOffScreen hl)⟩, fun hr ↦ hm (.inr ?_)⟩
      rcases hr with rfl | rfl <;> decide

theorem IsPrompt.step (h : p.IsPrompt) (hq : Step p q) : q.IsPrompt := by
  have hold {l later past : List Call} {c : Call} (hl : ∀ c ∈ l, ¬c.Reports)
      (hc : l ++ p.calls = later ++ c :: past) (hr : c.Reports) : q.IsDue (c :: past) := by
    obtain ⟨rest, -, hrest⟩ := exists_of_append_eq hc fun hmem ↦ hl c hmem hr
    exact (h rest c past hrest hr).step hq
  intro later c past hc hr
  rcases hq.reports with ⟨l, hcalls, hl⟩ | ⟨d, l, hcalls, hl, hd⟩
  · exact hold hl (hcalls.symm.trans hc) hr
  · rw [hcalls] at hc
    cases later with
    | nil =>
      obtain ⟨rfl, rfl⟩ := List.cons.inj hc
      have hdue := IsDue.of_marked (hd hr)
      rwa [hcalls] at hdue
    | cons e later => exact hold hl (List.cons.inj hc).2 hr

/-! ### Asking once -/

/-- How many images were asked for. -/
def asked (p : ScreenState) : ℕ := p.calls.countP Call.asks

/-- How many images can have been asked for by the end of the frame. -/
def budget (p : ScreenState) : ℕ := p.asked + if p.frame.any (·.asked) then 0 else 1

theorem asked_append (hl : ∀ c ∈ l, c.asks = false) (calls : List Call) :
    (l ++ calls).countP Call.asks = calls.countP Call.asks := by
  rw [List.countP_append, List.countP_eq_zero.2 fun c hc ↦ Bool.eq_false_iff.1 (hl c hc), zero_add]

theorem asked_le_budget (p : ScreenState) : p.asked ≤ p.budget := Nat.le_add_right _ _

theorem budget_le_succ (p : ScreenState) : p.budget ≤ p.asked + 1 := by
  rw [budget]
  split <;> omega

/-- Within a frame, what is asked for was budgeted. -/
theorem Action.budget_le (h : Action p q) : q.budget ≤ p.budget := by
  cases h with
  | offScreen hm hl =>
    simp only [budget, asked, asked_append (not_asks_of_isQuiet (isQuiet_of_isOffScreen hl)),
      le_refl]
  | begin idle slot hl =>
    simp [budget, asked, asked_append (not_asks_of_isQuiet (isQuiet_of_isOffScreen hl)), idle,
      Call.asks]
  | renew recording unasked made hl =>
    simp only [budget, asked, asked_append (not_asks_of_isQuiet (isQuiet_of_ofScreen hl)), le_refl]
  | fail recording unasked marked hl =>
    simp [budget, asked, asked_append (not_asks_of_isQuiet (isQuiet_of_ofScreen hl))]
  | miss recording unasked => simp [budget, asked, recording, unasked, Call.asks]
  | take recording unasked =>
    simp [budget, asked, recording, unasked, Call.asks, List.countP_cons]

theorem budget_le_of_actions (h : Relation.ReflTransGen Action p q) : q.budget ≤ p.budget := by
  induction h with
  | refl => exact le_rfl
  | tail _ hb ih => exact hb.budget_le.trans ih

theorem HandOver.asked_eq (h : HandOver p q) : q.asked = p.asked := by
  cases h with
  | withoutImage image hl => exact asked_append (not_asks_of_isQuiet (isQuiet_of_isOffScreen hl)) _
  | shown image slot signal hm hl =>
    refine asked_append (l := _ :: _ :: _) ?_ _
    simpa [Call.asks] using not_asks_of_isQuiet (isQuiet_of_isOffScreen hl)

/-! ### Many steps -/

theorem steps_of_actions (h : Relation.ReflTransGen Action p q) : Relation.ReflTransGen Step p q :=
  Relation.ReflTransGen.mono (fun _ _ ↦ Or.inl) p q h

/-- What every step keeps, many steps keep. -/
theorem of_steps {P : ScreenState → Prop} (hP : ∀ p q, P p → Step p q → P q)
    (h : Relation.ReflTransGen Step p q) (hp : P p) : P q := by
  induction h with
  | refl => exact hp
  | tail _ hs ih => exact hP _ _ ih hs

end ScreenState

end RenderTargets.Vulkan
