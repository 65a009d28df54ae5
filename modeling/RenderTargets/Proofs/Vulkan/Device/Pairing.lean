import RenderTargets.Proofs.Vulkan.Device.ScreenActions
import RenderTargets.Proofs.Vulkan.Device.FailedSetup
/-!
# Images of the screen go in pairs

Wherever a device gets on an obliging driver, every image it asked for was rendered by one
submission and shown once, in this order, and the swapchain was made anew whenever that was due. A
device reaches only screen states that are steady, and from one frame to the next it asks for one
image at most (`play_paired`).

The runs are more general than those of `run`: before each event the images of swapchains may be
reordered, so that the driver hands them out as it likes.
-/

namespace RenderTargets.Vulkan

open StepWith Run Relation

namespace Device

variable {s t u : Device × Host} {p : ScreenState} {e : Event}

/-! ### Runs with images in any order -/

/-- An event, and what is done to the images of swapchains before an image is asked for. -/
structure Turn where
  /-- What is done to the images. -/
  arrange : List ImageRing → List ImageRing
  /-- The event. -/
  event : Event

/-- The step of a turn. -/
def Turn.perform (x : Turn) : DeviceStep Unit :=
  x.event.performWith (Swapchain.acquireFrom x.arrange)

/-- The state after some turns, unless one of them traps. -/
def play (turns : List Turn) : Device × Host → Option (Device × Host) :=
  settleAll (turns.map Turn.perform)

/-- If nothing is done to the images, this is a run of the events. -/
theorem play_map_id (events : List Event) : play (events.map (⟨id, ·⟩)) = run events := by
  have hperform : Turn.perform ∘ (⟨id, ·⟩) = Event.perform := by
    funext e
    show e.performWith (Swapchain.acquireFrom id) = e.perform
    rw [Swapchain.acquireFrom_id, e.performWith_acquire]
  rw [play, run, List.map_map, hperform]

theorem play_append {before after : List Turn} :
    play (before ++ after) s = (play before s).bind (play after) := by
  rw [play, List.map_append, settleAll_append]
  rfl

/-- The surface has pixels whenever the screen may be built anew. -/
def SeesThroughout : List Turn → Device × Host → Prop
  | [], _ => True
  | x :: rest, s =>
    Sees x.event.NeedsScreen s ∧ ∀ u, x.perform.settle s = some u → SeesThroughout rest u

theorem SeesThroughout.split {before after : List Turn} (h : SeesThroughout (before ++ after) s) :
    SeesThroughout before s ∧ ∀ u, play before s = some u → SeesThroughout after u := by
  induction before generalizing s with
  | nil => exact ⟨trivial, fun u hu ↦ Option.some.inj hu ▸ h⟩
  | cons x before ih =>
    refine ⟨⟨h.1, fun u hu ↦ (ih (h.2 u hu)).1⟩, fun u hu ↦ ?_⟩
    obtain ⟨v, hv, hu⟩ := Option.bind_eq_some_iff.1 hu
    exact (ih (h.2 v hv)).2 u hu

/-! ### Steps of the screen state -/

theorem Advances.suffix (h : Advances e p s) : p.calls <:+ s.2.driver.calls :=
  h.elim ActsFrom.suffix fun h ↦ h.2.suffix

theorem Advances.steps (h : Advances e p s) (ho : Obliging s.2.driver.calls) :
    ReflTransGen ScreenState.Step p (screenState s) := by
  rcases h with h | ⟨-, h⟩
  · exact ScreenState.steps_of_actions (h.actions ho)
  · obtain ⟨q, hq, hover⟩ := h.handOver ho
    exact (ScreenState.steps_of_actions hq).tail (.inr hover)

theorem Turn.advances {x : Turn} (hs : Sees x.event.NeedsScreen s)
    (ht : x.perform.settle s = some t) : Advances x.event (screenState s) t :=
  Meets.settle (advances_performWith x.event) ⟨hs, .refl s⟩ ht

variable {turns before mid after : List Turn}

theorem calls_play (hsees : SeesThroughout turns s) (ht : play turns s = some t) :
    s.2.driver.calls <:+ t.2.driver.calls := by
  induction turns generalizing s with
  | nil => exact Option.some.inj ht ▸ List.suffix_refl _
  | cons x turns ih =>
    obtain ⟨u, hu, ht⟩ := Option.bind_eq_some_iff.1 ht
    exact (Turn.advances hsees.1 hu).suffix.trans (ih (hsees.2 u hu) ht)

/-- A run is one of steps of the screen state. -/
theorem steps_play (hsees : SeesThroughout turns s) (ht : play turns s = some t)
    (ho : Obliging t.2.driver.calls) :
      ReflTransGen ScreenState.Step (screenState s) (screenState t) := by
  induction turns generalizing s with
  | nil => exact Option.some.inj ht ▸ .refl
  | cons x turns ih =>
    obtain ⟨u, hu, ht⟩ := Option.bind_eq_some_iff.1 ht
    have hcalls := calls_play (hsees.2 u hu) ht
    exact ((Turn.advances hsees.1 hu).steps (ho.suffix hcalls)).trans (ih (hsees.2 u hu) ht)

/-- As long as no frame is committed, only what was budgeted is asked for. -/
theorem budget_play (hsees : SeesThroughout turns s) (ht : play turns s = some t)
    (ho : Obliging t.2.driver.calls) (hturns : ∀ x ∈ turns, x.event ≠ .command .commitFrame) :
    (screenState t).budget ≤ (screenState s).budget := by
  induction turns generalizing s with
  | nil => exact Option.some.inj ht ▸ le_rfl
  | cons x turns ih =>
    obtain ⟨hx, hturns⟩ := List.forall_mem_cons.1 hturns
    obtain ⟨u, hu, ht⟩ := Option.bind_eq_some_iff.1 ht
    have hactions : ActsFrom (screenState s) u :=
      (Turn.advances hsees.1 hu).resolve_right fun h ↦ hx h.1
    have hcalls := calls_play (hsees.2 u hu) ht
    exact (ih (hsees.2 u hu) ht hturns).trans
      (ScreenState.budget_le_of_actions (hactions.actions (ho.suffix hcalls)))

/-- No event asks for more than what was budgeted, not even one that commits a frame. -/
theorem Advances.asked_le (h : Advances e p s) (ho : Obliging s.2.driver.calls) :
    (screenState s).asked ≤ p.budget := by
  rcases h with h | ⟨-, h⟩
  · exact (screenState s).asked_le_budget.trans (ScreenState.budget_le_of_actions (h.actions ho))
  · obtain ⟨q, hq, hover⟩ := h.handOver ho
    exact (hover.asked_eq.trans_le q.asked_le_budget).trans (ScreenState.budget_le_of_actions hq)

/-! ### New devices -/

/-- All calls so far have to do with setting up. -/
def IsSettingUp (h : Host) : Prop := ∀ c ∈ h.driver.calls, ofSetup c = true

theorem meets_create_settingUp {w : Window} {size : Extent} {config : Config} {builtIn : Bool} :
    Meets IsSettingUp (create w size config builtIn) (fun _ ↦ IsSettingUp) fun _ _ ↦ True := by
  have hkeep {α : Type} {x : Run α} (hx : Respects (Driver.Only ofSetup) x) :
      Meets IsSettingUp x (fun _ ↦ IsSettingUp) fun _ _ ↦ True := hx.keeps_all.lax
  have hearly {α : Type} {x : Run α} (hx : Respects (Driver.Only beforeScreen) x) :
      Meets IsSettingUp x (fun _ ↦ IsSettingUp) fun _ _ ↦ True :=
    hkeep (hx.only_mono fun _ ↦ ofSetup_of_beforeScreen)
  refine .get_bind fun _ ↦ ?_
  refine .ite (fun _ ↦ meets_giveUp_bind fun _ _ _ ↦ trivial) fun _ ↦ ?_
  refine .ite (fun _ ↦ .fail_bind fun _ _ ↦ trivial) fun _ ↦ ?_
  refine .bind (hkeep only_displayOf) fun display ↦ ?_
  refine .bind (hkeep only_extensionsOf) fun extensions ↦ ?_
  refine .bind (hkeep only_decideValidation) fun validate ↦ ?_
  refine .bind (hkeep (.setUpMake (fun _ ↦ rfl) fun _ ↦ rfl)) fun connection ↦ ?_
  refine .ite_bind (Q := fun _ ↦ IsSettingUp) (.ite (fun _ ↦ .map (hearly only_listen)) fun _ ↦
    .pure fun _ hh ↦ hh) fun messenger ↦ ?_
  refine .bind (hearly only_createSurface) fun surface ↦ .bind (hkeep only_pickGpu) fun choice ↦ ?_
  have hopen : Respects (Driver.Only ofSetup) (openGpu choice) := by
    refine .bind (.setUpMake (fun _ ↦ rfl) fun _ ↦ rfl) fun _ ↦ ?_
    refine .bind (.driving fun _ ↦ .of_continues Driver.continues_fresh) fun _ ↦ ?_
    refine .bind (.setUpMake (fun _ ↦ rfl) fun _ ↦ rfl) fun _ ↦ ?_
    refine .bind (.setUpMake (fun _ ↦ rfl) fun _ ↦ rfl) fun _ ↦ ?_
    exact .get_bind fun _ ↦ .pure
  refine .bind (hkeep hopen) fun ⟨context, framePool⟩ ↦ ?_
  refine .bind (hkeep (.update fun _ ↦ rfl)) fun _ ↦ ?_
  refine .bind (hkeep (FrameSlot.only_createMany.widen (by decide) (by decide))) fun slots ↦ ?_
  refine .bind (hkeep (.undoing (.each fun f _ ↦ f.silent_drop) only_createScreen
    (.each (fun f ↦ f.only_drop.widen (by decide) (by decide)) slots))) fun ⟨screen, sampler⟩ ↦ ?_
  exact .bind (hkeep (.bind .note fun _ ↦ .ite .note .pure)) fun _ ↦ .pure fun _ hh ↦ hh

theorem answers_length_createMany {frames : Object .commandPool} {slots : List FrameSlot} (n : ℕ) :
    Answers (FrameSlot.createMany frames slots n) fun l ↦ l.length = slots.length + n := by
  induction n generalizing slots with
  | zero => exact .pure rfl
  | succ n ih =>
    refine .skip fun f s l t h ↦ (ih s l t h).trans ?_
    rw [List.length_append, List.length_singleton, Nat.add_right_comm, Nat.add_assoc]

/-- There is a semaphore for each slot. -/
theorem IsSetUp.length_imageAvailable {d : Device} {size : Extent} {config : Config}
    (h : d.IsSetUp size config) : d.screen.imageAvailable.length = d.slots.length := by
  obtain ⟨surface, hscreen⟩ := h.screen
  have hslots := h.slots.holds (answers_length_createMany _)
  rw [List.length_nil, Nat.zero_add] at hslots
  exact (hscreen.holds Swapchain.answers_length_create).trans hslots.symm

theorem nodup_imageAvailable {always now : Prop} {d : Device} {k : Host}
    (hs : Sound always now (d, k)) : d.screen.imageAvailable.Nodup := by
  obtain ⟨hscreen, -, -⟩ := Multiset.nodup_add.1 (Books.nodup hs.2)
  obtain ⟨-, hbase, -⟩ := Multiset.nodup_add.1 (Multiset.nodup_add.1 hscreen).2.1
  have hmap := Estate.nodup_of_sum (x := fun o : Object .semaphore ↦ ⟨o.any, none⟩)
    (fun o ↦ Object.mem_sole.2 rfl) (Multiset.nodup_add.1 hbase).1
  exact .of_map _ hmap

/-- The screen state of a new device is steady, and nothing is due. -/
theorem IsNew.steady (hs : IsNew s) : (screenState s).IsSteady ∧ (screenState s).IsPrompt := by
  obtain ⟨w, size, config, builtIn, h, hfresh, hcreate⟩ := hs
  have hsound : Sound True False s := Meets.ok meets_create ⟨hfresh, False.elim⟩ hcreate
  have hidle : (screenState s).frame = none :=
    congrArg (Option.map _) (stands_of_create hfresh hcreate).1.1
  have hsetup : ∀ c ∈ s.2.driver.calls, ofSetup c = true :=
    meets_create_settingUp.ok (fun c hc ↦ by rw [hfresh.calls] at hc; cases hc) hcreate
  have hquiet : ∀ c ∈ s.2.driver.calls, c.isQuiet = true := fun c hc ↦
    Call.isQuiet_of_touches (hsetup c hc)
  have himage : (screenState s).image = none := by rw [ScreenState.image, hidle, Option.bind_none]
  have hnone {later past : List Call} {c : Call} (hcalls : s.2.driver.calls = later ++ c :: past) :
      c.isQuiet = true := hquiet c (hcalls ▸ List.mem_append_right _ List.mem_cons_self)
  have hlength := (answers_create h _ _ hcreate).length_imageAvailable
  refine ⟨⟨⟨hlength, nodup_imageAvailable hsound⟩, ?_, ?_, ⟨?_, ?_, ?_⟩,
    fun later c past hcalls hasks ↦ ?_⟩, fun later c past hcalls hr ↦ ?_⟩
  · exact fun _ hf ↦ by cases hidle.symm.trans hf
  · refine .of_none himage ?_
    rw [← List.append_nil (screenState s).calls]
    have hnil : Rounds (Vulkan.onScreen []) := .nil
    exact hnil.append fun c hc ↦ Call.isBetweenRounds_of_touches (hsetup c hc)
  · rw [hidle]
    rintro ⟨⟩
  · exact fun _ _ o _ _ _ ↦ .of_not_mem fun o' ↦ not_mem_of_isQuiet hquiet o' o
  · rw [hidle]
    rintro ⟨⟩
  · exact Bool.noConfusion ((Call.not_asks_of_isQuiet (hnone hcalls)).symm.trans hasks)
  · exact (Call.not_reports_of_isQuiet (hnone hcalls) hr).elim

/-! ### Wherever a device gets -/

/-- How images were asked for, rendered and shown on the way from `s` to `t`. -/
structure Paired (turns : List Turn) (s t : Device × Host) : Prop where
  /-- Each image was rendered by one submission, which waited for what was passed when the image was
  asked for, and then shown once, by the swapchain it came from. Until then no other image was asked
  for and no swapchain made or ended. -/
  rounds : (screenState t).IsInRounds
  /-- What was passed to tell that an image is there had no signal that was not consumed by a slot
  that was waited for since. -/
  free : AsksFreely t.1.slots t.1.screen.imageAvailable t.2.driver.calls
  /-- After each report that the swapchain no longer fits, images were only asked for when it was
  made anew. -/
  prompt : (screenState t).IsPrompt
  /-- So they were after the window changed its size. -/
  resized : ∀ before arrange size after u, turns = before ++ ⟨arrange, .resize size⟩ :: after →
    play (before ++ [⟨arrange, .resize size⟩]) s = some u → (screenState t).IsDue u.2.driver.calls
  /-- From one frame that was committed to the next at most one image was asked for. -/
  once : ∀ before mid arrange after u v,
    turns = before ++ (mid ++ ⟨arrange, .command .commitFrame⟩ :: after) →
    (∀ x ∈ mid, x.event ≠ .command .commitFrame) → play before s = some u →
    play (mid ++ [⟨arrange, .command .commitFrame⟩]) u = some v →
    (screenState v).asked ≤ (screenState u).asked + 1

theorem due_resize {arrange : List ImageRing → List ImageRing} {size : Extent}
    (hsees : SeesThroughout (before ++ ⟨arrange, .resize size⟩ :: after) s)
    (hu : play (before ++ [⟨arrange, .resize size⟩]) s = some u)
    (ht : play (before ++ ⟨arrange, .resize size⟩ :: after) s = some t)
    (ho : Obliging t.2.driver.calls) : (screenState t).IsDue u.2.driver.calls := by
  rw [List.append_cons] at hsees ht
  rw [play_append, hu] at ht
  have hsees := hsees.split.2 u hu
  rw [play_append] at hu
  obtain ⟨v, -, hv⟩ := Option.bind_eq_some_iff.1 hu
  obtain rfl : (v.1.resize size, v.2) = u := Option.some.inj hv
  exact ScreenState.of_steps (fun _ _ h hq ↦ h.step hq) (steps_play hsees ht ho) (.of_marked rfl)

theorem asked_between {x : Turn} (hsees : SeesThroughout (mid ++ x :: after) s)
    (hmid : ∀ y ∈ mid, y.event ≠ .command .commitFrame) (hu : play (mid ++ [x]) s = some u)
    (ho : Obliging u.2.driver.calls) : (screenState u).asked ≤ (screenState s).asked + 1 := by
  rw [play_append] at hu
  obtain ⟨v, hv, hu⟩ := Option.bind_eq_some_iff.1 hu
  obtain ⟨hbefore, hlast⟩ := hsees.split
  obtain ⟨w, hw, hu⟩ := Option.bind_eq_some_iff.1 hu
  obtain rfl := Option.some.inj hu
  have hadvances := Turn.advances (hlast v hv).1 hw
  exact ((hadvances.asked_le ho).trans
    (budget_play hbefore hv (ho.suffix hadvances.suffix) hmid)).trans (screenState s).budget_le_succ

/-- **Images go in pairs.** On an obliging driver, whichever images it hands out, each image is
rendered and shown in its round, and the swapchain is made anew before the next image whenever that
is due. -/
theorem play_paired (hs : IsNew s) (hsees : SeesThroughout turns s) (ht : play turns s = some t)
    (ho : Obliging t.2.driver.calls) : Paired turns s t := by
  have hsteps := steps_play hsees ht ho
  obtain ⟨hsteady, hprompt⟩ := hs.steady
  have hend := ScreenState.of_steps (fun _ _ h hq ↦ h.step hq) hsteps hsteady
  refine ⟨hend.rounds, hend.asks, ScreenState.of_steps (fun _ _ h hq ↦ h.step hq) hsteps hprompt,
    ?_, ?_⟩
  · rintro before arrange size after u rfl hu
    exact due_resize hsees hu ht ho
  · rintro before mid arrange after u v rfl hmid hu hv
    have hsees := hsees.split.2 u hu
    refine asked_between hsees hmid hv ?_
    rw [List.append_cons] at ht hsees
    rw [play_append, hu, Option.bind_some, play_append, hv] at ht
    exact ho.suffix (calls_play (hsees.split.2 v hv) ht)

/-! ### A run -/

/-- The surface offers this before every turn. -/
def offers (offer : SurfaceOffer) : List Turn → Device × Host → Bool
  | [], _ => true
  | x :: rest, s => s.2.driver.surface = offer && (x.perform.settle s).all (offers offer rest)

/-- A surface that always has pixels has them whenever the screen may be built anew. -/
theorem sees_of_offers {offer : SurfaceOffer} (hp : ∀ size, offer.HasPixels size)
    (h : offers offer turns s = true) : SeesThroughout turns s := by
  induction turns generalizing s with
  | nil => trivial
  | cons x turns ih =>
    obtain ⟨hoffer, hrest⟩ := Bool.and_eq_true_iff.1 h
    refine ⟨fun _ ↦ of_decide_eq_true hoffer ▸ hp _, fun u hu ↦ ih ?_⟩
    rw [hu] at hrest
    exact hrest

/-- The images of each swapchain go the other way round. -/
def backwards (rings : List ImageRing) : List ImageRing :=
  rings.map fun r ↦ { r with next := (r.next + r.images.length - 2) % r.images.length }

/-- Three frames, a change of the size of the window, and another frame. -/
def resizedFrames : List Turn :=
  let frame : Turn := ⟨backwards, .command .commitFrame⟩
  [frame, frame, frame, ⟨backwards, .resize ⟨640, 480⟩⟩, frame]

/-- The state after turns on a surface that offers the same throughout, if the driver obliged. -/
def obliged (turns : List Turn) (s : Device × Host) : Option (Device × Host) :=
  if offers plainSurface turns s then
    (play turns s).filter fun t ↦ decide (Obliging t.2.driver.calls)
  else none

theorem of_obliged (h : obliged turns s = some t) :
    SeesThroughout turns s ∧ play turns s = some t ∧ Obliging t.2.driver.calls := by
  rw [obliged] at h
  split at h
  · next hoffers =>
    obtain ⟨ht, hobliging⟩ := Option.filter_eq_some_iff.1 h
    exact ⟨sees_of_offers hasPixels_plainSurface hoffers, ht, of_decide_eq_true hobliging⟩
  · cases h

/-- On a driver that reports with the second image that the swapchain no longer fits, the images of
these frames go in pairs, and so do those of a run of the same events. -/
theorem play_paired_resizedFrames : ∃ s t, IsNew s ∧ SeesThroughout resizedFrames s ∧
    play resizedFrames s = some t ∧ Obliging t.2.driver.calls ∧
    .acquire ⟨1⟩ ⟨2⟩ 0 .suboptimal ∈ t.2.driver.calls ∧ Paired resizedFrames s t ∧
    ∃ u, run (resizedFrames.map (·.event)) s = some u ∧
      Paired ((resizedFrames.map (·.event)).map (⟨id, ·⟩)) s u := by
  obtain ⟨s, hs, hcheck⟩ := exists_new plainSurface [⟨.acquire, 2, .suboptimal⟩]
    (fun s ↦ (obliged resizedFrames s).any
        (·.2.driver.calls.contains (.acquire ⟨1⟩ ⟨2⟩ 0 .suboptimal)) &&
      (obliged ((resizedFrames.map (·.event)).map (⟨id, ·⟩)) s).isSome) (by decide +kernel)
  obtain ⟨hplay, hrun⟩ := Bool.and_eq_true_iff.1 hcheck
  obtain ⟨t, ht, hmem⟩ := (Option.any_eq_true _ _).1 hplay
  obtain ⟨hsees, ht, ho⟩ := of_obliged ht
  obtain ⟨u, hu⟩ := Option.isSome_iff_exists.1 hrun
  obtain ⟨hsees', hu, ho'⟩ := of_obliged hu
  have hpaired := play_paired hs hsees' hu ho'
  rw [play_map_id] at hu
  exact ⟨s, t, hs, hsees, ht, ho, List.contains_iff_mem.1 hmem, play_paired hs hsees ht ho, u, hu,
    hpaired⟩

end Device

end RenderTargets.Vulkan
