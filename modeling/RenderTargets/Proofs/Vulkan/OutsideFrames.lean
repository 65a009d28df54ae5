import RenderTargets.Proofs.Vulkan.Held
import RenderTargets.Proofs.Vulkan.Recording
/-!
# What is done outside frames

Resources are made and given up, and the screen is built, without any step of a frame.
`OutsideFrames uploads n l` says this of the calls `l`: single calls that have nothing to do with
the command buffers and descriptor sets of frames, and whole **uploads**, each from the allocation
of a buffer with a number above `n` to its being given back.

`Driver.Adds uploads d d'` says that the driver came from `d` to `d'` by such calls, with its script
untouched. So a slot that looks at the trace sees no difference (`OutsideFrames.after`), and none of
them records a draw (`OutsideFrames.of_record`).
-/

namespace RenderTargets.Vulkan

open StepWith

/-! ### Calls -/

/-- The calls that can fail and are made for a frame: its steps, and what gets it a descriptor set.
-/
def CallName.isOfFrames : CallName → Bool
  | allocateDescriptorSets => true
  | name => name.isFrameStep

theorem CallName.isFrameStep_of_isOfFrames {name : CallName} (h : name.isOfFrames = false) :
    name.isFrameStep = false := by
  cases name <;> first | rfl | cases h

namespace Call

/-- The call has nothing to do with frames and uploads. -/
def IsOutsideFrames (uploads : Object .commandPool) : Call → Prop
  | failed name _ _ => name.isOfFrames = false
  | allocateCommandBuffer _ pool => pool ≠ uploads
  | freeCommandBuffer .. | waitForFence _ | resetCommandBuffer _ | beginCommandBuffer _
  | endCommandBuffer _ | submit .. | allocateDescriptorSet .. | updateSets _ | record .. => False
  | _ => True

/-- The call is part of an upload with the buffer. -/
def IsUpload (b : Object .commandBuffer) : Call → Prop
  | failed name _ _ => name ≠ .allocateDescriptorSets
  | waitQueue _ => True
  | beginCommandBuffer b' | endCommandBuffer b' => b' = b
  | record b' c => b' = b ∧ c.IsPreparation
  | submit _ work _ => work.commands = b
  | _ => False

end Call

/-- The calls, the latest first, are single calls and whole uploads with buffers above `n`. -/
inductive OutsideFrames (uploads : Object .commandPool) (n : ℕ) : List Call → Prop
  /-- Nothing was called. -/
  | nil : OutsideFrames uploads n []
  /-- A single call. -/
  | call {c l} (h : OutsideFrames uploads n l) (hc : c.IsOutsideFrames uploads) :
      OutsideFrames uploads n (c :: l)
  /-- An upload. -/
  | upload {b work l} (h : OutsideFrames uploads n l) (hb : n < b.number)
      (hw : ∀ c ∈ work, c.IsUpload b) :
      OutsideFrames uploads n
        (.freeCommandBuffer uploads b :: (work ++ .allocateCommandBuffer b uploads :: l))

namespace OutsideFrames

variable {uploads : Object .commandPool} {m n : ℕ} {k l past : List Call} {f : FrameSlot}
  {phase : Phase}

theorem append (h : OutsideFrames uploads m k) (hl : OutsideFrames uploads n l) (hn : n ≤ m) :
    OutsideFrames uploads n (k ++ l) := by
  induction h with
  | nil => exact hl
  | call _ hc ih => exact .call ih hc
  | upload _ hb hw ih =>
    rw [List.cons_append, List.append_assoc, List.cons_append]
    exact .upload ih (Nat.lt_of_le_of_lt hn hb) hw

/-- Uploads take buffers with new numbers. -/
theorem of_allocate (h : OutsideFrames uploads n l) {b : Object .commandBuffer}
    (hb : .allocateCommandBuffer b uploads ∈ l) : n < b.number := by
  induction h with
  | nil => cases hb
  | call _ hc ih =>
    rcases List.mem_cons.1 hb with rfl | hb
    · exact (hc rfl).elim
    · exact ih hb
  | upload _ hn hw ih =>
    rcases List.mem_cons.1 hb with hb | hb
    · cases hb
    rcases List.mem_append.1 hb with hb | hb
    · exact (hw _ hb).elim
    rcases List.mem_cons.1 hb with hb | hb
    · cases hb
      exact hn
    · exact ih hb

/-- Only uploads record, and only preparations. -/
theorem of_record (h : OutsideFrames uploads n l) {b : Object .commandBuffer} {c : Recorded}
    (hc : .record b c ∈ l) : n < b.number ∧ c.IsPreparation := by
  induction h with
  | nil => cases hc
  | call _ hd ih =>
    rcases List.mem_cons.1 hc with rfl | hc
    · exact hd.elim
    · exact ih hc
  | upload _ hb hw ih =>
    rcases List.mem_cons.1 hc with hc | hc
    · cases hc
    rcases List.mem_append.1 hc with hc | hc
    · obtain ⟨rfl, hp⟩ := hw _ hc
      exact ⟨hb, hp⟩
    rcases List.mem_cons.1 hc with hc | hc
    · cases hc
    · exact ih hc

end OutsideFrames

namespace Progress

variable {uploads : Object .commandPool} {f : FrameSlot} {c : Call} {b : Object .commandBuffer}

theorem next?_of_isOutsideFrames (hc : c.IsOutsideFrames uploads) (p : Progress) :
    p.next? uploads f c = some p := by
  cases c with
  | failed name wanted code => simp [next?, CallName.isFrameStep_of_isOfFrames hc]
  | allocateCommandBuffer b pool => simp [next?, show pool ≠ uploads from hc]
  | freeCommandBuffer | waitForFence | resetCommandBuffer | beginCommandBuffer | endCommandBuffer
  | submit | allocateDescriptorSet | updateSets | record => exact hc.elim
  | _ => rfl

/-- An upload goes on with another buffer than that of the slot. -/
theorem next?_of_isUpload (hc : c.IsUpload b) (hb : b ≠ f.commands) (phase : Phase) :
    next? uploads f ⟨true, phase⟩ c = some ⟨true, phase⟩ := by
  cases c with
  | failed name wanted code => simp [next?]
  | waitQueue | beginCommandBuffer | endCommandBuffer =>
    simp_all [next?, Call.concerns, Call.IsUpload]
  | record b' c =>
    obtain ⟨rfl, -⟩ := hc
    simp [next?, Call.concerns, hb]
  | submit queue work fence =>
    have hw : work.commands = b := hc
    simp [next?, Call.concerns, hw, hb]
  | _ => exact hc.elim

theorem after_upload {work past : List Call} (hw : ∀ c ∈ work, c.IsUpload b) (hb : b ≠ f.commands)
    {phase : Phase} (h : after uploads f past = some ⟨true, phase⟩) :
    after uploads f (work ++ past) = some ⟨true, phase⟩ := by
  induction work with
  | nil => exact h
  | cons c work ih =>
    rw [List.cons_append, after, ih fun c hc ↦ hw c (List.mem_cons_of_mem _ hc), Option.bind_some,
      next?_of_isUpload (hw c List.mem_cons_self) hb]

end Progress

/-- A slot sees nothing of what is done outside frames, unless an upload took its buffer. -/
theorem OutsideFrames.after {uploads : Object .commandPool} {n : ℕ} {l past : List Call}
    {f : FrameSlot} {phase : Phase} (h : OutsideFrames uploads n l)
    (hf : .allocateCommandBuffer f.commands uploads ∉ l)
    (hp : Progress.after uploads f past = some ⟨false, phase⟩) :
    Progress.after uploads f (l ++ past) = some ⟨false, phase⟩ := by
  induction h with
  | nil => exact hp
  | call _ hc ih =>
    rw [List.cons_append, Progress.after, ih fun hmem ↦ hf (List.mem_cons_of_mem _ hmem),
      Option.bind_some, Progress.next?_of_isOutsideFrames hc]
  | @upload b work l _ hb hw ih =>
    have hne : b ≠ f.commands := by
      rintro rfl
      exact hf (by simp)
    have hopen : Progress.after uploads f (.allocateCommandBuffer b uploads :: (l ++ past)) =
        some ⟨true, phase⟩ := by
      rw [Progress.after, ih fun hmem ↦ hf (by simp [hmem]), Option.bind_some]
      simp [Progress.next?]
    rw [List.cons_append, List.append_assoc, List.cons_append, Progress.after,
      Progress.after_upload hw hne hopen, Option.bind_some]
    simp [Progress.next?]

/-! ### The driver -/

namespace Driver

variable {uploads : Object .commandPool} {d d' d'' : Driver} {name : CallName} {kind : ObjectKind}
  {α : Type}

/-- What the driver did from one state to another is done outside frames. -/
structure Grows (uploads : Object .commandPool) (d d' : Driver) : Prop where
  /-- Objects may have been made. -/
  count_le : ∀ k, d.made.count k ≤ d'.made.count k
  /-- The calls. -/
  calls : ∃ l, d'.calls = l ++ d.calls ∧ OutsideFrames uploads (d.made.count .commandBuffer) l

/-- The driver got from one state to another by what is done outside frames. -/
structure Adds (uploads : Object .commandPool) (d d' : Driver) : Prop extends
    Grows uploads d d' where
  /-- The script is the same. -/
  script : d'.script = d.script

theorem Grows.trans (h : d.Grows uploads d') (h' : d'.Grows uploads d'') : d.Grows uploads d'' where
  count_le k := (h.count_le k).trans (h'.count_le k)
  calls := by
    obtain ⟨l, hl, ha⟩ := h.calls
    obtain ⟨l', hl', ha'⟩ := h'.calls
    exact ⟨l' ++ l, by rw [hl', hl, List.append_assoc], ha'.append ha (h.count_le _)⟩

/-- Nothing was called. -/
theorem grows_of_calls (hm : ∀ k, d.made.count k ≤ d'.made.count k) (hc : d'.calls = d.calls) :
    d.Grows uploads d' :=
  ⟨hm, [], hc, .nil⟩

theorem Adds.trans (h : d.Adds uploads d') (h' : d'.Adds uploads d'') : d.Adds uploads d'' :=
  ⟨h.toGrows.trans h'.toGrows, h'.script.trans h.script⟩

/-- Nothing was called. -/
theorem adds_of_calls (hs : d'.script = d.script) (hm : ∀ k, d.made.count k ≤ d'.made.count k)
    (hc : d'.calls = d.calls) : d.Adds uploads d' :=
  ⟨grows_of_calls hm hc, hs⟩

theorem Adds.refl (d : Driver) : d.Adds uploads d := adds_of_calls rfl (fun _ ↦ Nat.le_refl _) rfl

theorem adds_tally : d.Adds uploads (d.tally name).2 :=
  adds_of_calls rfl (fun _ ↦ Nat.le_refl _) rfl

theorem adds_fresh : d.Adds uploads (d.fresh kind).2 :=
  adds_of_calls rfl (fun _ ↦ List.count_le_count_cons) rfl

theorem adds_push {c : Call} (hc : c.IsOutsideFrames uploads) : d.Adds uploads (d.push c) :=
  ⟨⟨fun _ ↦ Nat.le_refl _, [c], rfl, .call .nil hc⟩, rfl⟩

theorem adds_forget {o : AnyObject} : d.Adds uploads (d.forget o) := by
  rw [forget]
  split <;> exact adds_of_calls rfl (fun _ ↦ Nat.le_refl _) rfl

theorem adds_destroy {o : AnyObject} : d.Adds uploads (d.destroy o) := by
  rw [destroy]
  split
  · exact .refl d
  · exact adds_forget.trans (adds_push trivial)

theorem adds_query {a : α} : d.Adds uploads (query name a d).2 := query_snd ▸ adds_tally

theorem adds_enumerate {l : List α} : d.Adds uploads (enumerate name l d).2 := by
  rw [enumerate]
  generalize d.script.length + 1 = fuel
  induction fuel generalizing d with
  | zero => exact .refl d
  | succ n ih =>
    have h₁ : d.Adds uploads (query name () d).2 := adds_query
    rw [enumerateWithin]
    rcases hq : query name () d with ⟨code | _, d₁⟩ <;> rw [hq] at h₁
    · exact h₁
    · have h₂ : d₁.Adds uploads (query name l d₁).2 := adds_query
      simp only
      rcases hr : query name l d₁ with ⟨code | _, d₂⟩ <;> rw [hr] at h₂
      · simp only
        split
        · exact (h₁.trans h₂).trans ih
        · exact h₁.trans h₂
      · exact h₁.trans h₂

theorem adds_freshMany {n : ℕ} : d.Adds uploads (d.freshMany kind n).2 := by
  induction n generalizing d with
  | zero => exact .refl d
  | succ n ih => exact adds_fresh.trans ih

section Calls

variable (hn : name.isOfFrames = false)
include hn

theorem adds_perform {c : Call} (hc : c.IsOutsideFrames uploads) :
    d.Adds uploads (perform name c d).2 := by
  rcases hd : perform name c d with ⟨code | _, d'⟩
  · rw [perform_error hd]
    exact adds_tally.trans (adds_push hn)
  · rw [perform_ok hd]
    exact adds_tally.trans (adds_push hc)

theorem adds_create {c : Object kind → Call} (hc : ∀ o, (c o).IsOutsideFrames uploads) :
    d.Adds uploads (create name c d).2 := by
  rcases hd : create name c d with ⟨code | o, d'⟩
  · rw [create_error hd]
    exact adds_tally.trans (adds_push hn)
  · rw [(create_ok hd).2]
    exact (adds_tally.trans adds_fresh).trans (adds_push (hc o))

end Calls

theorem adds_createMessenger {severity : Flags} :
    d.Adds uploads (d.createMessenger severity).2 := by
  have h : d.Adds uploads (d.create .createMessenger (.createMessenger · severity)).2 :=
    adds_create rfl fun _ ↦ trivial
  rw [createMessenger]
  rcases hd : d.create .createMessenger (.createMessenger · severity) with ⟨code | o, d'⟩ <;>
    rw [hd] at h
  · exact h
  · exact h.trans (adds_of_calls rfl (fun _ ↦ Nat.le_refl _) rfl)

theorem adds_createSwapchain {info : SwapchainInfo} :
    d.Adds uploads (createSwapchain info d).2 := by
  have h : d.Adds uploads (d.create .createSwapchain (.createSwapchain · info)).2 :=
    adds_create rfl fun _ ↦ trivial
  rw [createSwapchain]
  rcases hd : d.create .createSwapchain (.createSwapchain · info) with ⟨code | o, d'⟩ <;>
    rw [hd] at h
  · exact h
  · exact (h.trans adds_freshMany).trans (adds_of_calls rfl (fun _ ↦ Nat.le_refl _) rfl)

theorem adds_swapchainImages {o : Object .swapchain} :
    d.Adds uploads (swapchainImages o d).2 := adds_enumerate

theorem adds_handOut {o : Object .swapchain} {signal : Object .semaphore} {code : ResultCode} :
    d.Adds uploads (d.handOut o signal code).2 := by
  refine .trans ?_ (adds_push (c := .acquire o signal _ code) trivial)
  exact adds_of_calls rfl (fun _ ↦ Nat.le_refl _) rfl

theorem adds_acquire {o : Object .swapchain} {signal : Object .semaphore} :
    d.Adds uploads (acquire o signal d).2 := by
  have htally : d.Adds uploads (d.tally .acquire).2 := adds_tally
  rw [acquire]
  dsimp only
  generalize (d.tally .acquire).1.getD (if o.isNull then .outOfDate else .success) = code
  split
  · exact htally.trans (adds_push rfl)
  · exact htally.trans adds_handOut

theorem adds_present {queue : Object .queue} {wait : Object .semaphore} {o : Object .swapchain}
    {index : ℕ} : d.Adds uploads (present queue wait o index d).2 :=
  adds_tally.trans (adds_push trivial)

theorem adds_bindBuffer {o : Object .buffer} {size : ℕ} :
    d.Adds uploads (bindBuffer o size d).2 := by
  have h : d.Adds uploads (d.perform .bindBufferMemory (.bindBufferMemory o)).2 :=
    adds_perform rfl trivial
  rw [bindBuffer]
  rcases hd : d.perform .bindBufferMemory (.bindBufferMemory o) with ⟨code | _, d'⟩ <;>
    rw [hd] at h
  · exact h
  · exact h.trans (adds_of_calls rfl (fun _ ↦ Nat.le_refl _) rfl)

theorem adds_write {o : Object .buffer} {bytes : List UInt8} : d.Adds uploads (d.write o bytes) :=
  adds_of_calls rfl (fun _ ↦ Nat.le_refl _) rfl

end Driver

/-! ### Hosts -/

/-- Since the driver was `d₀`, everything was done outside frames. -/
def Since (uploads : Object .commandPool) (d₀ : Driver) (h : Host) : Prop :=
  d₀.Adds uploads h.driver

/-- The step is done outside frames, however it ends. -/
def Run.IsOutsideFrames {α : Type} (uploads : Object .commandPool) (x : Run α) : Prop :=
  ∀ d₀, Keeps (Since uploads d₀) x

/-- The step is done outside frames, whatever it does to its part. -/
def RunOn.IsOutsideFrames {τ α : Type} (uploads : Object .commandPool) (x : RunOn τ α) : Prop :=
  ∀ d₀, Keeps (fun s ↦ Since uploads d₀ s.2) x

variable {uploads : Object .commandPool} {α β τ : Type} {name : CallName} {kind : ObjectKind}
  {action logged : String}

namespace Run.IsOutsideFrames

theorem pure {a : α} : IsOutsideFrames uploads (Pure.pure a : Run α) :=
  fun _ ↦ Meets.pure fun _ h ↦ h

theorem bind {x : Run α} {f : α → Run β} (hx : IsOutsideFrames uploads x)
    (hf : ∀ a, IsOutsideFrames uploads (f a)) : IsOutsideFrames uploads (x >>= f) :=
  fun d₀ ↦ Meets.bind (hx d₀) fun a ↦ hf a d₀

theorem get_bind {f : Host → Run α} (hf : ∀ h, IsOutsideFrames uploads (f h)) :
    IsOutsideFrames uploads (MonadState.get >>= f) :=
  fun d₀ ↦ .get_bind fun h ↦ hf h d₀

theorem ite {c : Prop} [Decidable c] {x y : Run α} (hx : IsOutsideFrames uploads x)
    (hy : IsOutsideFrames uploads y) : IsOutsideFrames uploads (if c then x else y) :=
  fun d₀ ↦ .ite (fun _ ↦ hx d₀) fun _ ↦ hy d₀

theorem note {severity : Log.Severity} {origin message : String} :
    IsOutsideFrames uploads (Log.note severity origin message : Run Unit) :=
  fun _ ↦ Meets.note fun _ _ h ↦ h

theorem refuse {origin : String} {cause : BackendCause} :
    IsOutsideFrames uploads (Log.refuse origin cause : Run α) :=
  fun _ ↦ Meets.refuse fun _ _ h ↦ h

theorem fail {e : EngineError} : IsOutsideFrames uploads (StepWith.fail e : Run α) :=
  fun _ ↦ Meets.fail fun _ h ↦ h

theorem trap : IsOutsideFrames uploads (StepWith.trap : Run α) := fun _ ↦ Meets.trap

theorem ofChecked {c : Checked EngineError α} :
    IsOutsideFrames uploads (StepWith.ofChecked c : Run α) :=
  fun _ ↦ .ofChecked

theorem orTrap {o : Option α} : IsOutsideFrames uploads (StepWith.orTrap o : Run α) :=
  fun _ ↦ Meets.orTrap fun _ _ _ h ↦ h

theorem update {f : Host → Host} (hf : ∀ h, (f h).driver = h.driver) :
    IsOutsideFrames uploads (modify f : Run PUnit) :=
  fun d₀ ↦ Meets.update fun h hh ↦ (congrArg (d₀.Adds uploads) (hf h)).mpr hh

theorem share : IsOutsideFrames uploads Run.share := update fun _ ↦ rfl

theorem unshare : IsOutsideFrames uploads Run.unshare := update fun _ ↦ rfl

theorem giveUp {words : String} {cause : InitializationCause} :
    IsOutsideFrames uploads (Run.giveUp words cause : Run α) :=
  bind note fun _ ↦ fail

theorem changeDriver {f : Driver → Driver} (hf : ∀ d : Driver, d.Adds uploads (f d)) :
    IsOutsideFrames uploads (Run.changeDriver f) :=
  fun _ ↦ Run.meets_changeDriver fun _ h ↦ h.trans (hf _)

theorem destroy {o : Object kind} : IsOutsideFrames uploads (Run.destroy o) :=
  changeDriver fun _ ↦ Driver.adds_destroy

theorem push {c : Call} (hc : c.IsOutsideFrames uploads) :
    IsOutsideFrames uploads (Run.changeDriver (·.push c)) :=
  changeDriver fun _ ↦ Driver.adds_push hc

theorem driving {f : Driver → α × Driver} (hf : ∀ d : Driver, d.Adds uploads (f d).2) :
    IsOutsideFrames uploads (Run.driving f) :=
  fun _ ↦ Run.meets_driving fun _ h ↦ h.trans (hf _)

theorem tryOut {f : Driver → Except ResultCode α × Driver}
    (hf : ∀ d : Driver, d.Adds uploads (f d).2) : IsOutsideFrames uploads (Run.tryOut f) :=
  bind (driving hf) fun _ ↦ pure

theorem work {f : Driver → Except ResultCode α × Driver}
    (hf : ∀ d : Driver, d.Adds uploads (f d).2) : IsOutsideFrames uploads (Run.work action f) := by
  refine bind (driving hf) fun r ↦ ?_
  cases r with
  | ok => exact pure
  | error => exact refuse

theorem setUp {f : Driver → Except ResultCode α × Driver}
    (hf : ∀ d : Driver, d.Adds uploads (f d).2) :
      IsOutsideFrames uploads (Run.setUp logged action f) := by
  refine bind (driving hf) fun r ↦ ?_
  cases r with
  | ok => exact pure
  | error => exact giveUp

/-- What is done with each of several. -/
theorem each {f : α → Run Unit} (hf : ∀ a, IsOutsideFrames uploads (f a)) (l : List α) :
    IsOutsideFrames uploads (Run.each f l) := by
  induction l with
  | nil => exact pure
  | cons a l ih => exact bind (hf a) fun _ ↦ ih

/-- What is done is done outside frames, and so is what is undone after a fault. -/
theorem undoing {x : Run α} {undo : Run Unit} (hs : Silent undo) (hx : IsOutsideFrames uploads x)
    (hu : IsOutsideFrames uploads undo) : IsOutsideFrames uploads (StepWith.undoing x undo) :=
  fun d₀ ↦ hs.undoing (hx d₀) fun _ ↦ hu d₀

theorem undoingOnError {x : Run α} {undo : Run Unit} (hx : IsOutsideFrames uploads x)
    (hu : IsOutsideFrames uploads undo) :
      IsOutsideFrames uploads (StepWith.undoingOnError x undo) :=
  fun d₀ ↦ Meets.undoingOnError (hx d₀) fun _ ↦ hu d₀

theorem attempt {x : Run α} (hx : IsOutsideFrames uploads x) :
    IsOutsideFrames uploads (StepWith.attempt x) :=
  fun d₀ ↦ Meets.attempt (R := fun _ ↦ Since uploads d₀) (hx d₀)

/-- What is built up outside frames, and given up outside frames after a fault. -/
theorem construct {t : τ} {build : RunOn τ Unit} {drop : τ → Run Unit}
    (hb : RunOn.IsOutsideFrames uploads build) (hs : ∀ t, Silent (drop t))
    (hd : ∀ t, IsOutsideFrames uploads (drop t)) :
      IsOutsideFrames uploads (RunOn.construct t build drop) := by
  intro d₀ h hh
  have hbuild := hb d₀ (t, h) hh
  rw [RunOn.construct]
  rcases hbs : build (t, h) with ⟨a, u, v⟩ | ⟨e, u, v⟩ <;> rw [hbs] at hbuild
  · exact hbuild
  · obtain ⟨a, w, hw, -⟩ := hs u v
    simp only [hw]
    cases e with
    | error e => exact (hd u d₀).ok hbuild hw
    | trap => trivial

end Run.IsOutsideFrames

namespace RunOn.IsOutsideFrames

variable {x : RunOn τ α}

theorem pure {a : α} : IsOutsideFrames uploads (Pure.pure a : RunOn τ α) :=
  fun _ ↦ Meets.pure fun _ h ↦ h

theorem bind {f : α → RunOn τ β} (hx : IsOutsideFrames uploads x)
    (hf : ∀ a, IsOutsideFrames uploads (f a)) :
    IsOutsideFrames uploads (x >>= f) :=
  fun d₀ ↦ Meets.bind (hx d₀) fun a ↦ hf a d₀

theorem get_bind {f : τ × Host → RunOn τ α} (hf : ∀ h, IsOutsideFrames uploads (f h)) :
    IsOutsideFrames uploads (MonadState.get >>= f) :=
  fun d₀ ↦ .get_bind fun h ↦ hf h d₀

theorem part_bind {f : τ → RunOn τ α} (hf : ∀ t, IsOutsideFrames uploads (f t)) :
    IsOutsideFrames uploads (RunOn.part >>= f) :=
  fun d₀ s hs ↦ hf s.1 d₀ s hs

theorem ite {c : Prop} [Decidable c] {y : RunOn τ α} (hx : IsOutsideFrames uploads x)
    (hy : IsOutsideFrames uploads y) : IsOutsideFrames uploads (if c then x else y) :=
  fun d₀ ↦ .ite (fun _ ↦ hx d₀) fun _ ↦ hy d₀

theorem change {f : τ → τ} : IsOutsideFrames uploads (RunOn.change f) :=
  fun _ ↦ Meets.update fun _ h ↦ h

theorem orTrap {o : Option α} : IsOutsideFrames uploads (StepWith.orTrap o : RunOn τ α) :=
  fun _ ↦ Meets.orTrap fun _ _ _ h ↦ h

theorem note {severity : Log.Severity} {origin message : String} :
    IsOutsideFrames uploads (Log.note severity origin message : RunOn τ Unit) :=
  fun _ ↦ Meets.note fun _ _ h ↦ h

theorem refuse {origin : String} {cause : BackendCause} :
    IsOutsideFrames uploads (Log.refuse origin cause : RunOn τ α) :=
  fun _ ↦ Meets.refuse fun _ _ h ↦ h

theorem lift {x : Run α} (hx : Run.IsOutsideFrames uploads x) :
    IsOutsideFrames uploads (liftM x : RunOn τ α) := by
  refine fun d₀ ↦ Meets.within ?_
  rintro ⟨t, h⟩ hs
  exact (hx d₀).mono (fun _ hu ↦ hu ▸ hs) (fun _ _ hu ↦ hu) fun _ _ hu ↦ hu

theorem undoing {undo : Run Unit} (hs : Run.Silent undo) (hx : IsOutsideFrames uploads x)
    (hu : Run.IsOutsideFrames uploads undo) :
    IsOutsideFrames uploads (StepWith.undoing x (liftM undo : RunOn τ Unit)) :=
  fun d₀ ↦ RunOn.meets_undoing hs (hx d₀) fun _ _ ↦ (hu d₀).mono (fun _ h ↦ h) (fun _ _ h ↦ h)
    fun _ _ _ ↦ trivial

end RunOn.IsOutsideFrames

end RenderTargets.Vulkan
