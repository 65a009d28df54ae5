import RenderTargets.Proofs.Vulkan.Kinds
/-!
# Images of the screen in a trace

An image of the screen is asked for, the frame that renders into it is handed over, and the image is
shown. The semaphore that is passed when an image is asked for tells that the image is there; the
frame waits for it and tells a second one, which showing the image waits for. What it takes that
this goes right can be seen in a trace, whose latest call is first.

* Of the calls that concern the screen, each image makes a **round** of three (`Rounds`).
* A semaphore is passed again only when all its **signals** are consumed by work of its slot, and
  the slot was waited for since (`FrameSlot.IsFree`).
* Once the swapchain no longer fits, the next image is one of a swapchain made since
  (`Call.IsOfRenewed`).

A trace is **obliging** if no call fails but those for images, and these only because the swapchain
no longer fits.
-/

namespace RenderTargets.Vulkan

variable {c : Call} {l calls later past : List Call} {made ended : List ObjectKind}

namespace Call

/-! ### Kinds of calls -/

/-- An image of the screen is asked for, maybe in vain. -/
def asks : Call → Bool
  | failed name _ _ => name == .acquire
  | acquire .. => true
  | _ => false

/-- No image is asked for or shown, and no fence is waited for. -/
def isQuiet : Call → Bool
  | failed name _ _ => name != .acquire
  | waitForFence _ | acquire .. | present .. => false
  | _ => true

/-- The call concerns the images of the screen. -/
def isOnScreen : Call → Bool
  | failed name _ _ => name == .acquire || name == .createSwapchain
  | acquire .. | present .. | createSwapchain .. => true
  | submit _ work _ => !(work.wait.isEmpty && work.signal.isEmpty)
  | destroy o => o.kind == .swapchain
  | _ => false

/-- The call has nothing to do with the images of the screen, and waits for no fence. -/
def isOffScreen (c : Call) : Bool := c.isQuiet && !c.isOnScreen

/-- The call concerns the images of the screen, but is not about one of them. -/
def isBetweenRounds : Call → Bool
  | failed name _ _ => name == .acquire || name == .createSwapchain
  | createSwapchain .. => true
  | destroy o => o.kind == .swapchain
  | _ => false

/-- The driver lets it be known that the swapchain no longer fits. -/
def Reports : Call → Prop
  | failed name _ code => name = .acquire ∧ code = .outOfDate
  | acquire _ _ _ code => code = .suboptimal
  | present _ _ _ _ code => code = .suboptimal ∨ code = .outOfDate
  | _ => False

/-- The call succeeded, or is one for an image and the swapchain no longer fits. -/
def Obliges : Call → Prop
  | failed name _ code => name = .acquire ∧ code = .outOfDate
  | acquire _ _ _ code => code = .success ∨ code = .suboptimal
  | present _ _ _ _ code => code = .success ∨ code = .suboptimal ∨ code = .outOfDate
  | _ => True

instance : DecidablePred Obliges := fun c ↦ by
  cases c <;> dsimp only [Obliges] <;> infer_instance

theorem isQuiet_of_touches (h : c.touches made ended = true) : c.isQuiet = true := by
  cases c with
  | failed name => exact (Bool.and_eq_true _ _ ▸ h).1
  | waitForFence | acquire | present => cases h
  | _ => rfl

theorem isQuiet_of_isOffScreen (h : c.isOffScreen = true) : c.isQuiet = true :=
  (Bool.and_eq_true _ _ ▸ h).1

theorem not_isOnScreen_of_isOffScreen (h : c.isOffScreen = true) : c.isOnScreen = false :=
  Bool.not_eq_true' _ ▸ (Bool.and_eq_true _ _ ▸ h).2

/-- Resources have nothing to do with the screen. -/
theorem isOffScreen_of_ofResources (h : c.ofResources = true) : c.isOffScreen = true := by
  rw [isOffScreen, isQuiet_of_touches h, Bool.true_and, Bool.not_eq_true']
  cases c with
  | failed name =>
    have hname : (name != .acquire && (name != .createSwapchain || false)) = true := h
    simpa [isOnScreen] using hname
  | submit _ work fence =>
    have hwork : (fence.isNull && work.wait.isEmpty && work.signal.isEmpty) = true := h
    simp_all [isOnScreen]
  | destroy o =>
    have hkind : o.kind ∈ resourceKinds := mem_of_ended? h rfl
    exact beq_false_of_ne fun ho ↦ absurd (ho ▸ hkind) (by decide)
  | createSwapchain =>
    have hkind : ObjectKind.swapchain ∈ resourceKinds := mem_of_made? h rfl
    exact absurd hkind (by decide)
  | acquire | present => cases h
  | _ => rfl

/-- What makes and ends objects goes on between rounds. -/
theorem isBetweenRounds_of_touches (h : c.touches made ended = true) (hs : c.isOnScreen = true) :
    c.isBetweenRounds = true := by
  cases c with
  | submit _ work fence =>
    have hwork : (fence.isNull && work.wait.isEmpty && work.signal.isEmpty) = true := h
    simp_all [isOnScreen]
  | acquire | present => cases h
  | _ => exact hs

theorem not_asks_of_isQuiet (h : c.isQuiet = true) : c.asks = false := by
  cases c with
  | failed name => simpa [isQuiet, asks] using h
  | acquire => cases h
  | _ => rfl

theorem not_reports_of_isQuiet (h : c.isQuiet = true) : ¬c.Reports := by
  cases c with
  | failed name =>
    rintro ⟨rfl, -⟩
    cases h
  | acquire | present => cases h
  | _ => exact id

end Call

/-- Calls fail only for images of a swapchain that no longer fits. -/
def Obliging (calls : List Call) : Prop := ∀ c ∈ calls, c.Obliges

instance (calls : List Call) : Decidable (Obliging calls) :=
  inferInstanceAs (Decidable (∀ c ∈ calls, c.Obliges))

theorem Obliging.suffix (h : Obliging later) (hl : calls <:+ later) : Obliging calls :=
  fun c hc ↦ h c (hl.subset hc)

theorem not_obliging_of_failed {name : CallName} {wanted : Call} {code : ResultCode}
    (hname : name ≠ .acquire) : ¬Obliging (.failed name wanted code :: calls) :=
  fun h ↦ hname (h _ List.mem_cons_self).1

/-! ### Rounds -/

/-- The calls are whole rounds, in each of which one submission waits for the image that was asked
for and nothing else, and the image is shown after it. Between rounds the swapchain may change. -/
inductive Rounds : List Call → Prop
  /-- There was none. -/
  | nil : Rounds []
  /-- A call between rounds. -/
  | between {d k} (h : Rounds k) (hd : d.isBetweenRounds = true) : Rounds (d :: k)
  /-- A round. -/
  | round {queue swapchain available rendered index code code' stage commands fence k}
      (h : Rounds k) :
      Rounds (.present queue rendered swapchain index code' ::
        .submit queue ⟨[(available, stage)], commands, [rendered]⟩ fence ::
        .acquire swapchain available index code :: k)

/-- The calls that concern the images of the screen. -/
def onScreen (calls : List Call) : List Call := calls.filter Call.isOnScreen

theorem onScreen_append (hl : ∀ c ∈ l, c.isOnScreen = false) :
    onScreen (l ++ calls) = onScreen calls := by
  rw [onScreen, List.filter_append,
    List.filter_eq_nil_iff.2 fun c hc ↦ Bool.eq_false_iff.1 (hl c hc), List.nil_append, onScreen]

theorem Rounds.append (h : Rounds (onScreen calls))
    (hl : ∀ c ∈ l, c.isOnScreen = true → c.isBetweenRounds = true) :
    Rounds (onScreen (l ++ calls)) := by
  induction l with
  | nil => exact h
  | cons c l ih =>
    obtain ⟨hc, hl⟩ := List.forall_mem_cons.1 hl
    rw [List.cons_append, onScreen, List.filter_cons]
    split
    · next hs => exact .between (ih hl) (hc hs)
    · exact ih hl

/-! ### Signals -/

/-- A call that is not among the latest ones is among the others. -/
theorem exists_of_append_eq (h : l ++ calls = later ++ c :: past) (hc : c ∉ l) :
    ∃ rest, later = l ++ rest ∧ calls = rest ++ c :: past := by
  induction l generalizing later with
  | nil => exact ⟨later, rfl, h⟩
  | cons d l ih =>
    obtain ⟨hd, hl⟩ := List.ne_and_not_mem_of_not_mem_cons hc
    cases later with
    | nil => exact (hd (List.cons_eq_cons.1 h).1.symm).elim
    | cons e later =>
      obtain ⟨rfl, htail⟩ := List.cons.inj h
      obtain ⟨rest, rfl, hcalls⟩ := ih htail hl
      exact ⟨rest, rfl, hcalls⟩

/-- Since each signal of the semaphore, the calls have `P`. -/
def SinceSignals (s : Object .semaphore) (P : List Call → Prop) (calls : List Call) : Prop :=
  ∀ later o i code past, calls = later ++ .acquire o s i code :: past → P later

namespace SinceSignals

variable {s : Object .semaphore} {P Q : List Call → Prop}

theorem mono (h : SinceSignals s P calls) (hPQ : ∀ l, P l → Q l) : SinceSignals s Q calls :=
  fun later o i code past hc ↦ hPQ later (h later o i code past hc)

/-- There was no other signal. -/
theorem append (h : SinceSignals s P calls) (hP : ∀ k, P k → P (l ++ k))
    (hl : ∀ o i code, .acquire o s i code ∉ l) : SinceSignals s P (l ++ calls) := by
  intro later o i code past hc
  obtain ⟨rest, rfl, hrest⟩ := exists_of_append_eq hc (hl o i code)
  exact hP rest (h rest o i code past hrest)

/-- What has just happened has happened since each of the signals before it. -/
theorem cons (h : ∀ k, P (c :: k)) (hc : ∀ o i code, c ≠ .acquire o s i code) :
    SinceSignals s P (c :: calls) := by
  intro later o i code past hcalls
  obtain ⟨rest, rfl, -⟩ := exists_of_append_eq (l := [c]) hcalls
    fun hmem ↦ hc o i code (List.mem_singleton.1 hmem).symm
  exact h rest

theorem of_not_mem (h : ∀ o i code, .acquire o s i code ∉ calls) : SinceSignals s P calls :=
  fun later o i code past hc ↦ (h o i code (hc ▸ by simp)).elim

end SinceSignals

theorem not_mem_of_isQuiet (hl : ∀ c ∈ l, c.isQuiet = true) (o : Object .swapchain)
    (s : Object .semaphore) (i : ℕ) (code : ResultCode) : .acquire o s i code ∉ l :=
  fun h ↦ Bool.noConfusion (hl _ h)

namespace FrameSlot

variable {f : FrameSlot} {s : Object .semaphore}

/-- Work of the slot that waits for the semaphore was handed over. -/
def Consumes (f : FrameSlot) (s : Object .semaphore) (calls : List Call) : Prop :=
  ∃ queue work, .submit queue work f.fence ∈ calls ∧ work.commands = f.commands ∧
    s ∈ work.wait.map Prod.fst

/-- Such work was handed over, and the slot was waited for after that. -/
def Retires (f : FrameSlot) (s : Object .semaphore) (calls : List Call) : Prop :=
  ∃ later past, calls = later ++ .waitForFence f.fence :: past ∧ f.Consumes s past

/-- Every signal of the semaphore is consumed by the slot. -/
abbrev HasSpent (f : FrameSlot) (s : Object .semaphore) : List Call → Prop :=
  SinceSignals s (f.Consumes s)

/-- The semaphore can be passed again. -/
abbrev IsFree (f : FrameSlot) (s : Object .semaphore) : List Call → Prop :=
  SinceSignals s (f.Retires s)

/-- The slot is the one that was waited for last. -/
def IsInUse (f : FrameSlot) (calls : List Call) : Prop :=
  ∃ later past, calls = later ++ .waitForFence f.fence :: past ∧
    ∀ fence, .waitForFence fence ∉ later

theorem Consumes.append (h : f.Consumes s calls) (l : List Call) : f.Consumes s (l ++ calls) := by
  obtain ⟨queue, work, hmem, hwork⟩ := h
  exact ⟨queue, work, List.mem_append_right l hmem, hwork⟩

theorem Retires.append (h : f.Retires s calls) (l : List Call) : f.Retires s (l ++ calls) := by
  obtain ⟨later, past, rfl, hpast⟩ := h
  exact ⟨l ++ later, past, (List.append_assoc _ _ _).symm, hpast⟩

theorem Retires.consumes (h : f.Retires s calls) : f.Consumes s calls := by
  obtain ⟨later, past, rfl, queue, work, hmem, hwork⟩ := h
  exact ⟨queue, work, List.mem_append_right later (List.mem_cons_of_mem _ hmem), hwork⟩

theorem IsInUse.append (h : f.IsInUse calls) (hl : ∀ fence, .waitForFence fence ∉ l) :
    f.IsInUse (l ++ calls) := by
  obtain ⟨later, past, rfl, hlater⟩ := h
  exact ⟨l ++ later, past, (List.append_assoc _ _ _).symm, fun fence hmem ↦
    (List.mem_append.1 hmem).elim (hl fence) (hlater fence)⟩

theorem isInUse_wait (f : FrameSlot) : f.IsInUse (.waitForFence f.fence :: calls) :=
  ⟨[], calls, rfl, fun _ ↦ List.not_mem_nil⟩

/-- Waiting for the slot frees its semaphore. -/
theorem HasSpent.wait (h : f.HasSpent s calls) : f.IsFree s (.waitForFence f.fence :: calls) := by
  intro later o i code past hc
  obtain ⟨rest, rfl, hrest⟩ := exists_of_append_eq (l := [_]) hc (by simp)
  exact ⟨[], rest, rfl, h rest o i code past hrest⟩

/-- Handing work over that waits for the semaphore consumes its signals. -/
theorem hasSpent_submit {queue : Object .queue} {rendered : Object .semaphore} :
    f.HasSpent s (.submit queue (f.submission (some (s, rendered))) f.fence :: calls) :=
  .cons (fun _ ↦ ⟨queue, _, List.mem_cons_self, rfl, List.mem_singleton_self _⟩) nofun

end FrameSlot

/-- Whenever an image was asked for, the slot that had been waited for last passed its semaphore,
and all signals of that were consumed. -/
def AsksFreely (slots : List FrameSlot) (available : List (Object .semaphore))
    (calls : List Call) : Prop :=
  ∀ later c past, calls = later ++ c :: past → c.asks = true →
    ∃ (j : ℕ) (f : FrameSlot) (s : Object .semaphore), slots[j]? = some f ∧
      available[j]? = some s ∧ f.IsInUse past ∧ f.IsFree s past ∧
      ∀ o s' i code, c = .acquire o s' i code → s' = s

namespace AsksFreely

variable {slots : List FrameSlot} {available : List (Object .semaphore)}

theorem append (h : AsksFreely slots available calls) (hl : ∀ c ∈ l, c.asks = false) :
    AsksFreely slots available (l ++ calls) := by
  intro later c past hc hasks
  obtain ⟨rest, -, hrest⟩ := exists_of_append_eq hc fun hmem ↦ by
    rw [hl c hmem] at hasks
    cases hasks
  exact h rest c past hrest hasks

theorem cons (h : AsksFreely slots available calls) {j : ℕ} {f : FrameSlot}
    {s : Object .semaphore} (hf : slots[j]? = some f) (hs : available[j]? = some s)
    (hused : f.IsInUse calls) (hfree : f.IsFree s calls)
    (hc : ∀ o s' i code, c = .acquire o s' i code → s' = s) :
    AsksFreely slots available (c :: calls) := by
  intro later c' past hcalls hasks
  cases later with
  | nil =>
    obtain ⟨rfl, rfl⟩ := List.cons_eq_cons.1 hcalls
    exact ⟨j, f, s, hf, hs, hused, hfree, hc⟩
  | cons d later => exact h later c' past (List.cons_eq_cons.1 hcalls).2 hasks

end AsksFreely

/-! ### Swapchains made since -/

/-- Of the calls before it, one made the swapchain that the call asks, or one that could be asked.
-/
def Call.IsOfRenewed (c : Call) (past : List Call) : Prop :=
  ∃ swapchain info, .createSwapchain swapchain info ∈ past ∧
    ∀ o s i code, c = .acquire o s i code → o = swapchain

/-- Whatever is asked for an image is a swapchain made by these calls. -/
def AsksRenewed (calls : List Call) : Prop :=
  ∀ later c past, calls = later ++ c :: past → c.asks = true → c.IsOfRenewed past

namespace AsksRenewed

theorem nil : AsksRenewed [] := fun later _ _ h ↦ by
  cases later <;> cases h

theorem append (h : AsksRenewed calls) (hl : ∀ c ∈ l, c.asks = false) :
    AsksRenewed (l ++ calls) := by
  intro later c past hc hasks
  obtain ⟨rest, -, hrest⟩ := exists_of_append_eq hc fun hmem ↦ by
    rw [hl c hmem] at hasks
    cases hasks
  exact h rest c past hrest hasks

theorem cons (h : AsksRenewed calls) (hc : c.IsOfRenewed calls) : AsksRenewed (c :: calls) := by
  intro later d past hcalls hasks
  cases later with
  | nil =>
    obtain ⟨rfl, rfl⟩ := List.cons_eq_cons.1 hcalls
    exact hc
  | cons e later => exact h later d past (List.cons_eq_cons.1 hcalls).2 hasks

end AsksRenewed

end RenderTargets.Vulkan
