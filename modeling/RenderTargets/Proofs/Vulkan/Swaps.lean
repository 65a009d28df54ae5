import RenderTargets.Proofs.Vulkan.Asking
/-!
# Swapchains in a trace

A screen has one swapchain at a time. When it is built anew, another one is asked for in exchange
for that: if it is made, the old one is destroyed with the next call, and if not, the old one stays.
So a swapchain and the calls made so far go on by **swaps** (`Swaps`), each of which is an exchange,
an exchange that was refused, or another call.

Most of what a device does asks for no swapchain. `Call.keepsSwapchains` is the class of these
calls, for use with `Driver.Only`.
-/

namespace RenderTargets.Vulkan

open Run Relation

namespace Call

variable {c : Call} {made ended : List ObjectKind}

/-- The call asks for no swapchain and ends none. -/
def keepsSwapchains : Call → Bool
  | failed name _ _ => name != .createSwapchain
  | createSwapchain .. => false
  | destroy o => o.kind != .swapchain
  | _ => true

theorem keepsSwapchains_of_touches (hm : .swapchain ∉ made) (he : .swapchain ∉ ended)
    (h : c.touches made ended = true) : c.keepsSwapchains = true := by
  cases c with
  | failed name =>
    simp only [touches, Bool.and_eq_true, Bool.or_eq_true] at h
    exact h.2.resolve_right (mt List.contains_iff_mem.1 hm)
  | createSwapchain => exact (hm (mem_of_made? h rfl)).elim
  | destroy o =>
    have hkind : o.kind ∈ ended := mem_of_ended? h rfl
    exact bne_iff_ne.2 fun ho ↦ he (ho ▸ hkind)
  | _ => rfl

theorem keepsSwapchains_of_isOffScreen (h : c.isOffScreen = true) : c.keepsSwapchains = true := by
  have hscreen : c.isOnScreen = false := not_isOnScreen_of_isOffScreen h
  cases c with
  | failed => exact congrArg (!·) (Bool.or_eq_false_iff.1 hscreen).2
  | createSwapchain => cases hscreen
  | destroy o => exact congrArg (!·) hscreen
  | _ => rfl

end Call

/-- A swapchain with the calls made so far stays, or is to be exchanged for another one, which was
asked for with `p`. The null swapchain stands for none. -/
inductive Swap (p : SwapchainInfo → Prop) :
    Object .swapchain × List Call → Object .swapchain × List Call → Prop
  /-- Another call. -/
  | stay {o c l} (keeps : c.keepsSwapchains = true) : Swap p (o, l) (o, c :: l)
  /-- A swapchain was asked for in exchange for the one there is, and refused. -/
  | refused {o info code l} (asked : p info) (old : info.old = o) :
      Swap p (o, l) (o, .failed .createSwapchain (.createSwapchain .null info) code :: l)
  /-- The first swapchain. -/
  | first {o info l} (asked : p info) (old : info.old = .null) :
      Swap p (.null, l) (o, .createSwapchain o info :: l)
  /-- The next swapchain, which was asked for in exchange for the one there is. That is destroyed
  with the next call. -/
  | next {o o' info l} (there : o ≠ .null) (asked : p info) (old : info.old = o) :
      Swap p (o, l) (o', .destroy o.any :: .createSwapchain o' info :: l)

/-- Any number of calls. -/
abbrev Swaps (p : SwapchainInfo → Prop) :
    Object .swapchain × List Call → Object .swapchain × List Call → Prop :=
  ReflTransGen (Swap p)

variable {p q : SwapchainInfo → Prop} {o : Object .swapchain} {d d' : Driver}

theorem Swap.mono {s t : Object .swapchain × List Call} (hpq : ∀ info, p info → q info)
    (h : Swap p s t) : Swap q s t := by
  cases h with
  | stay keeps => exact .stay keeps
  | refused asked old => exact .refused (hpq _ asked) old
  | first asked old => exact .first (hpq _ asked) old
  | next there asked old => exact .next there (hpq _ asked) old

theorem Swaps.mono {s t : Object .swapchain × List Call} (hpq : ∀ info, p info → q info)
    (h : Swaps p s t) : Swaps q s t :=
  ReflTransGen.mono (fun _ _ ↦ Swap.mono hpq) _ _ h

/-- Calls that ask for no swapchain and end none. -/
theorem Swaps.of_only (h : d.Only Call.keepsSwapchains d') :
    Swaps p (o, d.calls) (o, d'.calls) := by
  obtain ⟨l, hl, hkeeps⟩ := h.calls
  rw [hl]
  clear hl
  induction l with
  | nil => exact .refl
  | cons c l ih =>
    obtain ⟨hc, hkeeps⟩ := List.forall_mem_cons.1 hkeeps
    exact (ih hkeeps).tail (.stay hc)

/-- From the start on, a swapchain is destroyed just if another one was made in exchange for it. -/
theorem Swaps.destroy_mem_iff {s : Object .swapchain × List Call} (h : Swaps p (.null, []) s)
    {x : Object .swapchain} (hx : x ≠ .null) :
    .destroy x.any ∈ s.2 ↔ ∃ o info, .createSwapchain o info ∈ s.2 ∧ info.old = x := by
  induction h with
  | refl => simp
  | tail _ hswap ih =>
    cases hswap with
    | @stay _ c _ keeps =>
      have hdestroy : .destroy x.any ≠ c := by
        rintro rfl
        cases keeps
      have hmake (o : Object .swapchain) (info : SwapchainInfo) : .createSwapchain o info ≠ c := by
        rintro rfl
        cases keeps
      simpa only [List.mem_cons, hdestroy, hmake, false_or] using ih
    | refused => simpa only [List.mem_cons, reduceCtorEq, false_or] using ih
    | @first o info _ asked old =>
      simp only [List.mem_cons, reduceCtorEq, false_or, Call.createSwapchain.injEq]
      refine ih.trans (exists₂_congr fun o' info' ↦ and_congr_left fun hold ↦
        (or_iff_right ?_).symm)
      rintro ⟨rfl, rfl⟩
      exact hx (hold.symm.trans old)
    | @next current o info _ there asked old =>
      simp only [List.mem_cons, reduceCtorEq, false_or, Call.destroy.injEq]
      rw [ih]
      constructor
      · rintro (hany | ⟨o', info', hmem, hold⟩)
        · have hsame : x = current := congrArg (fun a : AnyObject ↦ Object.mk a.number) hany
          exact ⟨o, info, .inl rfl, old.trans hsame.symm⟩
        · exact ⟨o', info', .inr hmem, hold⟩
      · rintro ⟨o', info', hmake | hmem, hold⟩
        · cases hmake
          exact .inl (congrArg Object.any (hold.symm.trans old))
        · exact .inr ⟨o', info', hmem, hold⟩

/-! ### Calls of a driver -/

theorem Driver.enumerate_ok {α : Type} {name : CallName} {answer l : List α}
    (h : enumerate name answer d = (.ok l, d')) : l = answer := by
  rw [enumerate] at h
  generalize d.script.length + 1 = fuel at h
  induction fuel generalizing d with
  | zero =>
    cases h
    rfl
  | succ fuel ih =>
    rw [enumerateWithin] at h
    rcases hask : query name () d with ⟨code | _, d₁⟩ <;> rw [hask] at h
    · cases h
    rcases hread : query name answer d₁ with ⟨code | l', d₂⟩ <;> simp only [hread] at h
    · split at h
      · exact ih h
      · cases h
    · cases h
      exact Driver.query_ok hread

/-- A swapchain that cannot be made changes nothing but the trace. -/
theorem Driver.createSwapchain_error {info : SwapchainInfo} {code : ResultCode}
    (h : createSwapchain info d = (.error code, d')) :
    d'.calls = .failed .createSwapchain (.createSwapchain .null info) code :: d.calls ∧
      d'.surface = d.surface := by
  rw [createSwapchain] at h
  split at h
  · cases h
  · have htally : d.Continues (d.tally .createSwapchain).2 := continues_tally
    rw [create_error h]
    exact ⟨congrArg _ htally.calls, htally.surface⟩

theorem Driver.only_handOut {signal : Object .semaphore} {code : ResultCode} :
    d.Only Call.keepsSwapchains (d.handOut o signal code).2 :=
  ⟨⟨[_], rfl, List.forall_mem_singleton.2 rfl⟩, rfl⟩

theorem Driver.only_acquire {signal : Object .semaphore} :
    d.Only Call.keepsSwapchains (d.acquire o signal).2 := by
  let code := (d.tally .acquire).1.getD (if o.isNull then .outOfDate else .success)
  show d.Only _ (if code.number < 0 ∨ o.isNull then _ else _ : Except _ _ × Driver).2
  split
  · exact Only.tally.trans (.push rfl)
  · exact Only.tally.trans only_handOut

theorem Driver.only_present {queue : Object .queue} {wait : Object .semaphore} {index : ℕ} :
    d.Only Call.keepsSwapchains (d.present queue wait o index).2 :=
  Only.tally.trans (.push rfl)

/-- What a call answers is known of its step. -/
theorem Run.answers_setUp {α : Type} {Q : α → Prop} {logged action : String}
    {f : Driver → Except ResultCode α × Driver} (h : ∀ d a d', f d = (.ok a, d') → Q a) :
    Answers (setUp logged action f) Q :=
  .of_meets <| meets_setUp (S := fun _ ↦ True) (fun _ _ _ _ hd ↦ h _ _ _ hd)
    (fun _ _ _ _ _ ↦ trivial) fun _ _ _ ↦ trivial

end RenderTargets.Vulkan
