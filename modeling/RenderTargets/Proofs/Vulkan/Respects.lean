import RenderTargets.Proofs.Vulkan.Held
/-!
# Steps that respect a relation on drivers

A step **respects** a relation if it leaves the driver related to what it was before, however the
step ends. What is made of such steps respects the relation too, so that of a part of the device
only its calls have to be looked at.

`Driver.Only p` is the relation for which this is used: from one driver to the other only calls of
the class `p` were made. Of the classes the most useful one is `Call.touches`, which names the kinds
of object that may be made and ended.
-/

namespace RenderTargets.Vulkan

open StepWith

/-! ### Classes of calls -/

namespace Call

variable {made made' ended ended' : List ObjectKind} {c : Call}

/-- The call makes and ends objects of the given kinds at most, asks for a swapchain only if that is
one of them, and has nothing to do with images of the screen, with signals, or with fences that are
waited for. -/
def touches (made ended : List ObjectKind) : Call → Bool
  | failed name _ _ => name != .acquire && (name != .createSwapchain || made.contains .swapchain)
  | waitForFence _ | acquire .. | present .. => false
  | submit _ work fence => fence.isNull && work.wait.isEmpty && work.signal.isEmpty
  | c => c.made?.all (fun x ↦ made.contains x.object.kind) &&
      c.ended?.all fun o ↦ ended.contains o.kind

theorem touches_mono (hm : made ⊆ made') (he : ended ⊆ ended')
    (h : c.touches made ended = true) : c.touches made' ended' = true := by
  have hmade : ∀ {k}, made.contains k = true → made'.contains k = true := fun hk ↦
    List.contains_iff_mem.2 (hm (List.contains_iff_mem.1 hk))
  have hended : ∀ {k}, ended.contains k = true → ended'.contains k = true := fun hk ↦
    List.contains_iff_mem.2 (he (List.contains_iff_mem.1 hk))
  cases c with
  | failed name =>
    simp only [touches, Bool.and_eq_true, Bool.or_eq_true] at h ⊢
    exact ⟨h.1, h.2.imp_right hmade⟩
  | _ =>
    simp_all only [touches, made?, ended?, Option.all_some, Option.all_none, Bool.and_eq_true,
      Bool.true_and, Bool.and_true, reduceCtorEq]

/-- What such a call makes is of one of the kinds. -/
theorem mem_of_made? (h : c.touches made ended = true) {x : Holding} (hx : c.made? = some x) :
    x.object.kind ∈ made := by
  cases c <;> cases hx <;>
    simpa only [touches, made?, ended?, Option.all_some, Option.all_none, Bool.and_true,
      List.contains_iff_mem] using h

/-- What such a call ends is of one of the kinds. -/
theorem mem_of_ended? (h : c.touches made ended = true) {o : AnyObject} (ho : c.ended? = some o) :
    o.kind ∈ ended := by
  cases c <;> cases ho <;>
    simpa only [touches, made?, ended?, Option.all_some, Option.all_none, Bool.true_and,
      List.contains_iff_mem] using h

end Call

/-! ### Drivers -/

namespace Driver

variable {p q : Call → Bool} {d d' d'' : Driver} {name : CallName} {kind : ObjectKind}

/-- From one state of the driver to another only calls of a class were made. -/
structure Only (p : Call → Bool) (d d' : Driver) : Prop where
  /-- The calls. -/
  calls : ∃ l, d'.calls = l ++ d.calls ∧ ∀ c ∈ l, p c = true
  /-- The same surface. -/
  surface : d'.surface = d.surface

namespace Only

theorem of_eq (hc : d'.calls = d.calls) (hs : d'.surface = d.surface) : d.Only p d' :=
  ⟨⟨[], hc, List.forall_mem_nil _⟩, hs⟩

theorem refl (d : Driver) : d.Only p d := .of_eq rfl rfl

theorem of_continues (h : d.Continues d') : d.Only p d' := .of_eq h.calls h.surface

theorem trans (h : d.Only p d') (h' : d'.Only p d'') : d.Only p d'' := by
  obtain ⟨l, hl, hp⟩ := h.calls
  obtain ⟨l', hl', hp'⟩ := h'.calls
  exact ⟨⟨l' ++ l, by rw [hl', hl, List.append_assoc], List.forall_mem_append.2 ⟨hp', hp⟩⟩,
    h'.surface.trans h.surface⟩

theorem mono (hpq : ∀ c, p c = true → q c = true) (h : d.Only p d') : d.Only q d' := by
  obtain ⟨l, hl, hp⟩ := h.calls
  exact ⟨⟨l, hl, fun c hc ↦ hpq c (hp c hc)⟩, h.surface⟩

theorem all (h : d.Only p d') (hd : ∀ c ∈ d.calls, p c = true) : ∀ c ∈ d'.calls, p c = true := by
  obtain ⟨l, hl, hp⟩ := h.calls
  rw [hl]
  exact List.forall_mem_append.2 ⟨hp, hd⟩

theorem push {c : Call} (hc : p c = true) : d.Only p (d.push c) :=
  ⟨⟨[c], rfl, List.forall_mem_singleton.2 hc⟩, rfl⟩

theorem tally : d.Only p (d.tally name).2 := .of_continues continues_tally

theorem destroy {o : AnyObject} (ho : p (.destroy o) = true) : d.Only p (d.destroy o) := by
  rw [Driver.destroy]
  split
  · exact .refl d
  · exact (of_continues continues_forget).trans (.push ho)

section Calls

variable (hfail : ∀ {wanted : Call} (code : ResultCode), p (.failed name wanted code) = true)
include hfail

theorem perform {c : Call} (hc : p c = true) : d.Only p (perform name c d).2 := by
  rcases hd : Driver.perform name c d with ⟨code | _, d'⟩
  · rw [perform_error hd]
    exact tally.trans (.push (hfail code))
  · rw [perform_ok hd]
    exact tally.trans (.push hc)

theorem create {c : Object kind → Call} (hc : ∀ o, p (c o) = true) :
    d.Only p (create name c d).2 := by
  rcases hd : Driver.create name c d with ⟨code | o, d'⟩
  · rw [create_error hd]
    exact tally.trans (.push (hfail code))
  · rw [(create_ok hd).2]
    exact (tally.trans (.of_continues continues_fresh)).trans (.push (hc o))

end Calls

theorem createMessenger {severity : Flags}
    (hfail : ∀ {wanted : Call} (code : ResultCode), p (.failed .createMessenger wanted code) = true)
    (hc : ∀ o, p (.createMessenger o severity) = true) :
    d.Only p (d.createMessenger severity).2 := by
  have h : d.Only p (d.create .createMessenger (.createMessenger · severity)).2 :=
    .create hfail hc
  rw [Driver.createMessenger]
  rcases hd : d.create .createMessenger (.createMessenger · severity) with ⟨code | o, d'⟩ <;>
    rw [hd] at h
  · exact h
  · exact h.trans (.of_eq rfl rfl)

theorem createSwapchain {info : SwapchainInfo}
    (hfail : ∀ {wanted : Call} (code : ResultCode), p (.failed .createSwapchain wanted code) = true)
    (hc : ∀ o, p (.createSwapchain o info) = true) : d.Only p (createSwapchain info d).2 := by
  have h : d.Only p (d.create .createSwapchain (.createSwapchain · info)).2 := .create hfail hc
  rw [Driver.createSwapchain]
  rcases hd : d.create .createSwapchain (.createSwapchain · info) with ⟨code | o, d'⟩ <;>
    rw [hd] at h
  · exact h
  · exact (h.trans (.of_continues continues_freshMany)).trans (.of_eq rfl rfl)

theorem bindBuffer {o : Object .buffer} {size : ℕ}
    (hfail : ∀ {wanted : Call} (code : ResultCode),
      p (.failed .bindBufferMemory wanted code) = true)
    (hc : p (.bindBufferMemory o) = true) : d.Only p (bindBuffer o size d).2 := by
  have h : d.Only p (d.perform .bindBufferMemory (.bindBufferMemory o)).2 := .perform hfail hc
  rw [Driver.bindBuffer]
  rcases hd : d.perform .bindBufferMemory (.bindBufferMemory o) with ⟨code | _, d'⟩ <;>
    rw [hd] at h
  · exact h
  · exact h.trans (.of_eq rfl rfl)

end Only

end Driver

/-! ### Steps -/

/-- However the step ends, the driver is related to what it was before. -/
def Run.Respects {α : Type} (R : Driver → Driver → Prop) (x : Run α) : Prop :=
  ∀ d, Keeps (fun h ↦ R d h.driver) x

/-- However the step ends, and whatever it does to its part, the driver is related to what it was
before. -/
def RunOn.Respects {τ α : Type} (R : Driver → Driver → Prop) (x : RunOn τ α) : Prop :=
  ∀ d, Keeps (fun s ↦ R d s.2.driver) x

variable {R : Driver → Driver → Prop} {α β τ : Type} {name : CallName} {kind : ObjectKind}
  {action logged : String}

namespace Run.Respects

theorem pure {a : α} : Respects R (Pure.pure a : Run α) := fun _ ↦ Meets.pure fun _ h ↦ h

theorem bind {x : Run α} {f : α → Run β} (hx : Respects R x) (hf : ∀ a, Respects R (f a)) :
    Respects R (x >>= f) :=
  fun d ↦ Meets.bind (hx d) fun a ↦ hf a d

theorem get_bind {f : Host → Run α} (hf : ∀ h, Respects R (f h)) :
    Respects R (MonadState.get >>= f) :=
  fun d ↦ .get_bind fun h ↦ hf h d

theorem ite {c : Prop} [Decidable c] {x y : Run α} (hx : Respects R x) (hy : Respects R y) :
    Respects R (if c then x else y) :=
  fun d ↦ .ite (fun _ ↦ hx d) fun _ ↦ hy d

theorem note {severity : Log.Severity} {origin message : String} :
    Respects R (Log.note severity origin message : Run Unit) :=
  fun _ ↦ Meets.note fun _ _ h ↦ h

theorem refuse {origin : String} {cause : BackendCause} :
    Respects R (Log.refuse origin cause : Run α) :=
  fun _ ↦ Meets.refuse fun _ _ h ↦ h

theorem fail {e : EngineError} : Respects R (StepWith.fail e : Run α) :=
  fun _ ↦ Meets.fail fun _ h ↦ h

theorem trap : Respects R (StepWith.trap : Run α) := fun _ ↦ Meets.trap

theorem ofChecked {c : Checked EngineError α} : Respects R (StepWith.ofChecked c : Run α) :=
  fun _ ↦ .ofChecked

theorem orTrap {o : Option α} : Respects R (StepWith.orTrap o : Run α) :=
  fun _ ↦ Meets.orTrap fun _ _ _ h ↦ h

theorem update {f : Host → Host} (hf : ∀ h, (f h).driver = h.driver) :
    Respects R (modify f : Run PUnit) :=
  fun d ↦ Meets.update fun h hh ↦ (congrArg (R d) (hf h)).mpr hh

theorem share : Respects R Run.share := update fun _ ↦ rfl

theorem unshare : Respects R Run.unshare := update fun _ ↦ rfl

theorem giveUp {words : String} {cause : InitializationCause} :
    Respects R (Run.giveUp words cause : Run α) :=
  bind note fun _ ↦ fail

/-- What is done with each of several. -/
theorem each {f : α → Run Unit} (hf : ∀ a, Respects R (f a)) (l : List α) :
    Respects R (Run.each f l) := by
  induction l with
  | nil => exact pure
  | cons a l ih => exact bind (hf a) fun _ ↦ ih

/-- What is undone after a fault respects the relation as well. -/
theorem undoing {x : Run α} {undo : Run Unit} (hs : Silent undo) (hx : Respects R x)
    (hu : Respects R undo) : Respects R (StepWith.undoing x undo) :=
  fun d ↦ hs.undoing (hx d) fun _ ↦ hu d

theorem undoingOnError {x : Run α} {undo : Run Unit} (hx : Respects R x) (hu : Respects R undo) :
    Respects R (StepWith.undoingOnError x undo) :=
  fun d ↦ Meets.undoingOnError (hx d) fun _ ↦ hu d

theorem attempt {x : Run α} (hx : Respects R x) : Respects R (StepWith.attempt x) :=
  fun d ↦ Meets.attempt (R := fun _ (h : Host) ↦ R d h.driver) (hx d)

/-- What is built up, and given up after a fault. -/
theorem construct {t : τ} {build : RunOn τ Unit} {drop : τ → Run Unit}
    (hb : RunOn.Respects R build) (hs : ∀ t, Silent (drop t)) (hd : ∀ t, Respects R (drop t)) :
    Respects R (RunOn.construct t build drop) := by
  intro d h hh
  have hbuild := hb d (t, h) hh
  rw [RunOn.construct]
  rcases hbs : build (t, h) with ⟨a, u, v⟩ | ⟨e, u, v⟩ <;> rw [hbs] at hbuild
  · exact hbuild
  · obtain ⟨a, w, hw, -⟩ := hs u v
    simp only [hw]
    cases e with
    | error e => exact (hd u d).ok hbuild hw
    | trap => trivial

/-! ### Calls -/

variable {p q : Call → Bool}

theorem only_mono (hpq : ∀ c, p c = true → q c = true) {x : Run α}
    (hx : Respects (Driver.Only p) x) : Respects (Driver.Only q) x :=
  fun _ h hh ↦ (hx h.driver h (.refl _)).mono (fun _ _ ho ↦ hh.trans (ho.mono hpq)) fun _ _ ho ↦
    hh.trans (ho.mono hpq)

/-- What every call of a trace is like, the calls of the step are as well. -/
theorem keeps_all {x : Run α} (hx : Respects (Driver.Only p) x) :
    Keeps (fun h ↦ ∀ c ∈ h.driver.calls, p c = true) x :=
  fun h hh ↦ (hx h.driver h (.refl _)).mono (fun _ _ ho ↦ ho.all hh) fun _ _ ho ↦ ho.all hh

/-- With more kinds of object. -/
theorem widen {made made' ended ended' : List ObjectKind} {x : Run α}
    (hx : Respects (Driver.Only (Call.touches made ended)) x) (hm : made ⊆ made')
    (he : ended ⊆ ended') : Respects (Driver.Only (Call.touches made' ended')) x :=
  hx.only_mono fun _ ↦ Call.touches_mono hm he

theorem changeDriver {f : Driver → Driver} (hf : ∀ d : Driver, d.Only p (f d)) :
    Respects (Driver.Only p) (Run.changeDriver f) :=
  fun _ ↦ Run.meets_changeDriver fun _ h ↦ h.trans (hf _)

theorem destroy {o : Object kind} (ho : p (.destroy o.any) = true) :
    Respects (Driver.Only p) (Run.destroy o) :=
  changeDriver fun _ ↦ .destroy ho

theorem push {c : Call} (hc : p c = true) :
    Respects (Driver.Only p) (Run.changeDriver (·.push c)) :=
  changeDriver fun _ ↦ .push hc

theorem driving {f : Driver → α × Driver} (hf : ∀ d : Driver, d.Only p (f d).2) :
    Respects (Driver.Only p) (Run.driving f) :=
  fun _ ↦ Run.meets_driving fun _ h ↦ h.trans (hf _)

theorem tryOut {f : Driver → Except ResultCode α × Driver} (hf : ∀ d : Driver, d.Only p (f d).2) :
    Respects (Driver.Only p) (Run.tryOut f) :=
  bind (driving hf) fun _ ↦ pure

theorem work {f : Driver → Except ResultCode α × Driver} (hf : ∀ d : Driver, d.Only p (f d).2) :
    Respects (Driver.Only p) (Run.work action f) := by
  refine bind (driving hf) fun r ↦ ?_
  cases r with
  | ok => exact pure
  | error => exact refuse

theorem setUp {f : Driver → Except ResultCode α × Driver} (hf : ∀ d : Driver, d.Only p (f d).2) :
    Respects (Driver.Only p) (Run.setUp logged action f) := by
  refine bind (driving hf) fun r ↦ ?_
  cases r with
  | ok => exact pure
  | error => exact giveUp

/-- Asking is not a call that is kept. -/
theorem ask {a : α} : Respects (Driver.Only p) (Run.setUp logged action (Driver.query name a)) :=
  setUp fun _ ↦ .of_continues Driver.continues_query

theorem askAll {l : List α} :
    Respects (Driver.Only p) (Run.setUp logged action (Driver.enumerate name l)) :=
  setUp fun _ ↦ .of_continues Driver.continues_enumerate

section Calls

variable (hfail : ∀ {wanted : Call} (code : ResultCode), p (.failed name wanted code) = true)
include hfail

theorem perform {c : Call} (hc : p c = true) :
    Respects (Driver.Only p) (Run.work action (Driver.perform name c)) :=
  work fun _ ↦ .perform hfail hc

theorem tryPerform {c : Call} (hc : p c = true) :
    Respects (Driver.Only p) (Run.tryOut (Driver.perform name c)) :=
  tryOut fun _ ↦ .perform hfail hc

theorem make {c : Object kind → Call} (hc : ∀ o, p (c o) = true) :
    Respects (Driver.Only p) (Run.work action (Driver.create name c)) :=
  work fun _ ↦ .create hfail hc

theorem setUpMake {c : Object kind → Call} (hc : ∀ o, p (c o) = true) :
    Respects (Driver.Only p) (Run.setUp logged action (Driver.create name c)) :=
  setUp fun _ ↦ .create hfail hc

end Calls

end Run.Respects

namespace RunOn.Respects

variable {x : RunOn τ α}

theorem pure {a : α} : Respects R (Pure.pure a : RunOn τ α) := fun _ ↦ Meets.pure fun _ h ↦ h

theorem bind {f : α → RunOn τ β} (hx : Respects R x) (hf : ∀ a, Respects R (f a)) :
    Respects R (x >>= f) :=
  fun d ↦ Meets.bind (hx d) fun a ↦ hf a d

theorem get_bind {f : τ × Host → RunOn τ α} (hf : ∀ h, Respects R (f h)) :
    Respects R (MonadState.get >>= f) :=
  fun d ↦ .get_bind fun h ↦ hf h d

theorem part_bind {f : τ → RunOn τ α} (hf : ∀ t, Respects R (f t)) :
    Respects R (RunOn.part >>= f) :=
  fun d s hs ↦ hf s.1 d s hs

theorem ite {c : Prop} [Decidable c] {y : RunOn τ α} (hx : Respects R x) (hy : Respects R y) :
    Respects R (if c then x else y) :=
  fun d ↦ .ite (fun _ ↦ hx d) fun _ ↦ hy d

theorem change {f : τ → τ} : Respects R (RunOn.change f) := fun _ ↦ Meets.update fun _ h ↦ h

theorem orTrap {o : Option α} : Respects R (StepWith.orTrap o : RunOn τ α) :=
  fun _ ↦ Meets.orTrap fun _ _ _ h ↦ h

theorem note {severity : Log.Severity} {origin message : String} :
    Respects R (Log.note severity origin message : RunOn τ Unit) :=
  fun _ ↦ Meets.note fun _ _ h ↦ h

theorem refuse {origin : String} {cause : BackendCause} :
    Respects R (Log.refuse origin cause : RunOn τ α) :=
  fun _ ↦ Meets.refuse fun _ _ h ↦ h

theorem fail {e : EngineError} : Respects R (StepWith.fail e : RunOn τ α) :=
  fun _ ↦ Meets.fail fun _ h ↦ h

theorem orFail {o : Option α} {e : EngineError} :
    Respects R (StepWith.orFail e o : RunOn τ α) :=
  fun _ ↦ Meets.orFail (fun _ _ _ h ↦ h) fun _ _ h ↦ h

theorem ofChecked {c : Checked EngineError α} : Respects R (StepWith.ofChecked c : RunOn τ α) :=
  fun _ ↦ .ofChecked

theorem map {f : α → β} (hx : Respects R x) : Respects R (f <$> x) :=
  fun d ↦ Meets.map (hx d)

theorem lift {x : Run α} (hx : Run.Respects R x) : Respects R (liftM x : RunOn τ α) := by
  refine fun d ↦ Meets.within ?_
  rintro ⟨t, h⟩ hs
  exact (hx d).mono (fun _ hu ↦ hu ▸ hs) (fun _ _ hu ↦ hu) fun _ _ hu ↦ hu

theorem undoing {undo : Run Unit} (hs : Run.Silent undo) (hx : Respects R x)
    (hu : Run.Respects R undo) :
    Respects R (StepWith.undoing x (liftM undo : RunOn τ Unit)) :=
  fun d ↦ RunOn.meets_undoing hs (hx d) fun _ _ ↦ (hu d).mono (fun _ h ↦ h) (fun _ _ h ↦ h)
    fun _ _ _ ↦ trivial

end RunOn.Respects

/-! ### Parts -/

/-- However the step ends, what is looked at of the part is what it was before. -/
def RunOn.Leaves {γ : Type} (look : τ → γ) (x : RunOn τ α) : Prop :=
  ∀ c, Keeps (fun s ↦ look s.1 = c) x

namespace RunOn.Leaves

variable {γ δ : Type} {look : τ → γ} {x : RunOn τ α}

theorem comp (hx : Leaves look x) (g : γ → δ) : Leaves (g ∘ look) x := by
  rintro _ s rfl
  exact (hx (look s.1) s rfl).mono (fun _ _ h ↦ congrArg g h) fun _ _ h ↦ congrArg g h

theorem pure {a : α} : Leaves look (Pure.pure a : RunOn τ α) := fun _ ↦ Meets.pure fun _ h ↦ h

theorem bind {f : α → RunOn τ β} (hx : Leaves look x) (hf : ∀ a, Leaves look (f a)) :
    Leaves look (x >>= f) :=
  fun c ↦ Meets.bind (hx c) fun a ↦ hf a c

theorem get_bind {f : τ × Host → RunOn τ α} (hf : ∀ h, Leaves look (f h)) :
    Leaves look (MonadState.get >>= f) :=
  fun c ↦ .get_bind fun h ↦ hf h c

theorem part_bind {f : τ → RunOn τ α} (hf : ∀ t, Leaves look (f t)) :
    Leaves look (RunOn.part >>= f) :=
  fun c s hs ↦ hf s.1 c s hs

theorem ite {c : Prop} [Decidable c] {y : RunOn τ α} (hx : Leaves look x) (hy : Leaves look y) :
    Leaves look (if c then x else y) :=
  fun d ↦ .ite (fun _ ↦ hx d) fun _ ↦ hy d

theorem change {f : τ → τ} (hf : ∀ t, look (f t) = look t) : Leaves look (RunOn.change f) :=
  fun _ ↦ Meets.update fun s h ↦ (hf s.1).trans h

theorem orTrap {o : Option α} : Leaves look (StepWith.orTrap o : RunOn τ α) :=
  fun _ ↦ Meets.orTrap fun _ _ _ h ↦ h

theorem note {severity : Log.Severity} {origin message : String} :
    Leaves look (Log.note severity origin message : RunOn τ Unit) :=
  fun _ ↦ Meets.note fun _ _ h ↦ h

theorem lift {x : Run α} : Leaves look (liftM x : RunOn τ α) :=
  fun c ↦ Meets.snd fun t ↦ Keeps.const (p := look t = c)

theorem undoing {undo : Run Unit} (hs : Run.Silent undo) (hx : Leaves look x) :
    Leaves look (StepWith.undoing x (liftM undo : RunOn τ Unit)) :=
  fun c ↦ RunOn.meets_undoing hs (hx c) fun _ t ↦ Meets.lax (Keeps.const (p := look t = c))

end RunOn.Leaves

end RenderTargets.Vulkan
