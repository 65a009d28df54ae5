import RenderTargets.Vulkan.Call
/-!
# Lives of objects in a trace

A trace of calls, the latest first, tells of every object when it was made and when it ended. What
is said here is read off a trace alone, without the device that made the calls.

## Pools

Command buffers and descriptor sets come from a pool, their **home**, and end with it at the latest:
when the pool is destroyed or, for descriptor sets, reset. A `Holding` is an object with its home.

## Fair traces

In a `Fair` trace every call fits what went before it: an object that is made is new, every object
that is passed is alive, and nothing is alive any more that has to be gone before the object that
ends. It follows that no object ends twice (`Fair.life`).

Of the command pools only the one of the frames may be destroyed with command buffers in it.

## How objects were made

A trace tells of an object how it was made: the shape of a pass, the images of a framebuffer, the
image behind a view, what a pipeline is for. A `Making` is a kind of calls that make objects, and
`Making.of?` looks up in a trace how an object was made.

As an object is made once, it does not matter when a trace is asked, and in a `Fair` trace the
answer is the same as a call (`Fair.of?_eq_some_iff`).
-/

namespace RenderTargets.Vulkan

/-- An object and the pool that it comes from, if it comes from one. -/
structure Holding where
  /-- The object. -/
  object : AnyObject
  /-- Its pool. -/
  home : Option AnyObject
  deriving DecidableEq, Repr

/-- The object is not null and one that a device has to end: GPUs, queues and the images of a
swapchain are not. -/
def AnyObject.IsOwned (o : AnyObject) : Prop :=
  o.number ≠ 0 ∧ o.kind ≠ .gpu ∧ o.kind ≠ .queue ∧ o.kind ≠ .screenImage

/-- The objects that a recorded command names. -/
def Recorded.uses : Recorded → List AnyObject
  | beginPass info => [info.pass.any, info.framebuffer.any]
  | bindPipeline p => [p.any]
  | bindVertices b => [b.any]
  | bindIndices b _ => [b.any]
  | bindSet layout set => [layout.any, set.any]
  | pushConstants layout _ _ => [layout.any]
  | prepareForSampling image => [image.any]
  | _ => []

namespace Call

/-- What a call made. -/
def made? : Call → Option Holding
  | createConnection o _ => some ⟨o.any, none⟩
  | createSurface _ o => some ⟨o.any, none⟩
  | createMessenger o _ => some ⟨o.any, none⟩
  | createDevice o _ _ => some ⟨o.any, none⟩
  | createCommandPool o _ _ => some ⟨o.any, none⟩
  | allocateCommandBuffer o pool => some ⟨o.any, some pool.any⟩
  | createFence o => some ⟨o.any, none⟩
  | createSemaphore o => some ⟨o.any, none⟩
  | createDescriptorPool o _ _ => some ⟨o.any, none⟩
  | allocateDescriptorSet o pool _ => some ⟨o.any, some pool.any⟩
  | createSampler o => some ⟨o.any, none⟩
  | createImage o _ => some ⟨o.any, none⟩
  | allocateMemory o => some ⟨o.any, none⟩
  | createView o _ => some ⟨o.any, none⟩
  | createShaderModule o _ => some ⟨o.any, none⟩
  | createSetLayout o _ => some ⟨o.any, none⟩
  | createPipelineLayout o _ _ => some ⟨o.any, none⟩
  | createBuffer o _ _ => some ⟨o.any, none⟩
  | createRenderPass o _ => some ⟨o.any, none⟩
  | createFramebuffer o _ => some ⟨o.any, none⟩
  | createPipeline o _ => some ⟨o.any, none⟩
  | createSwapchain o _ => some ⟨o.any, none⟩
  | _ => none

/-- What a call ended. -/
def ended? : Call → Option AnyObject
  | destroy o => some o
  | freeMemory o => some o.any
  | freeCommandBuffer _ o => some o.any
  | _ => none

/-- The pool whose objects a call ended, if it is one. -/
def emptied? : Call → Option AnyObject
  | destroy o => some o
  | resetDescriptorPool o => some o.any
  | _ => none

/-- The objects that are passed to a call. -/
def uses : Call → List AnyObject
  | allocateCommandBuffer _ pool => [pool.any]
  | allocateDescriptorSet _ pool layout => [pool.any, layout.any]
  | bindImageMemory image => [image.any]
  | createView _ info => [info.image]
  | createPipelineLayout _ set _ => [set.any]
  | bindBufferMemory buffer => [buffer.any]
  | createFramebuffer _ info => info.pass.any :: info.views.map Object.any
  | createPipeline _ info => info.layout.any :: info.pass.any :: info.stages.map (·.code.any)
  | createSwapchain _ info => [info.surface.any, info.old.any]
  | destroy o => [o]
  | freeMemory o => [o.any]
  | freeCommandBuffer pool o => [pool.any, o.any]
  | waitForFence fence => [fence.any]
  | resetFence fence => [fence.any]
  | resetDescriptorPool pool => [pool.any]
  | resetCommandBuffer buffer => [buffer.any]
  | beginCommandBuffer buffer => [buffer.any]
  | endCommandBuffer buffer => [buffer.any]
  | submit _ work fence =>
    fence.any :: work.commands.any :: (work.wait.map (·.1.any) ++ work.signal.map Object.any)
  | waitDevice device => [device.any]
  | acquire swapchain signal _ _ => [swapchain.any, signal.any]
  | present _ wait swapchain _ _ => [wait.any, swapchain.any]
  | updateSets writes => writes.flatMap fun w ↦ [w.set.any, w.sampler.any, w.view.any]
  | record buffer command => buffer.any :: command.uses
  | _ => []

/-- A call ends an object by itself or with its home. -/
def Ends (c : Call) (x : Holding) : Prop :=
  c.ended? = some x.object ∨ ∃ pool, x.home = some pool ∧ c.emptied? = some pool

end Call

/-- An object was made. -/
def Named (trace : List Call) (o : AnyObject) : Prop :=
  ∃ c ∈ trace, ∃ x, c.made? = some x ∧ x.object = o

/-- An object was made and did not end. -/
def Alive : List Call → Holding → Prop
  | [], _ => False
  | c :: past, x => c.made? = some x ∨ Alive past x ∧ ¬c.Ends x

/-- An object was alive when its home ended it. -/
def WentWithHome : List Call → Holding → Prop
  | [], _ => False
  | c :: past, x =>
    WentWithHome past x ∨
      Alive past x ∧ c.ended? ≠ some x.object ∧ ∃ pool, x.home = some pool ∧ c.emptied? = some pool

/-- An object has to be gone before another one ends. -/
def Holding.Needs (frames : AnyObject) (x : Holding) (o : AnyObject) : Prop :=
  match o.kind with
  | .connection => x.object.kind ≠ .connection
  | .device =>
    x.object.kind ≠ .connection ∧ x.object.kind ≠ .surface ∧ x.object.kind ≠ .messenger ∧
      x.object.kind ≠ .device
  | .surface => x.object.kind = .swapchain
  | .commandPool => x.home = some o ∧ o ≠ frames
  | _ => False

/-- A call fits the trace before it. -/
structure Call.Fits (frames : AnyObject) (past : List Call) (c : Call) : Prop where
  /-- What is made is new and not null. -/
  made : ∀ x, c.made? = some x → ¬Named past x.object ∧ x.object.number ≠ 0
  /-- What comes from a pool comes from one that is alive. -/
  home : ∀ x pool, c.made? = some x → x.home = some pool → ∃ y, Alive past y ∧ y.object = pool
  /-- What is passed is alive. -/
  uses : ∀ o ∈ c.uses, o.IsOwned → ∃ x, Alive past x ∧ x.object = o
  /-- What has to be gone is gone. -/
  ended : ∀ o x, c.ended? = some o → Alive past x → ¬x.Needs frames o

/-- Every call fits what went before it. -/
def Fair (frames : AnyObject) : List Call → Prop
  | [] => True
  | c :: past => Fair frames past ∧ c.Fits frames past

/-! ### What calls are like -/

namespace Call

variable {c : Call} {x : Holding} {o : AnyObject}

theorem ended?_of_made? (h : c.made? = some x) : c.ended? = none ∧ c.emptied? = none := by
  cases c <;> cases h <;> exact ⟨rfl, rfl⟩

theorem not_ends_of_made? (h : c.made? = some x) (y : Holding) : ¬c.Ends y := by
  rintro (he | ⟨pool, -, he⟩)
  · rw [(ended?_of_made? h).1] at he
    cases he
  · rw [(ended?_of_made? h).2] at he
    cases he

/-- Pools end with all that comes from them. -/
theorem emptied?_of_ended? (h : c.ended? = some o)
    (ho : o.kind = .commandPool ∨ o.kind = .descriptorPool) : c.emptied? = some o := by
  cases c <;> simp only [ended?, reduceCtorEq, Option.some.injEq] at h <;> subst h
  · rfl
  · rcases ho with ho | ho <;> cases ho
  · rcases ho with ho | ho <;> cases ho

/-- A command pool ends nothing before it ends itself. -/
theorem ended?_of_emptied? (h : c.emptied? = some o) (ho : o.kind = .commandPool) :
    c.ended? = some o := by
  cases c <;> simp only [emptied?, reduceCtorEq, Option.some.injEq] at h <;> subst h
  · rfl
  · cases ho

theorem mem_uses_of_ended? (h : c.ended? = some o) : o ∈ c.uses := by
  cases c <;> simp_all [ended?, uses]

/-- Objects that are made have to be ended. -/
theorem isOwned_of_made? (h : c.made? = some x) (hx : x.object.number ≠ 0) : x.object.IsOwned := by
  refine ⟨hx, ?_⟩
  cases c <;> simp only [made?, Option.some.injEq, reduceCtorEq] at h <;> subst h <;>
    exact ⟨nofun, nofun, nofun⟩

/-- Only command buffers and descriptor sets have homes, of the kind that suits them. -/
theorem home_of_made? (h : c.made? = some x) {pool : AnyObject} (hp : x.home = some pool) :
    x.object.kind = .commandBuffer ∧ pool.kind = .commandPool ∨
      x.object.kind = .descriptorSet ∧ pool.kind = .descriptorPool := by
  cases c <;> simp only [made?, Option.some.injEq, reduceCtorEq] at h <;> subst h <;>
    cases hp
  · exact .inl ⟨rfl, rfl⟩
  · exact .inr ⟨rfl, rfl⟩

/-- A descriptor set always comes from a pool. -/
theorem pool_of_set (h : c.made? = some x) (hx : x.object.kind = .descriptorSet) :
    ∃ pool, x.home = some pool ∧ pool.kind = .descriptorPool := by
  cases c <;> simp only [made?, Option.some.injEq, reduceCtorEq] at h <;> subst h <;>
    first | exact ⟨_, rfl, rfl⟩ | cases hx

end Call

/-! ### Traces -/

variable {frames : AnyObject} {trace past : List Call} {c : Call} {x y : Holding} {o : AnyObject}

theorem Alive.exists_made (h : Alive trace x) : ∃ c ∈ trace, c.made? = some x := by
  induction trace with
  | nil => exact h.elim
  | cons c past ih =>
    rcases h with h | ⟨h, -⟩
    · exact ⟨c, List.mem_cons_self, h⟩
    · obtain ⟨d, hd, hm⟩ := ih h
      exact ⟨d, List.mem_cons_of_mem c hd, hm⟩

theorem Alive.named (h : Alive trace x) : Named trace x.object := by
  obtain ⟨c, hc, hm⟩ := h.exists_made
  exact ⟨c, hc, x, hm, rfl⟩

theorem WentWithHome.named (h : WentWithHome trace x) : Named trace x.object := by
  induction trace with
  | nil => exact h.elim
  | cons c past ih =>
    have hn : Named past x.object := h.elim ih fun h ↦ h.1.named
    obtain ⟨d, hd, hm⟩ := hn
    exact ⟨d, List.mem_cons_of_mem c hd, hm⟩

theorem WentWithHome.exists_home (h : WentWithHome trace x) : ∃ pool, x.home = some pool := by
  induction trace with
  | nil => exact h.elim
  | cons c past ih =>
    rcases h with h | ⟨-, -, pool, hpool, -⟩
    · exact ih h
    · exact ⟨pool, hpool⟩

theorem named_cons : Named (c :: past) o ↔
    (∃ x, c.made? = some x ∧ x.object = o) ∨ Named past o := by
  simp [Named]

theorem Fair.number_ne_zero (h : Fair frames trace) (hn : Named trace o) : o.number ≠ 0 := by
  induction trace with
  | nil => obtain ⟨c, hc, -⟩ := hn; cases hc
  | cons c past ih =>
    rcases named_cons.1 hn with ⟨x, hm, rfl⟩ | hn
    · exact (h.2.made x hm).2
    · exact ih h.1 hn

/-- A pool outlives what comes from it. -/
theorem Fair.home_alive (h : Fair frames trace) (hx : Alive trace x) {pool : AnyObject}
    (hp : x.home = some pool) : ∃ y, Alive trace y ∧ y.object = pool := by
  induction trace with
  | nil => exact hx.elim
  | cons c past ih =>
    rcases hx with hm | ⟨hx, he⟩
    · obtain ⟨y, hy, hyp⟩ := h.2.home x pool hm hp
      exact ⟨y, .inr ⟨hy, Call.not_ends_of_made? hm y⟩, hyp⟩
    · obtain ⟨y, hy, rfl⟩ := ih h.1 hx
      obtain ⟨d, -, hd⟩ := hx.exists_made
      have hkind : y.object.kind = .commandPool ∨ y.object.kind = .descriptorPool :=
        (Call.home_of_made? hd hp).imp And.right And.right
      refine ⟨y, .inr ⟨hy, ?_⟩, rfl⟩
      rintro (hend | ⟨pool, hpool, -⟩)
      · exact he (.inr ⟨y.object, hp, Call.emptied?_of_ended? hend hkind⟩)
      · -- A pool does not come from a pool.
        obtain ⟨e, -, hm⟩ := hy.exists_made
        rcases Call.home_of_made? hm hpool with ⟨hk, -⟩ | ⟨hk, -⟩ <;> rw [hk] at hkind <;>
          rcases hkind with hkind | hkind <;> cases hkind

/-- An object is made by one call only. -/
theorem Fair.call_unique (h : Fair frames trace) {c d : Call} (hc : c ∈ trace) (hd : d ∈ trace)
    (hx : c.made? = some x) (hy : d.made? = some y) (hxy : x.object = y.object) : c = d := by
  induction trace with
  | nil => cases hc
  | cons e past ih =>
    rcases List.mem_cons.1 hc with rfl | hcp
    · rcases List.mem_cons.1 hd with rfl | hdp
      · rfl
      · exact ((h.2.made x hx).1 ⟨d, hdp, y, hy, hxy.symm⟩).elim
    · rcases List.mem_cons.1 hd with rfl | hdp
      · exact ((h.2.made y hy).1 ⟨c, hcp, x, hx, hxy⟩).elim
      · exact ih h.1 hcp hdp

/-- So it has one home. -/
theorem Fair.made_unique (h : Fair frames trace) {c d : Call} (hc : c ∈ trace) (hd : d ∈ trace)
    (hx : c.made? = some x) (hy : d.made? = some y) (hxy : x.object = y.object) : x = y := by
  obtain rfl := h.call_unique hc hd hx hy hxy
  exact Option.some.inj (hx.symm.trans hy)

/-- Nothing ends that was not made. -/
theorem Fair.not_mem_ended (h : Fair frames trace) (ho : o.IsOwned) (hn : ¬Named trace o) :
    o ∉ trace.filterMap Call.ended? := by
  induction trace with
  | nil => exact List.not_mem_nil
  | cons c past ih =>
    have hpast : ¬Named past o := fun hp ↦ hn (named_cons.2 (.inr hp))
    intro hmem
    obtain ⟨d, hd, he⟩ := List.mem_filterMap.1 hmem
    rcases List.mem_cons.1 hd with rfl | hd
    · obtain ⟨x, hx, rfl⟩ := h.2.uses o (Call.mem_uses_of_ended? he) ho
      exact hpast hx.named
    · exact ih h.1 hpast (List.mem_filterMap.2 ⟨d, hd, he⟩)

theorem Fair.of_append {later : List Call} (h : Fair frames (later ++ past)) :
    Fair frames past := by
  induction later with
  | nil => exact h
  | cons c later ih => exact ih h.1

/-- What is gone stays gone. -/
theorem Fair.not_alive_append {later : List Call} (h : Fair frames (later ++ past))
    (hn : Named past x.object) (hx : ¬Alive past x) :
    Named (later ++ past) x.object ∧ ¬Alive (later ++ past) x := by
  induction later with
  | nil => exact ⟨hn, hx⟩
  | cons c later ih =>
    obtain ⟨hn, hx⟩ := ih h.1
    refine ⟨named_cons.2 (.inr hn), ?_⟩
    rintro (hm | ⟨ha, -⟩)
    · exact (h.2.made x hm).1 hn
    · exact hx ha

/-- Nothing is passed to a call after it ended. -/
theorem Fair.not_mem_uses {later : List Call} (h : Fair frames (later ++ c :: past))
    (hx : Alive past x) (he : c.Ends x) {d : Call} (hd : d ∈ later) : x.object ∉ d.uses := by
  intro hu
  obtain ⟨after, between, rfl⟩ := List.append_of_mem hd
  rw [List.append_assoc] at h
  have hfits : Fair frames (d :: (between ++ c :: past)) := h.of_append
  have hgone : ¬Alive (c :: past) x := by
    rintro (hm | ⟨-, hno⟩)
    · exact Call.not_ends_of_made? hm x he
    · exact hno he
  obtain ⟨hn, hdead⟩ := hfits.1.not_alive_append (named_cons.2 (.inr hx.named)) hgone
  obtain ⟨e, hem, hex⟩ := hx.exists_made
  have hem : e ∈ between ++ c :: past := List.mem_append_right _ (List.mem_cons_of_mem _ hem)
  -- Whoever has the number is the object itself.
  obtain ⟨y, hy, hyx⟩ := hfits.2.uses _ hu
    (Call.isOwned_of_made? hex (hfits.1.number_ne_zero hn))
  obtain ⟨f, hfm, hfy⟩ := hy.exists_made
  exact hdead (hfits.1.made_unique hfm hem hfy hex hyx ▸ hy)

/-- Of the command pools only that of the frames ends what comes from it. -/
theorem Fair.home_of_went (h : Fair frames trace) (hx : WentWithHome trace x) {pool : AnyObject}
    (hp : x.home = some pool) (hk : pool.kind = .commandPool) : pool = frames := by
  induction trace with
  | nil => exact hx.elim
  | cons c past ih =>
    rcases hx with hx | ⟨hx, -, home, hhome, he⟩
    · exact ih h.1 hx
    · obtain rfl := Option.some.inj (hp.symm.trans hhome)
      have hneeds := h.2.ended pool x (Call.ended?_of_emptied? he hk) hx
      rw [Holding.Needs, hk] at hneeds
      exact Decidable.byContradiction fun hne ↦ hneeds ⟨hp, hne⟩

/-- What was made is alive, or ended once by itself, or went with its home. -/
inductive Life (trace : List Call) (x : Holding) : Prop where
  /-- It did not end. -/
  | alive (alive : Alive trace x) (gone : ¬WentWithHome trace x)
      (count : (trace.filterMap Call.ended?).count x.object = 0)
  /-- A call ended it. -/
  | ended (dead : ¬Alive trace x) (gone : ¬WentWithHome trace x)
      (count : (trace.filterMap Call.ended?).count x.object = 1)
  /-- It went with its home. -/
  | went (dead : ¬Alive trace x) (gone : WentWithHome trace x)
      (count : (trace.filterMap Call.ended?).count x.object = 0)

theorem Fair.life (h : Fair frames trace) (hm : ∃ c ∈ trace, c.made? = some x) :
    Life trace x := by
  induction trace with
  | nil => obtain ⟨c, hc, -⟩ := hm; cases hc
  | cons c past ih =>
    have hcount : ((c :: past).filterMap Call.ended?).count x.object =
        (past.filterMap Call.ended?).count x.object +
          if c.ended? = some x.object then 1 else 0 := by
      cases he : c.ended? with
      | none => simp [he]
      | some o => simp [he, List.count_cons]
    by_cases hc : c.made? = some x
    · -- Nothing before the making is about the object.
      have hnew := h.2.made x hc
      have hend := Call.not_ends_of_made? hc x
      have hnone : (past.filterMap Call.ended?).count x.object = 0 :=
        List.count_eq_zero.2 (h.1.not_mem_ended (Call.isOwned_of_made? hc hnew.2) hnew.1)
      refine .alive (.inl hc) ?_ ?_
      · rintro (hw | ⟨-, -, hp⟩)
        · exact hnew.1 hw.named
        · exact hend (.inr hp)
      · rw [hcount, hnone, if_neg fun he ↦ hend (.inl he)]
    · obtain ⟨d, hd, hdx⟩ := hm
      have hd : d ∈ past := (List.mem_cons.1 hd).resolve_left fun he ↦ hc (he ▸ hdx)
      have hlife := ih h.1 ⟨d, hd, hdx⟩
      have halive : Alive (c :: past) x ↔ Alive past x ∧ ¬c.Ends x :=
        ⟨fun ha ↦ ha.resolve_left hc, .inr⟩
      by_cases he : c.ended? = some x.object
      · -- Only what is alive can be ended.
        have hx : Alive past x := by
          have hno := h.1.number_ne_zero ⟨d, hd, x, hdx, rfl⟩
          obtain ⟨y, hy, hyx⟩ := h.2.uses _ (Call.mem_uses_of_ended? he)
            (Call.isOwned_of_made? hdx hno)
          obtain ⟨e, hem, hey⟩ := hy.exists_made
          exact h.1.made_unique hem hd hey hdx hyx ▸ hy
        rcases hlife with ⟨-, hgone, hzero⟩ | ⟨hdead, -, -⟩ | ⟨hdead, -, -⟩
        · refine .ended (fun ha ↦ (halive.1 ha).2 (.inl he)) ?_ ?_
          · rintro (hw | ⟨-, hne, -⟩)
            · exact hgone hw
            · exact hne he
          · rw [hcount, hzero, if_pos he]
        · exact (hdead hx).elim
        · exact (hdead hx).elim
      · have hsame : ((c :: past).filterMap Call.ended?).count x.object =
            (past.filterMap Call.ended?).count x.object := by
          rw [hcount, if_neg he, Nat.add_zero]
        rcases hlife with ⟨hx, hgone, hzero⟩ | ⟨hdead, hgone, hone⟩ | ⟨hdead, hgone, hzero⟩
        · by_cases hp : ∃ pool, x.home = some pool ∧ c.emptied? = some pool
          · exact .went (fun ha ↦ (halive.1 ha).2 (.inr hp)) (.inr ⟨hx, he, hp⟩)
              (hsame.trans hzero)
          · refine .alive (halive.2 ⟨hx, fun hends ↦ hends.elim he hp⟩) ?_ (hsame.trans hzero)
            rintro (hw | ⟨-, -, hq⟩)
            · exact hgone hw
            · exact hp hq
        · refine .ended (fun ha ↦ hdead (halive.1 ha).1) ?_ (hsame.trans hone)
          rintro (hw | ⟨ha, -⟩)
          · exact hgone hw
          · exact hdead ha
        · exact .went (fun ha ↦ hdead (halive.1 ha).1) (.inl hgone) (hsame.trans hzero)

end RenderTargets.Vulkan

/-! ### How objects were made -/

namespace RenderTargets.Vulkan

/-- A kind of calls that make objects from something. -/
structure Making (kind : ObjectKind) (α : Type) where
  /-- The call. -/
  call : Object kind → α → Call
  /-- What a call of the kind makes, and from what. -/
  parts? : Call → Option (Object kind × α)
  /-- Only calls of the kind have such parts. -/
  parts?_eq_some_iff {c o a} : parts? c = some (o, a) ↔ c = call o a
  /-- The object is made. -/
  made? (o a) : (call o a).made? = some ⟨o.any, none⟩

namespace Making

variable {kind : ObjectKind} {α : Type} {frames : AnyObject} {calls : List Call}
  {m : Making kind α} {o : Object kind} {a : α}

/-- Passes have a shape. -/
def renderPass : Making .renderPass AttachmentSet where
  call := .createRenderPass
  parts? | .createRenderPass o a => some (o, a)
         | _ => none
  parts?_eq_some_iff {c _ _} := by cases c <;> simp
  made? _ _ := rfl

/-- Framebuffers have images. -/
def framebuffer : Making .framebuffer FramebufferInfo where
  call := .createFramebuffer
  parts? | .createFramebuffer o a => some (o, a)
         | _ => none
  parts?_eq_some_iff {c _ _} := by cases c <;> simp
  made? _ _ := rfl

/-- Views show an image. -/
def view : Making .view ViewInfo where
  call := .createView
  parts? | .createView o a => some (o, a)
         | _ => none
  parts?_eq_some_iff {c _ _} := by cases c <;> simp
  made? _ _ := rfl

/-- Pipelines are for passes of a shape. -/
def pipeline : Making .pipeline PipelineInfo where
  call := .createPipeline
  parts? | .createPipeline o a => some (o, a)
         | _ => none
  parts?_eq_some_iff {c _ _} := by cases c <;> simp
  made? _ _ := rfl

/-- What pipelines take beside vertices is a shape of sets, and uniforms. -/
def pipelineLayout : Making .pipelineLayout (Object .setLayout × Option PushRange) where
  call o a := .createPipelineLayout o a.1 a.2
  parts? | .createPipelineLayout o set push => some (o, set, push)
         | _ => none
  parts?_eq_some_iff {c _ _} := by cases c <;> simp [Prod.ext_iff]
  made? _ _ := rfl

/-- Shapes of sets are lists of bindings. -/
def setLayout : Making .setLayout (List UInt32) where
  call := .createSetLayout
  parts? | .createSetLayout o a => some (o, a)
         | _ => none
  parts?_eq_some_iff {c _ _} := by cases c <;> simp
  made? _ _ := rfl

/-- What the object was made from. -/
def of? (m : Making kind α) (o : Object kind) (calls : List Call) : Option α :=
  calls.findSome? fun c ↦ (m.parts? c).bind fun (o', a) ↦ if o' = o then some a else none

theorem parts?_eq_some_of {c : Call}
    (h : ((m.parts? c).bind fun (o', a) ↦ if o' = o then some a else none) = some a) :
    c = m.call o a := by
  obtain ⟨⟨o', a'⟩, hparts, ho⟩ := Option.bind_eq_some_iff.1 h
  dsimp only at ho
  split at ho
  · next he =>
    cases ho
    exact m.parts?_eq_some_iff.1 (he ▸ hparts)
  · cases ho

theorem mem_of_of?_eq_some (h : m.of? o calls = some a) : m.call o a ∈ calls := by
  obtain ⟨c, hc, ha⟩ := List.exists_of_findSome?_eq_some h
  exact parts?_eq_some_of ha ▸ hc

end Making

/-- **An object was made from what the one call says that made it.** -/
theorem Fair.of?_eq_some_iff {kind : ObjectKind} {α : Type} {frames : AnyObject}
    {calls : List Call} (h : Fair frames calls) {m : Making kind α} {o : Object kind} {a : α} :
    m.of? o calls = some a ↔ m.call o a ∈ calls := by
  refine ⟨Making.mem_of_of?_eq_some, fun hmem ↦ ?_⟩
  have hsome : (m.of? o calls).isSome := by
    rw [Making.of?, List.findSome?_isSome_iff]
    refine ⟨m.call o a, hmem, ?_⟩
    rw [m.parts?_eq_some_iff.2 rfl]
    simp
  obtain ⟨b, hb⟩ := Option.isSome_iff_exists.1 hsome
  have hcall : m.call o b = m.call o a := h.call_unique (Making.mem_of_of?_eq_some hb) hmem
    (m.made? o b) (m.made? o a) rfl
  have hparts := m.parts?_eq_some_iff.2 hcall.symm
  rw [m.parts?_eq_some_iff.2 rfl] at hparts
  rw [hb]
  cases hparts
  rfl

end RenderTargets.Vulkan
