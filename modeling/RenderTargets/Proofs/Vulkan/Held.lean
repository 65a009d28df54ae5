import RenderTargets.Proofs.Vulkan.Estate
/-!
# Hosts and estates

What the calls of a device do to the estate that its host is `Held` for, one rule for each way of
calling the driver. Every rule leaves the rest of the estate, `r`, as it was.
-/

namespace RenderTargets.Vulkan

open StepWith

/-! ### The driver -/

namespace Driver

variable {α : Type} {kind : ObjectKind} {d d' d'' : Driver} {name : CallName}

/-- Nothing was called in between, and no number became free. -/
structure Continues (d d' : Driver) : Prop where
  /-- The same calls. -/
  calls : d'.calls = d.calls
  /-- The same surface. -/
  surface : d'.surface = d.surface
  /-- Objects may have been made. -/
  count_le : ∀ k, d.made.count k ≤ d'.made.count k

theorem Continues.trans (h : d.Continues d') (h' : d'.Continues d'') : d.Continues d'' where
  calls := h'.calls.trans h.calls
  surface := h'.surface.trans h.surface
  count_le k := (h.count_le k).trans (h'.count_le k)

theorem continues_tally : d.Continues (d.tally name).2 := ⟨rfl, rfl, fun _ ↦ Nat.le_refl _⟩

theorem continues_fresh : d.Continues (d.fresh kind).2 :=
  ⟨rfl, rfl, fun _ ↦ List.count_le_count_cons⟩

theorem continues_forget {o : AnyObject} : d.Continues (d.forget o) := by
  rw [forget]
  split <;> exact ⟨rfl, rfl, fun _ ↦ Nat.le_refl _⟩

theorem query_snd {a : α} : (query name a d).2 = (d.tally name).2 := by
  rw [query]
  split <;> next h => rw [h]

theorem query_ok {a x : α} (h : query name a d = (.ok x, d')) : x = a := by
  rw [query] at h
  split at h <;> cases h
  rfl

theorem continues_query {a : α} : d.Continues (query name a d).2 := query_snd ▸ continues_tally

theorem continues_enumerateWithin {l : List α} {n : ℕ} :
    d.Continues (enumerateWithin name l n d).2 := by
  induction n generalizing d with
  | zero => exact ⟨rfl, rfl, fun _ ↦ Nat.le_refl _⟩
  | succ n ih =>
    have h₁ : d.Continues (query name () d).2 := continues_query
    rw [enumerateWithin]
    rcases hq : query name () d with ⟨code | _, d₁⟩ <;> rw [hq] at h₁
    · exact h₁
    · have h₂ : d₁.Continues (query name l d₁).2 := continues_query
      simp only
      rcases hr : query name l d₁ with ⟨code | _, d₂⟩ <;> rw [hr] at h₂
      · simp only
        split
        · exact (h₁.trans h₂).trans ih
        · exact h₁.trans h₂
      · exact h₁.trans h₂

theorem continues_enumerate {l : List α} : d.Continues (enumerate name l d).2 :=
  continues_enumerateWithin

theorem continues_freshMany {n : ℕ} : d.Continues (d.freshMany kind n).2 := by
  induction n generalizing d with
  | zero => exact ⟨rfl, rfl, fun _ ↦ Nat.le_refl _⟩
  | succ n ih => exact continues_fresh.trans ih

/-- A call that hands out nothing was made. -/
theorem perform_ok {c : Call} {x : Unit} (h : perform name c d = (.ok x, d')) :
    d' = (d.tally name).2.push c := by
  rw [perform] at h
  split at h
  · cases h
  · next ht => rw [ht, ← (Prod.mk.inj h).2]

theorem perform_error {c : Call} {code : ResultCode} (h : perform name c d = (.error code, d')) :
    d' = (d.tally name).2.push (.failed name c code) := by
  rw [perform] at h
  split at h
  · next ht =>
    cases h
    rw [ht]
  · cases h

/-- A call handed out a new object. -/
theorem create_ok {c : Object kind → Call} {o : Object kind} (h : create name c d = (.ok o, d')) :
    o = ⟨d.made.count kind + 1⟩ ∧ d' = ((d.tally name).2.fresh kind).2.push (c o) := by
  rw [create] at h
  split at h
  · cases h
  · next ht =>
    obtain rfl := congrArg Prod.snd ht
    cases h
    exact ⟨rfl, rfl⟩

theorem create_error {c : Object kind → Call} {code : ResultCode}
    (h : create name c d = (.error code, d')) :
    d' = (d.tally name).2.push (.failed name (c .null) code) := by
  rw [create] at h
  split at h
  · next ht =>
    cases h
    rw [ht]
  · cases h

end Driver

/-! ### Hosts -/

/-- The books of a host. -/
def Held (b : Backdrop) (e : Estate) (h : Host) : Prop :=
  Books b e h.driver.calls h.driver.made h.driver.surface h.owners

/-- What a call is like that makes an object of a home, beside an estate. -/
structure Makes (kind : ObjectKind) (c : Object kind → Call) (home : Option AnyObject)
    (r : Estate) : Prop where
  /-- It makes the object. -/
  made : ∀ o, (c o).made? = some ⟨o.any, home⟩
  /-- It has nothing to do with fences. -/
  ordinary : ∀ o, (c o).IsOrdinary
  /-- What it is passed is there. -/
  uses : ∀ o, ∀ u ∈ (c o).uses, r.Covers u
  /-- The home is there. -/
  home : ∀ pool, home = some pool → ∃ y ∈ r.1, y.object = pool

section Makes

variable {kind : ObjectKind} {c : Object kind → Call} {r : Estate}
  (hm : ∀ o, (c o).made? = some ⟨o.any, none⟩) (hc : ∀ o, (c o).IsOrdinary)
include hm hc

/-- A call that makes an object without a home. -/
theorem Makes.of_uses (hu : ∀ o, ∀ u ∈ (c o).uses, r.Covers u) : Makes kind c none r :=
  ⟨hm, hc, hu, fun _ hpool ↦ by cases hpool⟩

/-- A call that makes an object out of nothing. -/
theorem Makes.of_nil (hu : ∀ o, (c o).uses = []) : Makes kind c none r := by
  refine .of_uses hm hc fun o u hmem ↦ ?_
  rw [hu o] at hmem
  cases hmem

end Makes

namespace Held

variable {b : Backdrop} {e r : Estate} {h : Host} {c : Call} {d : Driver} {kind : ObjectKind}

theorem congr (hh : Held b e h) (hd : h.driver.Continues d) : Held b e { h with driver := d } := by
  have hh : Books b e h.driver.calls h.driver.made h.driver.surface h.owners := hh
  refine ⟨?_, hh.nodup, ?_, fun o ho ↦ ?_, hh.owners_eq, ?_⟩
  · exact hd.calls.symm ▸ hh.fair
  · exact hd.calls.symm ▸ hh.mem_iff
  · exact (hh.numbered o (hd.calls ▸ ho)).trans (hd.count_le o.kind)
  · have hb : b.Holds h.driver.calls h.driver.surface := hh.backdrop
    rwa [← hd.calls, ← hd.surface] at hb

theorem of_eq {e' : Estate} (hh : Held b e h) (he : e = e') : Held b e' h := he ▸ hh

theorem alive (hh : Held b e h) {x : Holding} (hx : x ∈ e.1) : Alive h.driver.calls x :=
  ((Books.mem_iff hh x).1 hx).1

theorem number_ne_zero (hh : Held b e h) {x : Holding} (hx : x ∈ e.1) : x.object.number ≠ 0 :=
  (Books.fair hh).number_ne_zero (hh.alive hx).named

/-- Null or not, the estate is that of the object. -/
theorem of_sole {o : Object kind} (hh : Held b (o.sole + r) h) : Held b (o.estate + r) h := by
  have ho : o.any.number ≠ 0 := hh.number_ne_zero (x := ⟨o.any, none⟩) (by simp)
  rwa [o.estate_of_ne ho]

/-- A call that neither makes nor ends anything leaves the estate as it is. -/
theorem push_of_holds {b' : Backdrop} (hh : Held b e h) (hp : c.IsPlain)
    (hframes : b'.frames = b.frames)
    (hb : b'.Holds (c :: h.driver.calls) h.driver.surface)
    (hu : ∀ o ∈ c.uses, o.IsOwned → ∃ x, Alive h.driver.calls x ∧ x.object = o) :
    Held b' e { h with driver := h.driver.push c } := by
  have hp₀ : Books (.plain b.frames) (0 + e)
      h.driver.calls h.driver.made h.driver.surface h.owners :=
    (zero_add e).symm ▸ Books.reframe hh rfl trivial
  have hf : c.Fits b.frames h.driver.calls := by
    refine Books.fits hh hp.1 hu fun o ho ↦ ?_
    rw [hp.2.1] at ho
    cases ho
  have hpush := hp₀.push_ending trivial hp.1 hf (fun x hx ↦ (Estate.mem_zero.1 hx).elim)
    (fun x _ ↦ hp.not_ends x) rfl
  exact hpush.reframe hframes hb

theorem push (hh : Held b e h) (hp : c.IsPlain) (hc : c.IsOrdinary)
    (hu : ∀ o ∈ c.uses, o.IsOwned → ∃ x, Alive h.driver.calls x ∧ x.object = o) :
    Held b e { h with driver := h.driver.push c } :=
  hh.push_of_holds hp rfl (b.push hc (Books.backdrop hh)) hu

/-- A failed call changes nothing. -/
theorem failed (hh : Held b e h) {name : CallName} {wanted : Call} {code : ResultCode} :
    Held b e { h with driver := h.driver.push (.failed name wanted code) } :=
  hh.push ⟨rfl, rfl, rfl⟩ trivial (List.forall_mem_nil _)

theorem tally (hh : Held b e h) {name : CallName} :
    Held b e { h with driver := (h.driver.tally name).2 } :=
  hh.congr Driver.continues_tally

theorem of_perform_error (hh : Held b e h) {name : CallName} {code : ResultCode}
    (hd : Driver.perform name c h.driver = (.error code, d)) : Held b e { h with driver := d } := by
  rw [Driver.perform_error hd]
  exact hh.tally.failed

theorem of_create_error (hh : Held b e h) {name : CallName} {code : ResultCode}
    {f : Object kind → Call} (hd : Driver.create name f h.driver = (.error code, d)) :
    Held b e { h with driver := d } := by
  rw [Driver.create_error hd]
  exact hh.tally.failed

theorem performs (hh : Held b e h) {name : CallName} (hp : c.IsPlain) (hc : c.IsOrdinary)
    (hu : ∀ o ∈ c.uses, e.Covers o) :
    Held b e { h with driver := (Driver.perform name c h.driver).2 } := by
  rcases hd : Driver.perform name c h.driver with ⟨code | x, d⟩
  · exact hh.of_perform_error hd
  · rw [Driver.perform_ok hd]
    exact hh.tally.push hp hc fun o ho ↦ Books.covered hh (hu o ho)

theorem make (hh : Held b r h) {c : Object kind → Call} {home : Option AnyObject}
    (hc : Makes kind c home r) (hk : kind ≠ .descriptorSet) :
    Held b (.one ⟨⟨kind, h.driver.made.count kind + 1⟩, home⟩ + r)
      { h with driver := (h.driver.fresh kind).2.push (c ⟨h.driver.made.count kind + 1⟩) } := by
  have hm := hc.made ⟨h.driver.made.count kind + 1⟩
  have hf := Books.fits_made hh hm rfl (hc.uses _) hc.home
  exact Books.push_made hh (hc.ordinary _) hm hk rfl hf

theorem share (hh : Held b r h) : Held b (.share + r) { h with owners := h.owners + 1 } := by
  refine ⟨hh.fair, ?_, fun x ↦ ?_, hh.numbered, ?_, hh.backdrop⟩
  · rw [Estate.fst_share_add]
    exact Books.nodup hh
  · exact (Estate.mem_add.trans (by simp)).trans (hh.mem_iff x)
  · have ho := hh.owners_eq
    exact (congrArg (· + 1) ho).trans (Nat.add_comm _ _)

theorem unshare (hh : Held b (.share + r) h) : Held b r { h with owners := h.owners - 1 } := by
  refine ⟨hh.fair, ?_, fun x ↦ ?_, hh.numbered, ?_, hh.backdrop⟩
  · exact Estate.fst_share_add ▸ Books.nodup hh
  · exact (Estate.mem_add.trans (by simp)).symm.trans (hh.mem_iff x)
  · have ho : h.owners = 1 + r.2 := hh.owners_eq
    exact ho ▸ Nat.add_sub_cancel_left 1 r.2

/-- Destroying an object that has to wait for no other one. -/
theorem destroy {o : Object kind} (hh : Held b (o.sole + r) h)
    (hn : ∀ x ∈ r.1, ¬x.Needs b.frames o.any)
    (hp : kind = .commandPool → ∀ x ∈ r.1, x.home ≠ some o.any) :
    Held b r { h with driver := h.driver.destroy o.any } := by
  have ho : o.any.number ≠ 0 := hh.number_ne_zero (x := ⟨o.any, none⟩) (by simp)
  have hforget : Held b (o.sole + r) { h with driver := h.driver.forget o.any } :=
    hh.congr Driver.continues_forget
  rw [Driver.destroy, if_neg ho]
  refine Books.push_ended hforget (c := .destroy o.any) trivial rfl rfl
    (fun y hy pool hhome hpool ↦ ?_)
    (by simp [Call.uses]) hn
  obtain rfl := Option.some.inj hpool
  obtain ⟨-, hkind⟩ := Books.home_kind hh (Estate.mem_add.2 (.inr hy)) hhome
  exact hp hkind y hy hhome

end Held

/-! ### Calls -/

/-- Other objects need not be looked at when one of the kind ends. -/
def ObjectKind.EndsAlone : ObjectKind → Prop
  | .connection | .device | .surface | .commandPool => False
  | _ => True

section Calls

variable {b : Backdrop} {e r : Estate} {c : Call} {kind : ObjectKind} {name : CallName}
  {action logged : String} {α : Type} {E : EngineError → Host → Prop}

theorem meets_push (hp : c.IsPlain) (hc : c.IsOrdinary) (hu : ∀ o ∈ c.uses, e.Covers o) :
    Meets (Held b e) (Run.changeDriver (·.push c)) (fun _ ↦ Held b e) E :=
  Run.meets_changeDriver fun _ hh ↦ hh.push hp hc fun o ho ↦ Books.covered hh (hu o ho)

theorem meets_note {severity : Log.Severity} {origin message : String} :
    Meets (Held b e) (Log.note severity origin message : Run Unit) (fun _ ↦ Held b e) E :=
  Meets.note fun _ _ hh ↦ hh

theorem meets_refuse {origin : String} {cause : BackendCause} {Q : α → Host → Prop} :
    Meets (Held b e) (Log.refuse origin cause : Run α) Q fun _ ↦ Held b e :=
  Meets.refuse fun _ _ hh ↦ hh

theorem keeps_work {f : Driver → Except ResultCode α × Driver}
    (hf : ∀ h, Held b e h → Held b e { h with driver := (f h.driver).2 }) :
    Keeps (Held b e) (Run.work action f) := by
  refine Run.meets_work (fun s a d hs hd ↦ ?_) (fun s code d hs hd ↦ ?_) fun _ _ h ↦ h
  · simpa only [hd] using hf s hs
  · simpa only [hd] using hf s hs

theorem keeps_setUp {f : Driver → Except ResultCode α × Driver}
    (hf : ∀ h, Held b e h → Held b e { h with driver := (f h.driver).2 }) :
    Keeps (Held b e) (Run.setUp logged action f) := by
  refine Run.meets_setUp (fun s a d hs hd ↦ ?_) (fun s code d hs hd ↦ ?_) fun _ _ h ↦ h
  · simpa only [hd] using hf s hs
  · simpa only [hd] using hf s hs

/-- What was asked for is answered. -/
theorem meets_ask {a : α} :
    Meets (Held b e) (Run.setUp logged action (Driver.query name a))
      (fun x h ↦ x = a ∧ Held b e h) fun _ ↦ Held b e := by
  refine Run.meets_setUp (fun s x d hs hd ↦ ?_) (fun s code d hs hd ↦ ?_) fun _ _ h ↦ h
  · have hq : Held b e { s with driver := (Driver.query name a s.driver).2 } :=
      hs.congr Driver.continues_query
    exact ⟨Driver.query_ok hd, by simpa only [hd] using hq⟩
  · have hq : Held b e { s with driver := (Driver.query name a s.driver).2 } :=
      hs.congr Driver.continues_query
    simpa only [hd] using hq

theorem keeps_perform (hp : c.IsPlain) (hc : c.IsOrdinary) (hu : ∀ o ∈ c.uses, e.Covers o) :
    Keeps (Held b e) (Run.work action (Driver.perform name c)) :=
  keeps_work fun _ hh ↦ hh.performs hp hc hu

theorem meets_tryPerform (hp : c.IsPlain) (hc : c.IsOrdinary) (hu : ∀ o ∈ c.uses, e.Covers o) :
    Meets (Held b e) (Run.tryOut (Driver.perform name c)) (fun _ ↦ Held b e) E :=
  .bind (Run.meets_driving (Q := fun _ ↦ Held b e) fun _ hh ↦ hh.performs hp hc hu) fun _ ↦
    .pure fun _ hh ↦ hh

section Making

variable {f : Object kind → Call} {home : Option AnyObject} (hf : Makes kind f home r)
  (hk : kind ≠ .descriptorSet)
include hf hk

theorem Held.create {h : Host} (hh : Held b r h) {o : Object kind} {d : Driver}
    (hd : Driver.create name f h.driver = (.ok o, d)) :
    Held b (.one ⟨o.any, home⟩ + r) { h with driver := d } := by
  obtain ⟨rfl, rfl⟩ := Driver.create_ok hd
  exact hh.tally.make hf hk

theorem meets_make :
    Meets (Held b r) (Run.work action (Driver.create name f))
      (fun o ↦ Held b (.one ⟨o.any, home⟩ + r)) fun _ ↦ Held b r := by
  exact Run.meets_work (fun _ _ _ hs hd ↦ hs.create hf hk hd)
    (fun _ _ _ hs hd ↦ hs.of_create_error hd) fun _ _ h ↦ h

theorem meets_setUpMake :
    Meets (Held b r) (Run.setUp logged action (Driver.create name f))
      (fun o ↦ Held b (.one ⟨o.any, home⟩ + r)) fun _ ↦ Held b r := by
  exact Run.meets_setUp (fun _ _ _ hs hd ↦ hs.create hf hk hd)
    (fun _ _ _ hs hd ↦ hs.of_create_error hd) fun _ _ h ↦ h

end Making

/-! ### Ending and sharing -/

theorem meets_destroy {o : Object kind} (hk : kind.EndsAlone) :
    Meets (Held b (o.sole + r)) (Run.destroy o) (fun _ ↦ Held b r) E := by
  refine Run.meets_changeDriver fun _ hh ↦ hh.destroy (fun x _ ↦ ?_) ?_
  · cases kind <;> simp_all [Holding.Needs, ObjectKind.EndsAlone, Object.any]
  · rintro rfl
    exact hk.elim

/-- Nothing happens to the null object. -/
theorem meets_destroyEstate {o : Object kind} (hk : kind.EndsAlone) :
    Meets (Held b (o.estate + r)) (Run.destroy o) (fun _ ↦ Held b r) E := by
  by_cases ho : o.number = 0
  · refine Run.meets_changeDriver fun s hh ↦ ?_
    rw [Object.estate, if_pos ho, zero_add] at hh
    rw [Driver.destroy, if_pos (show o.any.number = 0 from ho)]
    exact hh
  · rw [Object.estate_of_ne ho]
    exact meets_destroy hk

theorem meets_share : Meets (Held b r) Run.share (fun _ ↦ Held b (.share + r)) E :=
  .update fun _ hh ↦ hh.share

theorem meets_unshare : Meets (Held b (.share + r)) Run.unshare (fun _ ↦ Held b r) E :=
  .update fun _ hh ↦ hh.unshare

/-- Each of several estates is given up. -/
theorem meets_each {x : α → Run Unit} {g : α → Estate}
    (hx : ∀ a r, Meets (Held b (g a + r)) (x a) (fun _ ↦ Held b r) E) (l : List α) :
    Meets (Held b ((l.map g).sum + r)) (Run.each x l) (fun _ ↦ Held b r) E := by
  induction l with
  | nil => exact .pure fun _ hh ↦ (zero_add r) ▸ hh
  | cons a l ih =>
    rw [List.map_cons, List.sum_cons, add_assoc]
    exact .bind (hx a _) fun _ ↦ ih

/-! ### Memory -/

theorem meets_allocate {size : ℕ} {question : CallName} {label : String} :
    Meets (Held b r) (allocate label question size) (fun m ↦ Held b (m.sole + r))
      fun _ ↦ Held b r := by
  refine .bind (Q := fun _ ↦ Held b r)
    (Run.meets_driving fun _ hh ↦ hh.congr Driver.continues_query) fun answer ↦ ?_
  rcases answer with code | ⟨⟩
  · exact .get_bind fun _ ↦
      .bind meets_note fun _ ↦ .fail fun _ hh ↦ hh
  · -- The number is taken in one step and the call made in the next.
    have hc : Makes .memory .allocateMemory none r :=
      .of_nil (fun _ ↦ rfl) (fun _ ↦ trivial) fun _ ↦ rfl
    refine .bind (Q := fun m h ↦ Held b (m.sole + r) { h with
      driver := h.driver.push (.allocateMemory m) }) (Run.meets_driving fun _ hh ↦ ?_) fun m ↦ ?_
    · exact hh.make hc (by decide)
    · exact .bind (Q := fun _ ↦ Held b (m.sole + r)) (Run.meets_changeDriver fun _ hh ↦ hh)
        fun _ ↦ .pure fun _ hh ↦ hh

theorem meets_free {m : Object .memory} :
    Meets (Held b (m.sole + r)) (free m) (fun _ ↦ Held b r) E := by
  refine Run.meets_changeDriver fun _ hh ↦ ?_
  refine Books.push_ended hh trivial rfl rfl (fun _ _ _ _ hp ↦ by cases hp) (by simp [Call.uses]) ?_
  simp [Holding.Needs, Object.any]

end Calls

end RenderTargets.Vulkan
