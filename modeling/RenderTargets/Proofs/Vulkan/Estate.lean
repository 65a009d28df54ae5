import Mathlib.Algebra.BigOperators.Group.List.Basic
import Mathlib.Algebra.Group.Prod
import Mathlib.Algebra.Order.Group.Multiset
import Mathlib.Tactic.Abel
import RenderTargets.Proofs.Vulkan.Lives
import RenderTargets.Proofs.Vulkan.Steps
import RenderTargets.Vulkan.Memory
/-!
# Estates

What a part of a device has to end, its **estate**, is a multiset of objects together with the
number of times that it holds on to the context. Estates are added, so what a step makes or ends is
said beside an estate that it does not touch: a step that makes `e` goes from `r` to `e + r`.

## Books

A host is `Held` for an estate if its trace is fair and exactly the objects of the estate are alive.
Descriptor sets are not in estates, because nobody ends them: they live as long as their pool.

## Backdrops

The trace also tells of fences, which only frames touch. A `Backdrop` is what else is known of
trace and surface, provided that calls which have nothing to do with fences keep it.
-/

namespace RenderTargets.Vulkan

open StepWith

/-! ### Estates -/

/-- Objects, and how often the context is held on to. -/
abbrev Estate := Multiset Holding × ℕ

namespace Estate

/-- A single object. -/
def one (x : Holding) : Estate := ({x}, 0)

/-- Holding on to the context. -/
def share : Estate := (0, 1)

/-- An object can be passed to calls as far as the estate is concerned. -/
def Covers (e : Estate) (o : AnyObject) : Prop := o.IsOwned → ∃ x ∈ e.1, x.object = o

variable {e f : Estate} {x y : Holding} {o : AnyObject}

@[simp] theorem mem_add : x ∈ (e + f).1 ↔ x ∈ e.1 ∨ x ∈ f.1 := Multiset.mem_add

@[simp] theorem mem_one : x ∈ (one y).1 ↔ x = y := Multiset.mem_singleton

@[simp] theorem mem_share : x ∈ share.1 ↔ False := iff_of_false (Multiset.notMem_zero x) id

@[simp] theorem fst_share_add : (share + e).1 = e.1 := Multiset.zero_add e.1

@[simp] theorem mem_zero : x ∈ (0 : Estate).1 ↔ False := iff_of_false (Multiset.notMem_zero x) id

@[simp] theorem covers_add : (e + f).Covers o ↔ e.Covers o ∨ f.Covers o := by
  by_cases ho : o.IsOwned <;> simp only [Covers, mem_add, or_and_right, exists_or, ho, true_imp_iff,
    false_imp_iff, or_self]

@[simp] theorem covers_one (o : AnyObject) (home : Option AnyObject) :
    (one ⟨o, home⟩).Covers o :=
  fun _ ↦ ⟨⟨o, home⟩, mem_one.2 rfl, rfl⟩

theorem covers_of_mem (h : x ∈ e.1) : e.Covers x.object := fun _ ↦ ⟨x, h, rfl⟩

theorem Covers.add_left (h : e.Covers o) : (f + e).Covers o := covers_add.2 (.inr h)

theorem Covers.add_right (h : e.Covers o) : (e + f).Covers o := covers_add.2 (.inl h)

theorem Covers.of_not_isOwned (h : ¬o.IsOwned) : e.Covers o := fun ho ↦ (h ho).elim

/-- The estate of one of several is a part of all of them together. -/
theorem exists_sum_eq {α : Type} {l : List α} {g : α → Estate} {a : α} (ha : a ∈ l) :
    ∃ rest, (l.map g).sum = g a + rest := by
  induction l with
  | nil => cases ha
  | cons b l ih =>
    rw [List.map_cons, List.sum_cons]
    rcases List.mem_cons.1 ha with rfl | ha
    · exact ⟨_, rfl⟩
    · obtain ⟨rest, hrest⟩ := ih ha
      exact ⟨g b + rest, by rw [hrest, add_left_comm]⟩

theorem mem_sum {α : Type} {l : List α} {g : α → Estate} {a : α} (ha : a ∈ l) (h : x ∈ (g a).1) :
    x ∈ (l.map g).sum.1 := by
  obtain ⟨rest, hrest⟩ := exists_sum_eq (g := g) ha
  rw [hrest]
  exact mem_add.2 (.inl h)

/-- If nothing is held twice, an object is held by one of several. -/
theorem eq_of_mem_sum {α : Type} {l : List α} {g : α → Estate} {a b : α}
    (hl : (l.map g).sum.1.Nodup) (ha : a ∈ l) (hb : b ∈ l) (hxa : x ∈ (g a).1)
    (hxb : x ∈ (g b).1) : a = b := by
  induction l with
  | nil => cases ha
  | cons c l ih =>
    rw [List.map_cons, List.sum_cons] at hl
    obtain ⟨-, hrest, hdisjoint⟩ := Multiset.nodup_add.1 hl
    have hapart {d : α} (hd : d ∈ l) (hxc : x ∈ (g c).1) (hxd : x ∈ (g d).1) : False :=
      Multiset.disjoint_left.1 hdisjoint hxc (mem_sum hd hxd)
    rcases List.mem_cons.1 ha with rfl | ha' <;> rcases List.mem_cons.1 hb with rfl | hb'
    · rfl
    · exact (hapart hb' hxa hxb).elim
    · exact (hapart ha' hxb hxa).elim
    · exact ih hrest ha' hb'

theorem Covers.of_sum {α : Type} {l : List α} {g : α → Estate} {a : α} (ha : a ∈ l)
    (h : (g a).Covers o) : (l.map g).sum.Covers o := by
  obtain ⟨rest, hrest⟩ := exists_sum_eq (g := g) ha
  rw [hrest]
  exact h.add_right

end Estate

namespace Object

variable {kind : ObjectKind} {o : Object kind}

/-- The estate of an object that comes from no pool. -/
def sole (o : Object kind) : Estate := .one ⟨o.any, none⟩

/-- The estate of an object that may be null. -/
def estate (o : Object kind) : Estate := if o.number = 0 then 0 else o.sole

@[simp] theorem mem_sole {x : Holding} : x ∈ o.sole.1 ↔ x = ⟨o.any, none⟩ := Estate.mem_one

@[simp] theorem covers_sole (o : Object kind) : o.sole.Covers o.any := Estate.covers_one o.any none

theorem estate_of_ne (h : o.number ≠ 0) : o.estate = o.sole := if_neg h

@[simp] theorem estate_null : (null : Object kind).estate = 0 := rfl

@[simp] theorem covers_estate (o : Object kind) : o.estate.Covers o.any := by
  intro ho
  rw [estate_of_ne ho.1]
  exact covers_sole o ho

end Object

/-! ### Books -/

namespace Call

/-- The call has nothing to do with fences. -/
def IsOrdinary : Call → Prop
  | waitForFence _ => False
  | resetFence _ => False
  | submit _ _ fence => fence = .null
  | _ => True

/-- The call neither makes nor ends anything. -/
def IsPlain (c : Call) : Prop := c.made? = none ∧ c.ended? = none ∧ c.emptied? = none

theorem IsPlain.not_ends {c : Call} (h : c.IsPlain) (x : Holding) : ¬c.Ends x := by
  rintro (he | ⟨pool, -, he⟩)
  · rw [h.2.1] at he
    cases he
  · rw [h.2.2] at he
    cases he

end Call

/-- What else is known of trace and surface. -/
structure Backdrop where
  /-- The pool of the command buffers of frames. -/
  frames : AnyObject
  /-- What is known. -/
  Holds : List Call → SurfaceOffer → Prop
  /-- Ordinary calls keep it. -/
  push : ∀ {c calls offer}, c.IsOrdinary → Holds calls offer → Holds (c :: calls) offer

/-- Nothing else is known. -/
def Backdrop.plain (frames : AnyObject) : Backdrop := ⟨frames, fun _ _ ↦ True, fun _ _ ↦ trivial⟩

/-- The trace is fair, and what is alive is the estate. -/
structure Books (b : Backdrop) (e : Estate) (calls : List Call) (made : List ObjectKind)
    (offer : SurfaceOffer) (owners : ℕ) : Prop where
  /-- Every call fits. -/
  fair : Fair b.frames calls
  /-- Nothing is held twice. -/
  nodup : e.1.Nodup
  /-- What is held is what is alive. -/
  mem_iff : ∀ x, x ∈ e.1 ↔ Alive calls x ∧ x.object.kind ≠ .descriptorSet
  /-- The driver knows the numbers that were used. -/
  numbered : ∀ o, Named calls o → o.number ≤ made.count o.kind
  /-- The context is held on to as often as the estate says. -/
  owners_eq : owners = e.2
  /-- The backdrop holds. -/
  backdrop : b.Holds calls offer

namespace Books

variable {b : Backdrop} {e g r : Estate} {calls : List Call} {made : List ObjectKind}
  {offer : SurfaceOffer} {owners : ℕ} {c : Call} {x : Holding} {o : AnyObject}

/-- The same books before another backdrop. -/
theorem reframe {b' : Backdrop} (h : Books b e calls made offer owners)
    (hframes : b'.frames = b.frames) (hb : b'.Holds calls offer) :
    Books b' e calls made offer owners :=
  ⟨hframes ▸ h.fair, h.nodup, h.mem_iff, h.numbered, h.owners_eq, hb⟩

theorem covered (h : Books b e calls made offer owners) (ho : e.Covers o) (hown : o.IsOwned) :
    ∃ x, Alive calls x ∧ x.object = o := by
  obtain ⟨x, hx, rfl⟩ := ho hown
  exact ⟨x, ((h.mem_iff x).1 hx).1, rfl⟩

/-- A set has its pool, which has to be gone before the same objects. -/
theorem not_needs (h : Books b e calls made offer owners) (hn : ∀ x ∈ e.1, ¬x.Needs b.frames o)
    (hx : Alive calls x) : ¬x.Needs b.frames o := by
  by_cases hk : x.object.kind = .descriptorSet
  · obtain ⟨c, -, hc⟩ := hx.exists_made
    obtain ⟨pool, hhome, hpool⟩ := Call.pool_of_set hc hk
    obtain ⟨y, hy, rfl⟩ := h.fair.home_alive hx hhome
    have hy : y ∈ e.1 := (h.mem_iff y).2 ⟨hy, by rw [hpool]; decide⟩
    have hny := hn y hy
    rw [Holding.Needs] at hny ⊢
    split at hny <;> simp_all
    next hcommand =>
      rintro rfl
      cases hpool.symm.trans hcommand
  · exact hn x ((h.mem_iff x).2 ⟨hx, hk⟩)

/-- A call that makes nothing fits if what it is passed is alive. -/
theorem fits (h : Books b e calls made offer owners) (hm : c.made? = none)
    (hu : ∀ o ∈ c.uses, o.IsOwned → ∃ x, Alive calls x ∧ x.object = o)
    (hn : ∀ o, c.ended? = some o → ∀ x ∈ e.1, ¬x.Needs b.frames o) : c.Fits b.frames calls where
  made x hx := by
    rw [hm] at hx
    cases hx
  home x pool hx := by
    rw [hm] at hx
    cases hx
  uses := hu
  ended _ x ho hx := h.not_needs (hn _ ho) hx

/-- A call that ends a part of an estate leaves the rest. -/
theorem push_ending (h : Books b (g + r) calls made offer owners)
    (hb : b.Holds (c :: calls) offer) (hm : c.made? = none) (hf : c.Fits b.frames calls)
    (hg : ∀ x ∈ g.1, c.Ends x) (hr : ∀ x ∈ r.1, ¬c.Ends x) (hg₂ : g.2 = 0) :
    Books b r (c :: calls) made offer owners where
  fair := ⟨h.fair, hf⟩
  nodup := (Multiset.nodup_add.1 h.nodup).2.1
  mem_iff x := by
    have halive : Alive (c :: calls) x ↔ Alive calls x ∧ ¬c.Ends x := by simp [Alive, hm]
    rw [halive]
    refine ⟨fun hx ↦ ?_, fun ⟨⟨hx, he⟩, hk⟩ ↦ ?_⟩
    · obtain ⟨ha, hk⟩ := (h.mem_iff x).1 (Estate.mem_add.2 (.inr hx))
      exact ⟨⟨ha, hr x hx⟩, hk⟩
    · rcases Estate.mem_add.1 ((h.mem_iff x).2 ⟨hx, hk⟩) with hx | hx
      · exact (he (hg x hx)).elim
      · exact hx
  numbered o ho := by
    rcases named_cons.1 ho with ⟨x, hx, -⟩ | ho
    · rw [hm] at hx
      cases hx
    · exact h.numbered o ho
  owners_eq := by
    have ho : owners = g.2 + r.2 := h.owners_eq
    omega
  backdrop := hb

/-- One object is held once. -/
theorem object_ne (h : Books b (g + r) calls made offer owners) {y : Holding} (hx : x ∈ g.1)
    (hy : y ∈ r.1) : x.object ≠ y.object := by
  intro hxy
  obtain ⟨hax, -⟩ := (h.mem_iff x).1 (Estate.mem_add.2 (.inl hx))
  obtain ⟨hay, -⟩ := (h.mem_iff y).1 (Estate.mem_add.2 (.inr hy))
  obtain ⟨c, hc, hcx⟩ := hax.exists_made
  obtain ⟨d, hd, hdy⟩ := hay.exists_made
  have heq : x = y := h.fair.made_unique hc hd hcx hdy hxy
  exact Multiset.disjoint_left.1 (Multiset.nodup_add.1 h.nodup).2.2 hx (heq ▸ hy)

/-- What is held and comes from a pool comes from a command pool. -/
theorem home_kind (h : Books b e calls made offer owners) (hx : x ∈ e.1) {pool : AnyObject}
    (hp : x.home = some pool) : x.object.kind = .commandBuffer ∧ pool.kind = .commandPool := by
  obtain ⟨ha, hk⟩ := (h.mem_iff x).1 hx
  obtain ⟨c, -, hc⟩ := ha.exists_made
  rcases Call.home_of_made? hc hp with hcase | ⟨hset, -⟩
  · exact hcase
  · exact (hk hset).elim

/-- A call that ends one object by itself. -/
theorem push_ended (h : Books b (.one x + r) calls made offer owners) (hc : c.IsOrdinary)
    (hm : c.made? = none) (he : c.ended? = some x.object)
    (hp : ∀ y ∈ r.1, ∀ pool, y.home = some pool → c.emptied? ≠ some pool)
    (hu : ∀ o ∈ c.uses, (Estate.one x + r).Covers o)
    (hn : ∀ y ∈ r.1, ¬y.Needs b.frames x.object) :
    Books b r (c :: calls) made offer owners := by
  have hself : ¬x.Needs b.frames x.object := by
    have hhome : x.home ≠ some x.object := fun hh ↦ by
      obtain ⟨hk, hk'⟩ := h.home_kind (Estate.mem_add.2 (.inl (Estate.mem_one.2 rfl))) hh
      cases hk.symm.trans hk'
    rw [Holding.Needs]
    split <;> simp_all
  have hf : c.Fits b.frames calls := by
    refine h.fits hm (fun o ho ↦ h.covered (hu o ho)) fun o ho y hy ↦ ?_
    obtain rfl := Option.some.inj (he.symm.trans ho)
    rcases Estate.mem_add.1 hy with hy | hy
    · exact Estate.mem_one.1 hy ▸ hself
    · exact hn y hy
  refine h.push_ending (b.push hc h.backdrop) hm hf (fun y hy ↦ .inl (Estate.mem_one.1 hy ▸ he))
    (fun y hy ↦ ?_) rfl
  rintro (hend | ⟨pool, hhome, hpool⟩)
  · exact h.object_ne (Estate.mem_one.2 rfl) hy (Option.some.inj (he.symm.trans hend))
  · exact hp y hy pool hhome hpool

/-- The driver knows the number of what it made last. -/
theorem numbered_cons (h : Books b e calls made offer owners) (hm : c.made? = some x)
    (hnew : x.object.number = made.count x.object.kind + 1) (o : AnyObject)
    (ho : Named (c :: calls) o) : o.number ≤ (x.object.kind :: made).count o.kind := by
  rw [List.count_cons]
  rcases named_cons.1 ho with ⟨y, hy, rfl⟩ | ho
  · obtain rfl := Option.some.inj (hm.symm.trans hy)
    simp [hnew]
  · exact (h.numbered o ho).trans (Nat.le_add_right _ _)

/-- A call that makes an object which the driver did not know. -/
theorem push_made (h : Books b e calls made offer owners) (hc : c.IsOrdinary)
    (hm : c.made? = some x) (hk : x.object.kind ≠ .descriptorSet)
    (hnew : x.object.number = made.count x.object.kind + 1) (hf : c.Fits b.frames calls) :
    Books b (.one x + e) (c :: calls) (x.object.kind :: made) offer owners where
  fair := ⟨h.fair, hf⟩
  nodup := by
    refine Multiset.nodup_add.2 ⟨Multiset.nodup_singleton x, h.nodup, ?_⟩
    refine Multiset.singleton_disjoint.2 fun hx ↦ (hf.made x hm).1 ?_
    exact ((h.mem_iff x).1 hx).1.named
  mem_iff y := by
    rw [Estate.mem_add, Estate.mem_one, h.mem_iff]
    refine ⟨?_, ?_⟩
    · rintro (rfl | ⟨hy, hky⟩)
      · exact ⟨.inl hm, hk⟩
      · exact ⟨.inr ⟨hy, Call.not_ends_of_made? hm y⟩, hky⟩
    · rintro ⟨hy | ⟨hy, -⟩, hky⟩
      · exact .inl (Option.some.inj (hy.symm.trans hm))
      · exact .inr ⟨hy, hky⟩
  numbered := h.numbered_cons hm hnew
  owners_eq := by
    rw [h.owners_eq]
    exact (Nat.zero_add _).symm
  backdrop := b.push hc h.backdrop

/-- A descriptor set that the driver did not know is in nobody's estate. -/
theorem push_set (h : Books b e calls made offer owners) (hc : c.IsOrdinary)
    (hm : c.made? = some x) (hk : x.object.kind = .descriptorSet)
    (hnew : x.object.number = made.count x.object.kind + 1) (hf : c.Fits b.frames calls) :
    Books b e (c :: calls) (x.object.kind :: made) offer owners where
  fair := ⟨h.fair, hf⟩
  nodup := h.nodup
  mem_iff y := by
    rw [h.mem_iff]
    refine ⟨fun ⟨hy, hky⟩ ↦ ⟨.inr ⟨hy, Call.not_ends_of_made? hm y⟩, hky⟩, ?_⟩
    rintro ⟨hy | ⟨hy, -⟩, hky⟩
    · obtain rfl := Option.some.inj (hm.symm.trans hy)
      exact (hky hk).elim
    · exact ⟨hy, hky⟩
  numbered := h.numbered_cons hm hnew
  owners_eq := h.owners_eq
  backdrop := b.push hc h.backdrop

/-- An object of the next number is new. -/
theorem fits_made (h : Books b e calls made offer owners) (hm : c.made? = some x)
    (hnew : x.object.number = made.count x.object.kind + 1)
    (hu : ∀ o ∈ c.uses, e.Covers o)
    (hh : ∀ pool, x.home = some pool → ∃ y ∈ e.1, y.object = pool) : c.Fits b.frames calls where
  made y hy := by
    obtain rfl := Option.some.inj (hm.symm.trans hy)
    refine ⟨fun hn ↦ ?_, by omega⟩
    have hle := h.numbered _ hn
    omega
  home y pool hy hp := by
    obtain rfl := Option.some.inj (hm.symm.trans hy)
    obtain ⟨z, hz, hzp⟩ := hh pool hp
    exact ⟨z, ((h.mem_iff z).1 hz).1, hzp⟩
  uses o ho := h.covered (hu o ho)
  ended o y ho := by
    rw [(Call.ended?_of_made? hm).1] at ho
    cases ho

end Books

end RenderTargets.Vulkan
