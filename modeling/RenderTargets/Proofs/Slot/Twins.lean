import RenderTargets.Proofs.Slot.Lookup
/-!
# Stores with the same slots

Which handle a store hands out next depends on its versions and its list of empty slots alone, not
on the values. So stores whose versions and lists are equal, `Map.Twins`, stay so if the same is
done to both, and hand out the same handles.

If besides the values of each handle are related by `R`, the stores are `Parallel`.

## Handles that are not handed out again

A store **knows** a handle that is alive or was. It never hands such a handle out again until the
version of a slot starts over, which takes as many steps as there are versions: `Map.Aged m n` says
that no version is above `n`, and every step adds one at most.

## How far versions got

The version of a slot goes up by one when a value is put in and by one when it is taken out. So
after `n` values were taken out no version is above `2 * n`, or `2 * n + 1` where there is a value:
the store is `Worn n`. **Only what is taken out counts**, however many values were put in, and while
`2 * n` is a version none started over.

As long as no version starts over, a handle stands for one value. `m.Precedes m'` says so of two
moments of a store: what `m` knows, `m'` knows as well, and what `m'` finds under a handle that `m`
knows, `m` found under it.
-/

namespace RenderTargets.Slot.Map

variable {κ α β : Type} {tag : κ} {m n : Map tag α} {m' : Map tag β} {h k : Handle tag} {a : α}
  {i : ℕ}

/-! ### Stores by their slots -/

/-- A store without empty slots gets a new one. -/
theorem insert?_of_nil (hf : m.free = []) (hn : m.cells.length < capacity) (a : α) :
    ∃ n, m.insert? a = some (⟨UInt32.ofNat (m.cells.length + 1), 1⟩, n) ∧
      n.cells = m.cells ++ [⟨1, some a⟩] ∧ n.free = [] := by
  rw [insert?]
  split
  · rw [dif_pos hn]
    exact ⟨_, rfl, rfl, rfl⟩
  · next hcons => cases hf.symm.trans hcons

/-- The first of the empty slots is filled. -/
theorem insert?_of_cons {rest : List ℕ} (hf : m.free = i :: rest) {c : Cell α}
    (hc : m.cells[i]? = some c) (a : α) :
    ∃ n, m.insert? a = some (⟨UInt32.ofNat (i + 1), c.version ||| 1⟩, n) ∧
      n.cells = m.cells.set i ⟨c.version ||| 1, some a⟩ ∧ n.free = rest := by
  rw [insert?]
  split
  · next hnil => cases hf.symm.trans hnil
  · next hcons =>
    obtain ⟨rfl, rfl⟩ := List.cons.inj (hf.symm.trans hcons)
    simp only [hc, Option.elim_some]
    exact ⟨_, rfl, rfl, rfl⟩

/-- A store without empty slots that takes a value is not full. -/
theorem length_lt_of_insert? (hi : m.insert? a = some (h, n)) (hf : m.free = []) :
    m.cells.length < capacity := by
  rw [insert?] at hi
  split at hi
  · split at hi
    · assumption
    · cases hi
  · next hcons => cases hf.symm.trans hcons

/-- A handle is alive if its slot has its version and the version is odd. -/
theorem contains_iff : m.contains k ↔ k.index ≠ 0 ∧ k.version.toNat % 2 = 1 ∧
    (m.cells.map (·.version))[k.index.toNat - 1]? = some k.version := by
  rw [contains, get?_eq, List.getElem?_map]
  by_cases h0 : k.index = 0
  · simp [h0]
  rcases hc : m.cells[k.index.toNat - 1]? with _ | c
  · simp [h0]
  have hodd := m.kept.odd_iff _ c hc
  by_cases hv : c.version = k.version
  · simp [h0, hv, ← hv ▸ hodd]
  · simp [h0, hv]

/-! ### Twins -/

/-- The stores have the same slots. -/
structure Twins (m : Map tag α) (m' : Map tag β) : Prop where
  /-- The versions are the same. -/
  versions : m'.cells.map (·.version) = m.cells.map (·.version)
  /-- The same slots are empty. -/
  free : m'.free = m.free

namespace Twins

theorem empty : Twins (Map.empty : Map tag α) (Map.empty : Map tag β) := ⟨rfl, rfl⟩

theorem length_eq (t : Twins m m') : m'.cells.length = m.cells.length := by
  simpa using congrArg List.length t.versions

/-- The same handles are alive. -/
theorem contains_iff (t : Twins m m') : m'.contains k ↔ m.contains k := by
  rw [Map.contains_iff, Map.contains_iff, t.versions]

/-- What one has, the other has. -/
theorem exists_get? (t : Twins m m') (ha : m.get? k = some a) : ∃ b, m'.get? k = some b := by
  refine Option.isSome_iff_exists.1 (t.contains_iff.2 ?_)
  rw [Map.contains, ha, Option.isSome_some]

/-- Both hand out the same handle. -/
theorem insert? (t : Twins m m') (hi : m.insert? a = some (h, n)) (b : β) :
    ∃ n', m'.insert? b = some (h, n') ∧ Twins n n' := by
  rcases hf : m.free with _ | ⟨i, rest⟩
  · have hn := length_lt_of_insert? hi hf
    obtain ⟨_, hi₁, hcells, hfree⟩ := insert?_of_nil hf hn a
    obtain ⟨n', hi', hcells', hfree'⟩ := insert?_of_nil (t.free.trans hf) (t.length_eq ▸ hn) b
    obtain ⟨rfl, rfl⟩ := Prod.mk.inj (Option.some.inj (hi.symm.trans hi₁))
    rw [t.length_eq] at hi'
    exact ⟨n', hi', by simp [hcells, hcells', t.versions], hfree'.trans hfree.symm⟩
  · obtain ⟨c, hc, -⟩ := (m.kept.mem_free_iff i).1 (by simp [hf])
    obtain ⟨c', hc', -⟩ := (m'.kept.mem_free_iff i).1 (by simp [t.free, hf])
    have hversion : c'.version = c.version := by
      simpa [hc, hc'] using congrArg (·[i]?) t.versions
    obtain ⟨_, hi₁, hcells, hfree⟩ := insert?_of_cons hf hc a
    obtain ⟨n', hi', hcells', hfree'⟩ := insert?_of_cons (t.free.trans hf) hc' b
    obtain ⟨rfl, rfl⟩ := Prod.mk.inj (Option.some.inj (hi.symm.trans hi₁))
    rw [hversion] at hi' hcells'
    exact ⟨n', hi', by simp [hcells, hcells', List.map_set, t.versions], hfree'.trans hfree.symm⟩

/-- Both lose the same handle. -/
theorem remove (t : Twins m m') (hr : m.remove h = some (a, n)) :
    ∃ b n', m'.remove h = some (b, n') ∧ Twins n n' := by
  obtain ⟨ha, rfl⟩ := remove_eq_some_iff.1 hr
  obtain ⟨b, hb⟩ := t.exists_get? ha
  refine ⟨b, m'.vacated h b hb, remove_eq_some_iff.2 ⟨hb, rfl⟩, ?_, ?_⟩
  · simp [vacated, List.map_set, t.versions]
  · simp [vacated, t.free]

theorem trans {γ : Type} {m'' : Map tag γ} (t : Twins m m') (t' : Twins m' m'') : Twins m m'' :=
  ⟨t'.versions.trans t.versions, t'.free.trans t.free⟩

theorem symm (t : Twins m m') : Twins m' m := ⟨t.versions.symm, t.free.symm⟩

/-- Changing a value changes no slot. -/
theorem modify (m : Map tag α) (h : Handle tag) (f : α → α) : Twins m (m.modify h f) := by
  rw [Map.modify]
  split
  · next a ha =>
    obtain ⟨c, hc, hver, -⟩ := cell?_of_get? ha
    refine ⟨?_, rfl⟩
    have hv : (m.cells.map (·.version))[h.index.toNat - 1]? = some h.version := by
      simp [hc, hver]
    obtain ⟨hlt, hget⟩ := List.getElem?_eq_some_iff.1 hv
    rw [List.map_set, ← hget, List.set_getElem_self]
  · exact ⟨rfl, rfl⟩

end Twins

/-! ### Related values -/

/-- The stores have the same slots, and the values of each handle are related. -/
structure Parallel (R : Handle tag → α → β → Prop) (m : Map tag α) (m' : Map tag β) : Prop where
  /-- The slots are the same. -/
  twins : Twins m m'
  /-- The values are related. -/
  related : ∀ k a b, m.get? k = some a → m'.get? k = some b → R k a b

namespace Parallel

variable {R R' : Handle tag → α → β → Prop} {b : β}

theorem empty : Parallel R Map.empty Map.empty where
  twins := .empty
  related k a b ha := by
    have hno : (Map.empty : Map tag α).contains k = false := contains_empty
    rw [contains, ha] at hno
    cases hno

/-- What one store has, the other has something related to. -/
theorem exists_get? (p : Parallel R m m') (ha : m.get? k = some a) :
    ∃ b, m'.get? k = some b ∧ R k a b := by
  obtain ⟨b, hb⟩ := p.twins.exists_get? ha
  exact ⟨b, hb, p.related k a b ha hb⟩

/-- Values of live handles may be related in another way. -/
theorem mono (p : Parallel R m m') (h : ∀ k a b, m'.get? k = some b → R k a b → R' k a b) :
    Parallel R' m m' where
  twins := p.twins
  related k a b ha hb := h k a b hb (p.related k a b ha hb)

/-- Related values are put in under the same handle. -/
theorem insert? (p : Parallel R m m') (hi : m.insert? a = some (h, n)) (hR : R h a b) :
    ∃ n', m'.insert? b = some (h, n') ∧ Parallel R n n' := by
  obtain ⟨n', hi', ht⟩ := p.twins.insert? hi b
  refine ⟨n', hi', ht, fun k x y hx hy ↦ ?_⟩
  by_cases hk : k = h
  · subst hk
    obtain rfl := Option.some.inj ((get?_insert?_self hi).symm.trans hx)
    obtain rfl := Option.some.inj ((get?_insert?_self hi').symm.trans hy)
    exact hR
  · exact p.related k x y ((get?_insert?_of_ne hi hk).symm.trans hx)
      ((get?_insert?_of_ne hi' hk).symm.trans hy)

/-- Related values are taken out under the same handle. -/
theorem remove (p : Parallel R m m') (hr : m.remove h = some (a, n)) :
    ∃ b n', m'.remove h = some (b, n') ∧ Parallel R n n' := by
  obtain ⟨b, n', hr', ht⟩ := p.twins.remove hr
  refine ⟨b, n', hr', ht, fun k x y hx hy ↦ ?_⟩
  have hk : k ≠ h := by
    rintro rfl
    cases (get?_remove_self hr).symm.trans hx
  exact p.related k x y ((get?_remove_of_ne hr hk).symm.trans hx)
    ((get?_remove_of_ne hr' hk).symm.trans hy)

/-- A change that keeps values related. -/
theorem modify (p : Parallel R m m') {f : α → α} (hf : ∀ a b, R h a b → R h (f a) b) :
    Parallel R (m.modify h f) m' := by
  refine ⟨(Twins.modify m h f).symm.trans p.twins, fun k x y hx hy ↦ ?_⟩
  by_cases hk : k = h
  · subst hk
    rw [get?_modify_self] at hx
    obtain ⟨a, ha, rfl⟩ := Option.map_eq_some_iff.1 hx
    exact hf a y (p.related k a y ha hy)
  · exact p.related k x y ((get?_modify_of_ne hk).symm.trans hx) hy

end Parallel

/-! ### Handles that were handed out -/

/-- The handle is alive or was. -/
def Knows (m : Map tag α) (h : Handle tag) : Prop :=
  h.version.toNat % 2 = 1 ∧ ∃ i c, h.index.toNat = i + 1 ∧ m.cells[i]? = some c ∧
    h.version.toNat ≤ c.version.toNat

/-- No version is above `n`. -/
def Aged (m : Map tag α) (n : ℕ) : Prop :=
  ∀ (i : ℕ) (c : Cell α), m.cells[i]? = some c → c.version.toNat ≤ n

theorem knows_of_get? (ha : m.get? h = some a) : m.Knows h := by
  obtain ⟨i, hh, hc⟩ := exists_cell_of_get? ha
  exact ⟨(m.kept.odd_iff i _ hc).2 rfl, i, _, hh, hc, Nat.le_refl _⟩

/-- The version of a slot without a value goes up by one when it is filled. -/
theorem version_of_insert? (hi : m.insert? a = some (h, n)) (hh : h.index.toNat = i + 1) :
    h.version.toNat = (m.cells[i]?.elim 0 (·.version)).toNat + 1 := by
  have hnum : ∀ j < capacity, (UInt32.ofNat (j + 1)).toNat = j + 1 := fun j hj ↦ by
    rw [UInt32.toNat_ofNat']
    exact Nat.mod_eq_of_lt (by simp only [capacity] at hj; omega)
  rcases hf : m.free with _ | ⟨j, rest⟩
  · have hn := length_lt_of_insert? hi hf
    obtain ⟨_, hi₁, -⟩ := insert?_of_nil hf hn a
    obtain ⟨rfl, rfl⟩ := Prod.mk.inj (Option.some.inj (hi.symm.trans hi₁))
    have hlen : i = m.cells.length := by have := (hnum _ hn).symm.trans hh; omega
    simp [hlen]
  · obtain ⟨c, hc, hnone⟩ := (m.kept.mem_free_iff j).1 (by simp [hf])
    have hlt : j < m.cells.length := (List.getElem?_eq_some_iff.1 hc).1
    obtain ⟨_, hi₁, -⟩ := insert?_of_cons hf hc a
    obtain ⟨rfl, rfl⟩ := Prod.mk.inj (Option.some.inj (hi.symm.trans hi₁))
    have hij : i = j := by
      have := (hnum j (Nat.lt_of_lt_of_le hlt m.kept.length_le)).symm.trans hh
      omega
    have heven : c.version.toNat % 2 = 0 := by
      have := m.kept.odd_iff j c hc
      simp only [hnone, Option.isSome_none, Bool.false_eq_true, iff_false] at this
      omega
    have hadd := Nat.two_pow_add_eq_or_of_lt (i := 1) (b := 1) (by decide) (c.version.toNat / 2)
    rw [show 2 ^ 1 * (c.version.toNat / 2) = c.version.toNat by omega] at hadd
    rw [hij, hc, Option.elim_some, UInt32.toNat_or]
    exact hadd.symm

theorem Aged.empty : (Map.empty : Map tag α).Aged 0 := fun _ _ hc ↦ by simp [Map.empty] at hc

theorem Aged.mono {t u : ℕ} (ht : m.Aged t) (h : t ≤ u) : m.Aged u :=
  fun i c hc ↦ Nat.le_trans (ht i c hc) h

theorem Aged.insert? {t : ℕ} (ht : m.Aged t) (hi : m.insert? a = some (h, n)) :
    n.Aged (t + 1) := by
  obtain ⟨i, hh, -, hc, hoff⟩ := insert?_spec hi
  have hversion := version_of_insert? hi hh
  intro j c hj
  by_cases hij : j = i
  · subst hij
    obtain rfl := Option.some.inj (hc.symm.trans hj)
    show h.version.toNat ≤ t + 1
    rcases hold : m.cells[j]? with _ | c <;> rw [hold] at hversion
    · simp only [Option.elim_none, UInt32.toNat_zero] at hversion
      omega
    · have hle := ht j c hold
      simp only [Option.elim_some] at hversion
      omega
  · exact Nat.le_succ_of_le (ht j c (hoff j hij ▸ hj))

/-- A handle that was handed out is not handed out again, and stays known. -/
theorem Knows.insert? (hk : m.Knows k) (hi : m.insert? a = some (h, n)) : n.Knows k ∧ k ≠ h := by
  obtain ⟨hodd, i, c, hki, hc, hle⟩ := hk
  obtain ⟨j, hh, hnone, hnew, hoff⟩ := insert?_spec hi
  by_cases hij : i = j
  · subst hij
    have hversion := version_of_insert? hi hh
    rw [hc, Option.elim_some] at hversion
    exact ⟨⟨hodd, i, _, hki, hnew, by dsimp only; omega⟩, by rintro rfl; omega⟩
  · exact ⟨⟨hodd, i, c, hki, (hoff i hij).trans hc, hle⟩, by rintro rfl; omega⟩

section Remove

variable {t : ℕ} (ht : m.Aged t) (hlt : t + 1 < UInt32.size) (hr : m.remove h = some (a, n))
include ht hlt hr

/-- The version of a slot goes up by one when it is emptied, unless it starts over. -/
theorem cells_remove : ∃ i, h.index.toNat = i + 1 ∧ m.cells[i]? = some ⟨h.version, some a⟩ ∧
    n.cells[i]? = some ⟨h.version + 1, none⟩ ∧ (∀ j ≠ i, n.cells[j]? = m.cells[j]?) ∧
    (h.version + 1).toNat = h.version.toNat + 1 := by
  obtain ⟨ha, rfl⟩ := remove_eq_some_iff.1 hr
  obtain ⟨i, hh, hc⟩ := exists_cell_of_get? ha
  have hlen : i < m.cells.length := (List.getElem?_eq_some_iff.1 hc).1
  have hle : h.version.toNat ≤ t := ht i _ hc
  refine ⟨i, hh, hc, ?_, fun j hj ↦ ?_, ?_⟩
  · rw [vacated_cells hh, List.getElem?_set_self hlen]
  · rw [vacated_cells hh, List.getElem?_set_ne (Ne.symm hj)]
  · rw [UInt32.toNat_add, show (1 : UInt32).toNat = 1 from rfl, Nat.mod_eq_of_lt]
    exact Nat.lt_of_le_of_lt (Nat.succ_le_succ hle) hlt

theorem Aged.remove : n.Aged (t + 1) := by
  obtain ⟨i, -, hc, hnew, hoff, hversion⟩ := cells_remove ht hlt hr
  intro j c hj
  by_cases hij : j = i
  · subst hij
    obtain rfl := Option.some.inj (hnew.symm.trans hj)
    exact hversion ▸ Nat.succ_le_succ (ht j _ hc)
  · exact Nat.le_succ_of_le (ht j c (hoff j hij ▸ hj))

theorem Knows.remove (hk : m.Knows k) : n.Knows k := by
  obtain ⟨hodd, i, c, hki, hc, hle⟩ := hk
  obtain ⟨j, -, hold, hnew, hoff, hversion⟩ := cells_remove ht hlt hr
  refine ⟨hodd, i, ?_⟩
  by_cases hij : i = j
  · subst hij
    obtain rfl := Option.some.inj (hold.symm.trans hc)
    exact ⟨_, hki, hnew, hversion ▸ Nat.le_succ_of_le hle⟩
  · exact ⟨c, hki, (hoff i hij).trans hc, hle⟩

end Remove

end RenderTargets.Slot.Map

namespace RenderTargets.Slot.Map

variable {κ α : Type} {tag : κ} {m m' m'' n : Map tag α} {h k : Handle tag} {a : α} {t u : ℕ}

/-! ### Wear -/

/-- No version is higher than `t` removals make it. -/
def Worn (m : Map tag α) (t : ℕ) : Prop :=
  ∀ (i : ℕ) (c : Cell α), m.cells[i]? = some c → c.version.toNat ≤ 2 * t + c.value.isSome.toNat

theorem Worn.empty : (Map.empty : Map tag α).Worn 0 := fun _ _ hc ↦ by simp [Map.empty] at hc

theorem Worn.mono (hw : m.Worn t) (htu : t ≤ u) : m.Worn u := fun i c hc ↦ by
  have hle := hw i c hc
  omega

theorem Worn.aged (hw : m.Worn t) : m.Aged (2 * t + 1) := fun i c hc ↦
  Nat.le_trans (hw i c hc) (Nat.add_le_add_left (Bool.toNat_le _) _)

/-- A slot without a value is filled. -/
theorem Worn.insert? (hw : m.Worn t) (hi : m.insert? a = some (h, n)) : n.Worn t := by
  obtain ⟨i, hh, hnone, hc, hoff⟩ := insert?_spec hi
  have hversion := version_of_insert? hi hh
  intro j c hj
  by_cases hij : j = i
  · subst hij
    obtain rfl := Option.some.inj (hc.symm.trans hj)
    show h.version.toNat ≤ 2 * t + 1
    rcases hold : m.cells[j]? with _ | c <;> rw [hold] at hversion
    · simp only [Option.elim_none, UInt32.toNat_zero] at hversion
      omega
    · have hle := hw j c hold
      rw [hnone c hold] at hle
      simp only [Option.elim_some, Option.isSome_none, Bool.toNat_false] at hversion hle
      omega
  · exact hw j c (hoff j hij ▸ hj)

theorem Worn.remove (hw : m.Worn t) (hlt : 2 * (t + 1) < UInt32.size)
    (hr : m.remove h = some (a, n)) : n.Worn (t + 1) := by
  obtain ⟨i, -, hc, hnew, hoff, hversion⟩ := cells_remove hw.aged hlt hr
  intro j c hj
  by_cases hij : j = i
  · subst hij
    obtain rfl := Option.some.inj (hnew.symm.trans hj)
    have hle : h.version.toNat ≤ 2 * t + 1 := hw j _ hc
    show (h.version + 1).toNat ≤ 2 * (t + 1) + 0
    omega
  · exact hw.mono (Nat.le_succ t) j c (hoff j hij ▸ hj)

/-! ### Moments of a store -/

/-- What is left was there. -/
theorem get?_of_remove {b : α} (hr : m.remove h = some (a, n)) (hb : n.get? k = some b) :
    m.get? k = some b := by
  have hne : k ≠ h := by
    rintro rfl
    cases (get?_remove_self hr).symm.trans hb
  exact (get?_remove_of_ne hr hne).symm.trans hb

/-- What is found after something was put in is that, or was found before. -/
theorem get?_of_get?_insert? {b : α} (hi : m.insert? a = some (h, n)) (hb : n.get? k = some b) :
    k = h ∧ b = a ∨ m.get? k = some b := by
  by_cases hk : k = h
  · rw [hk, get?_insert?_self hi] at hb
    exact .inl ⟨hk, (Option.some.inj hb).symm⟩
  · exact .inr ((get?_insert?_of_ne hi hk).symm.trans hb)

/-- The store was `m` before it was `m'`, and handles stand for the same values. -/
structure Precedes (m m' : Map tag α) : Prop where
  /-- Handles stay known. -/
  knows : ∀ {k}, m.Knows k → m'.Knows k
  /-- What a known handle finds it found before. -/
  found : ∀ {k a}, m.Knows k → m'.get? k = some a → m.get? k = some a

namespace Precedes

theorem refl (m : Map tag α) : m.Precedes m := ⟨id, fun _ ↦ id⟩

theorem trans (h : m.Precedes m') (h' : m'.Precedes m'') : m.Precedes m'' where
  knows := h'.knows ∘ h.knows
  found hk ha := h.found hk (h'.found (h.knows hk) ha)

theorem insert? (hi : m.insert? a = some (h, n)) : m.Precedes n where
  knows hk := (hk.insert? hi).1
  found hk ha := (get?_insert?_of_ne hi (hk.insert? hi).2).symm.trans ha

theorem remove (hw : m.Worn t) (hlt : 2 * (t + 1) < UInt32.size) (hr : m.remove h = some (a, n)) :
    m.Precedes n where
  knows hk := hk.remove hw.aged hlt hr
  found _ hb := get?_of_remove hr hb

end Precedes

end RenderTargets.Slot.Map
