import Mathlib.Data.List.Perm.Basic
import RenderTargets.Slot.Map
/-!
# Looking values up

What the handles of a slot map find after a value was put in, taken out or changed: the handle at
hand finds the new value or nothing, and **every other handle finds what it found before**, also a
handle of the same slot, because the versions differ.

The values themselves are a list in the order of the slots, of which only the members matter:
putting a value in adds it, taking it out leaves the others.
-/

namespace RenderTargets.Slot.Map

variable {κ α : Type} {tag : κ} {m m' : Map tag α} {h k : Handle tag} {a b : α}

/-! ### Slots and handles -/

theorem get?_eq (m : Map tag α) (k : Handle tag) :
    m.get? k = if k.index = 0 then none
      else (m.cells[k.index.toNat - 1]?).bind fun c ↦
        if c.version = k.version then c.value else none := by
  rw [get?, cell?]
  split
  · rfl
  · cases m.cells[k.index.toNat - 1]? with
    | none => rfl
    | some c => by_cases hv : c.version = k.version <;> simp [Option.filter, hv]

/-- Number and position of a slot differ by one. -/
theorem index_eq_iff {i : Nat} : k.index.toNat = i + 1 ↔ k.index ≠ 0 ∧ k.index.toNat - 1 = i := by
  have h0 : k.index = 0 ↔ k.index.toNat = 0 := UInt32.toNat_inj.symm
  rw [Ne, h0]
  omega

/-- The handle of a slot finds its value if the versions agree. -/
theorem get?_of_cell {i : Nat} {c : Cell α} (hc : m.cells[i]? = some c)
    (hk : k.index.toNat = i + 1) :
    m.get? k = if c.version = k.version then c.value else none := by
  obtain ⟨h0, hi⟩ := index_eq_iff.1 hk
  rw [get?_eq, if_neg h0, hi, hc]
  rfl

/-- Stores that differ in one slot agree on the handles of the others. -/
theorem get?_congr {i : Nat} (hoff : ∀ j ≠ i, m'.cells[j]? = m.cells[j]?)
    (hk : k.index.toNat ≠ i + 1) : m'.get? k = m.get? k := by
  rw [get?_eq, get?_eq]
  by_cases h0 : k.index = 0
  · rw [if_pos h0, if_pos h0]
  · rw [if_neg h0, if_neg h0, hoff _ fun hi ↦ hk (index_eq_iff.2 ⟨h0, hi⟩)]

/-- A handle that finds a value is that of a slot. -/
theorem exists_cell_of_get? (ha : m.get? h = some a) :
    ∃ i, h.index.toNat = i + 1 ∧ m.cells[i]? = some ⟨h.version, some a⟩ := by
  obtain ⟨c, hc, hver, hv⟩ := cell?_of_get? ha
  refine ⟨h.index.toNat - 1, index_eq_iff.2 ⟨fun h0 ↦ ?_, rfl⟩, ?_⟩
  · rw [get?_eq, if_pos h0] at ha
    cases ha
  · rw [hc, ← hver, ← hv]

/-! ### Putting a value in -/

/-- A value goes into a slot without one and gets the version of the handle. -/
theorem insert?_spec (hi : m.insert? a = some (h, m')) :
    ∃ i, h.index.toNat = i + 1 ∧ (∀ c, m.cells[i]? = some c → c.value = none) ∧
      m'.cells[i]? = some ⟨h.version, some a⟩ ∧ ∀ j ≠ i, m'.cells[j]? = m.cells[j]? := by
  have hnum : ∀ i < capacity, (UInt32.ofNat (i + 1)).toNat = i + 1 := by
    intro i hi
    rw [UInt32.toNat_ofNat']
    exact Nat.mod_eq_of_lt (by simp only [capacity] at hi; omega)
  rw [insert?] at hi
  split at hi
  · next hf =>
    split at hi
    · next hn =>
      cases hi
      refine ⟨m.cells.length, hnum _ hn, by simp, by simp, fun j hj ↦ ?_⟩
      rcases Nat.lt_or_ge j m.cells.length with hlt | hge
      · exact List.getElem?_append_left hlt
      · have h1 : m.cells[j]? = none := List.getElem?_eq_none hge
        have h2 : (m.cells ++ [⟨1, some a⟩])[j]? = none := List.getElem?_eq_none (by simp; omega)
        exact h2.trans h1.symm
    · cases hi
  · next i rest hf =>
    obtain ⟨c, hc, hv⟩ := (m.kept.mem_free_iff i).1 (by simp [hf])
    have hlt : i < m.cells.length := (List.getElem?_eq_some_iff.1 hc).1
    cases hi
    refine ⟨i, hnum i (Nat.lt_of_lt_of_le hlt m.kept.length_le), fun c' hc' ↦ ?_, ?_, fun j hj ↦ ?_⟩
    · rw [hc] at hc'
      exact Option.some.inj hc' ▸ hv
    · exact List.getElem?_set_self hlt
    · exact List.getElem?_set_ne (Ne.symm hj)

theorem get?_insert?_self (hi : m.insert? a = some (h, m')) : m'.get? h = some a := by
  obtain ⟨i, hh, -, hc, -⟩ := insert?_spec hi
  simp [get?_of_cell hc hh]

/-- A handle is not handed out while it is alive. -/
theorem get?_of_insert? (hi : m.insert? a = some (h, m')) : m.get? h = none := by
  obtain ⟨i, hh, hnone, -, -⟩ := insert?_spec hi
  cases hg : m.get? h with
  | none => rfl
  | some b =>
    obtain ⟨j, hj, hc⟩ := exists_cell_of_get? hg
    have hij : i = j := by omega
    cases hnone _ (hij ▸ hc)

theorem get?_insert?_of_ne (hi : m.insert? a = some (h, m')) (hk : k ≠ h) :
    m'.get? k = m.get? k := by
  obtain ⟨i, hh, hnone, hc, hoff⟩ := insert?_spec hi
  by_cases hki : k.index.toNat = i + 1
  · have hidx : k.index = h.index := UInt32.toNat_inj.1 (hki.trans hh.symm)
    have hver : h.version ≠ k.version := fun hv ↦ hk (by cases k; cases h; simp_all)
    rw [get?_of_cell hc hki, if_neg hver]
    cases hg : m.get? k with
    | none => rfl
    | some b =>
      obtain ⟨j, hj, hcj⟩ := exists_cell_of_get? hg
      have hij : i = j := by omega
      cases hnone _ (hij ▸ hcj)
  · exact get?_congr hoff hki

/-- What was found is found after something else was put in. -/
theorem get?_insert?_of_get? (hi : m.insert? a = some (h, m')) (hk : m.get? k = some b) :
    m'.get? k = some b := by
  have hne : k ≠ h := by
    rintro rfl
    cases hk.symm.trans (get?_of_insert? hi)
  rw [get?_insert?_of_ne hi hne, hk]

/-! ### Taking a value out -/

theorem remove_eq_some_iff : m.remove h = some (a, m') ↔ ∃ ha, m' = m.vacated h a ha := by
  rw [remove]
  split
  · next b hb =>
    refine ⟨fun he ↦ ?_, ?_⟩
    · cases he
      exact ⟨hb, rfl⟩
    · rintro ⟨ha, rfl⟩
      cases hb.symm.trans ha
      rfl
  · next hb =>
    refine ⟨nofun, ?_⟩
    rintro ⟨ha, -⟩
    cases hb.symm.trans ha

/-- What is alive can be taken out, and nothing else. -/
theorem isSome_remove : (m.remove h).isSome = m.contains h := by
  rw [remove, contains]
  split <;> simp_all

theorem vacated_cells {ha : m.get? h = some a} {i : Nat} (hh : h.index.toNat = i + 1) :
    (m.vacated h a ha).cells = m.cells.set i ⟨h.version + 1, none⟩ := by
  have hi : h.index.toNat - 1 = i := by omega
  subst hi
  rfl

theorem get?_remove_self (hr : m.remove h = some (a, m')) : m'.get? h = none := by
  obtain ⟨ha, rfl⟩ := remove_eq_some_iff.1 hr
  obtain ⟨i, hh, hc⟩ := exists_cell_of_get? ha
  have hlt : i < m.cells.length := (List.getElem?_eq_some_iff.1 hc).1
  have hc' : (m.vacated h a ha).cells[i]? = some ⟨h.version + 1, none⟩ := by
    rw [vacated_cells hh, List.getElem?_set_self hlt]
  rw [get?_of_cell hc' hh]
  simp

theorem get?_remove_of_ne (hr : m.remove h = some (a, m')) (hk : k ≠ h) :
    m'.get? k = m.get? k := by
  obtain ⟨ha, rfl⟩ := remove_eq_some_iff.1 hr
  obtain ⟨i, hh, hc⟩ := exists_cell_of_get? ha
  have hlt : i < m.cells.length := (List.getElem?_eq_some_iff.1 hc).1
  by_cases hki : k.index.toNat = i + 1
  · have hc' : (m.vacated h a ha).cells[i]? = some ⟨h.version + 1, none⟩ := by
      rw [vacated_cells hh, List.getElem?_set_self hlt]
    have hidx : k.index = h.index := UInt32.toNat_inj.1 (hki.trans hh.symm)
    have hver : h.version ≠ k.version := fun hv ↦ hk (by cases k; cases h; simp_all)
    rw [get?_of_cell hc' hki, get?_of_cell hc hki, if_neg hver, ite_self]
  · refine get?_congr (i := i) (fun j hj ↦ ?_) hki
    rw [vacated_cells hh, List.getElem?_set_ne (Ne.symm hj)]

/-! ### Changing a value -/

theorem modify_of_none {f : α → α} (ha : m.get? h = none) : m.modify h f = m := by
  rw [modify]
  split
  · next b hb => cases ha.symm.trans hb
  · rfl

theorem modify_cells {f : α → α} (ha : m.get? h = some a) {i : Nat} (hh : h.index.toNat = i + 1) :
    (m.modify h f).cells = m.cells.set i ⟨h.version, some (f a)⟩ := by
  have hi : h.index.toNat - 1 = i := by omega
  subst hi
  rw [modify]
  split
  · next b hb =>
    cases ha.symm.trans hb
    rfl
  · next hb => cases ha.symm.trans hb

theorem get?_modify_self {f : α → α} : (m.modify h f).get? h = (m.get? h).map f := by
  rcases ha : m.get? h with _ | a
  · rw [modify_of_none ha, ha, Option.map_none]
  · obtain ⟨i, hh, hc⟩ := exists_cell_of_get? ha
    have hlt : i < m.cells.length := (List.getElem?_eq_some_iff.1 hc).1
    have hc' : (m.modify h f).cells[i]? = some ⟨h.version, some (f a)⟩ := by
      rw [modify_cells ha hh, List.getElem?_set_self hlt]
    rw [get?_of_cell hc' hh, if_pos rfl, Option.map_some]

theorem get?_modify_of_ne {f : α → α} (hk : k ≠ h) : (m.modify h f).get? k = m.get? k := by
  rcases ha : m.get? h with _ | a
  · rw [modify_of_none ha]
  · obtain ⟨i, hh, hc⟩ := exists_cell_of_get? ha
    have hlt : i < m.cells.length := (List.getElem?_eq_some_iff.1 hc).1
    by_cases hki : k.index.toNat = i + 1
    · have hc' : (m.modify h f).cells[i]? = some ⟨h.version, some (f a)⟩ := by
        rw [modify_cells ha hh, List.getElem?_set_self hlt]
      have hidx : k.index = h.index := UInt32.toNat_inj.1 (hki.trans hh.symm)
      have hver : h.version ≠ k.version := fun hv ↦ hk (by cases k; cases h; simp_all)
      rw [get?_of_cell hc' hki, get?_of_cell hc hki, if_neg hver, if_neg hver]
    · refine get?_congr (i := i) (fun j hj ↦ ?_) hki
      rw [modify_cells ha hh, List.getElem?_set_ne (Ne.symm hj)]

/-! ### Which handles are alive -/

theorem contains_insert? (hi : m.insert? a = some (h, m')) :
    m'.contains k ↔ k = h ∨ m.contains k := by
  by_cases hk : k = h
  · subst hk
    simp [contains, get?_insert?_self hi]
  · simp [contains, get?_insert?_of_ne hi hk, hk]

theorem not_contains_of_insert? (hi : m.insert? a = some (h, m')) : m.contains h = false := by
  simp [contains, get?_of_insert? hi]

theorem contains_remove (hr : m.remove h = some (a, m')) :
    m'.contains k ↔ k ≠ h ∧ m.contains k := by
  by_cases hk : k = h
  · subst hk
    simp [contains, get?_remove_self hr]
  · simp [contains, get?_remove_of_ne hr hk, hk]

@[simp] theorem get?_empty : (empty : Map tag α).get? k = none := by simp [get?_eq, empty]

@[simp] theorem contains_empty : (empty : Map tag α).contains k = false := by simp [contains]

/-! ### The values -/

/-- A place that had nothing to show has a value from now on. -/
theorem filterMap_set_perm {β γ : Type} {l : List β} {f : β → Option γ} {i : Nat} {x y : β} {c : γ}
    (hx : l[i]? = some x) (hfx : f x = none) (hfy : f y = some c) :
    ((l.set i y).filterMap f).Perm (c :: l.filterMap f) := by
  obtain ⟨hlt, rfl⟩ := List.getElem?_eq_some_iff.1 hx
  have hl : l = l.take i ++ l[i] :: l.drop (i + 1) := by
    rw [← List.drop_eq_getElem_cons hlt, List.take_append_drop]
  have hset : l.set i y = l.take i ++ y :: l.drop (i + 1) := by
    rw [List.set_eq_take_append_cons_drop, if_pos hlt]
  have hold : l.filterMap f = (l.take i).filterMap f ++ (l.drop (i + 1)).filterMap f := by
    conv_lhs => rw [hl]
    rw [List.filterMap_append, List.filterMap_cons_none hfx]
  rw [hset, hold, List.filterMap_append, List.filterMap_cons_some hfy]
  exact List.perm_middle

theorem mem_values_of_get? (ha : m.get? h = some a) : a ∈ m.values := by
  obtain ⟨i, -, hc⟩ := exists_cell_of_get? ha
  exact List.mem_filterMap.2 ⟨_, List.mem_of_getElem? hc, rfl⟩

theorem values_insert? (hi : m.insert? a = some (h, m')) : m'.values.Perm (a :: m.values) := by
  rw [insert?] at hi
  split at hi
  · split at hi
    · cases hi
      rw [values, List.filterMap_append]
      exact List.perm_append_singleton a _
    · cases hi
  · next i rest hf =>
    obtain ⟨c, hc, hv⟩ := (m.kept.mem_free_iff i).1 (by simp [hf])
    cases hi
    exact filterMap_set_perm hc hv rfl

theorem values_remove (hr : m.remove h = some (a, m')) : m.values.Perm (a :: m'.values) := by
  obtain ⟨ha, rfl⟩ := remove_eq_some_iff.1 hr
  obtain ⟨i, hh, hc⟩ := exists_cell_of_get? ha
  obtain ⟨hlt, hget⟩ := List.getElem?_eq_some_iff.1 hc
  have hback : (m.vacated h a ha).cells.set i ⟨h.version, some a⟩ = m.cells := by
    rw [vacated_cells hh, List.set_set, ← hget, List.set_getElem_self]
  rw [values, ← hback]
  exact filterMap_set_perm (x := ⟨h.version + 1, none⟩)
    (by rw [vacated_cells hh, List.getElem?_set_self hlt]) rfl rfl

/-- A place may change if it shows the same. -/
theorem filterMap_set_of_eq {β γ : Type} {l : List β} {f : β → Option γ} {i : Nat} {x y : β}
    (hx : l[i]? = some x) (hxy : f y = f x) : (l.set i y).filterMap f = l.filterMap f := by
  obtain ⟨hlt, rfl⟩ := List.getElem?_eq_some_iff.1 hx
  have hmap : (l.set i y).map f = l.map f := by
    rw [List.map_set, hxy, ← List.map_set, List.set_getElem_self]
  have hshow : ∀ k : List β, k.filterMap f = (k.map f).filterMap id := fun k ↦ by
    rw [List.filterMap_map, Function.id_comp]
  rw [hshow, hmap, ← hshow]

/-- What the changed value has in common with the value, all values have in common. -/
theorem map_values_modify {β : Type} {f : α → α} {g : α → β} (hg : ∀ a, g (f a) = g a) :
    (m.modify h f).values.map g = m.values.map g := by
  rw [modify]
  split
  · next a ha =>
    obtain ⟨c, hc, -, hv⟩ := cell?_of_get? ha
    rw [values, values, List.map_filterMap, List.map_filterMap]
    exact filterMap_set_of_eq hc (by simp [hv, hg])
  · rfl

theorem size_insert? (hi : m.insert? a = some (h, m')) : m'.size = m.size + 1 :=
  (values_insert? hi).length_eq

theorem size_remove (hr : m.remove h = some (a, m')) : m.size = m'.size + 1 :=
  (values_remove hr).length_eq

end RenderTargets.Slot.Map
