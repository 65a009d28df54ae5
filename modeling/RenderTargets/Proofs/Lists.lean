import Mathlib.Algebra.BigOperators.Group.List.Basic
import Mathlib.Algebra.GroupWithZero.Nat
import Mathlib.Data.List.Forall2
/-!
# Lists

What holds of the members of one list holds of those of a list that corresponds to it, member by
member. A list made by a computation that can fail corresponds to the list it is made from.

Data of many things is often one list for each of them, a **row**, put one after the other. The row
of a thing is then found again: it begins where those before it end, and where all have the same
length, that is its number times the length (`slice_flatMap_of_length_eq`).
-/

namespace RenderTargets

/-! ### Lists that correspond -/

section Corresponding

variable {α β : Type} {R : α → β → Prop} {l : List α} {l' : List β}

/-- What the second list has, it has for something of the first. -/
theorem exists_of_forall₂ {b : β} (h : List.Forall₂ R l l') (hb : b ∈ l') : ∃ a ∈ l, R a b := by
  induction h with
  | nil => cases hb
  | cons hr _ ih =>
    rcases List.mem_cons.1 hb with rfl | hb
    · exact ⟨_, List.mem_cons_self, hr⟩
    · obtain ⟨a, ha, hr⟩ := ih hb
      exact ⟨a, List.mem_cons_of_mem _ ha, hr⟩

/-- Where something is found in one of two lists that correspond, it is found in the other. -/
theorem exists_mem_iff_of_forall₂ {p : α → Prop} {q : β → Prop} (h : List.Forall₂ R l l')
    (hpq : ∀ a b, R a b → (p a ↔ q b)) : (∃ a ∈ l, p a) ↔ ∃ b ∈ l', q b := by
  induction h with
  | nil => simp
  | cons hab _ ih => rw [List.exists_mem_cons_iff, List.exists_mem_cons_iff, hpq _ _ hab, ih]

theorem pairwise_of_forall₂ {S : α → α → Prop} {S' : β → β → Prop} (h : List.Forall₂ R l l')
    (hl : l.Pairwise S) (hS : ∀ a b a' b', R a b → R a' b' → S a a' → S' b b') :
    l'.Pairwise S' := by
  induction h with
  | nil => exact .nil
  | cons hab hrest ih =>
    obtain ⟨hfirst, hl⟩ := List.pairwise_cons.1 hl
    refine List.pairwise_cons.2 ⟨fun b' hb' ↦ ?_, ih hl⟩
    obtain ⟨a', ha', hR⟩ := exists_of_forall₂ hrest hb'
    exact hS _ _ _ _ hab hR (hfirst a' ha')

/-- A list of results has the result of each member. -/
theorem forall₂_of_mapM {f : α → Option β} (h : ∀ a ∈ l, ∃ b, f a = some b ∧ R a b) :
    ∃ l', l.mapM f = some l' ∧ List.Forall₂ R l l' := by
  induction l with
  | nil => exact ⟨[], rfl, .nil⟩
  | cons a rest ih =>
    obtain ⟨b, hb, hR⟩ := h a List.mem_cons_self
    obtain ⟨bs, hbs, hrest⟩ := ih fun c hc ↦ h c (List.mem_cons_of_mem a hc)
    exact ⟨b :: bs, by simp [hb, hbs], .cons hR hrest⟩

end Corresponding

/-! ### Rows put one after the other -/

section Rows

variable {α β : Type} {f : α → List β} {l : List α} {i n r : ℕ}

/-- Rows put one after the other, cut before and after the row at `i`. -/
theorem flatMap_eq_append_of_lt (h : i < l.length) :
    l.flatMap f = (l.take i).flatMap f ++ (f l[i] ++ (l.drop (i + 1)).flatMap f) := by
  conv_lhs => rw [← List.take_append_drop i l, List.drop_eq_getElem_cons h]
  rw [List.flatMap_append, List.flatMap_cons]

/-- The row at `i` begins where the rows before it end. -/
theorem slice_flatMap (h : i < l.length) :
    ((l.flatMap f).drop ((l.take i).map fun a ↦ (f a).length).sum).take (f l[i]).length =
      f l[i] := by
  rw [flatMap_eq_append_of_lt h, ← List.length_flatMap, List.drop_left, List.take_left]

/-! ### Rows of one length -/

variable {count : ℕ}

/-- A row ends before the rows after it do. -/
theorem rowEnd_le (h : i < count) : i * n + n ≤ count * n := by
  rw [← Nat.succ_mul]
  exact Nat.mul_le_mul_right n h

/-- So does what is at a place of the row. -/
theorem rowPlace_lt (h : i < count) (hr : r < n) : i * n + r < count * n :=
  Nat.lt_of_lt_of_le (Nat.add_lt_add_left hr _) (rowEnd_le h)

theorem sum_map_take_of_length_eq (hn : ∀ a ∈ l, (f a).length = n) (h : i ≤ l.length) :
    ((l.take i).map fun a ↦ (f a).length).sum = i * n := by
  have hmap : (l.take i).map (fun a ↦ (f a).length) = List.replicate i n :=
    List.eq_replicate_iff.2 ⟨by simp [h], fun m hm ↦ by
      obtain ⟨a, ha, rfl⟩ := List.mem_map.1 hm
      exact hn a (List.mem_of_mem_take ha)⟩
  rw [hmap, List.sum_replicate_nat]

theorem length_flatMap_of_length_eq (hn : ∀ a ∈ l, (f a).length = n) :
    (l.flatMap f).length = l.length * n := by
  have hsum := sum_map_take_of_length_eq hn (Nat.le_refl l.length)
  rwa [List.take_length, ← List.length_flatMap] at hsum

/-- If all rows have the same length, the row at `i` is found by multiplying. -/
theorem slice_flatMap_of_length_eq (hn : ∀ a ∈ l, (f a).length = n) (h : i < l.length) :
    ((l.flatMap f).drop (i * n)).take n = f l[i] := by
  have hslice := slice_flatMap (f := f) h
  rwa [sum_map_take_of_length_eq hn (Nat.le_of_lt h), hn _ (List.getElem_mem h)] at hslice

/-- Rows of the same length go on without gaps. -/
theorem flatMap_range'_mul (count length : ℕ) :
    (List.range count).flatMap (fun v ↦ List.range' (v * length) length) =
      List.range (count * length) := by
  induction count with
  | zero => simp
  | succ count ih =>
    rw [List.range_succ, List.flatMap_append, ih, List.flatMap_singleton, Nat.succ_mul,
      List.range_eq_range', List.range_eq_range']
    have := List.range'_append_1 (s := 0) (m := count * length) (n := length)
    rwa [Nat.zero_add] at this

/-! ### Parts of a row -/

/-- What is in a part of a row is in the part of the whole that is as far from the row's place. -/
theorem take_drop_of_slice {whole : List β} (row : List β) {start skip length : ℕ}
    (h : (whole.drop start).take row.length = row) (hle : skip + length ≤ row.length) :
    (whole.drop (start + skip)).take length = (row.drop skip).take length := by
  conv_rhs => rw [← h]
  rw [List.drop_take, List.drop_drop, List.take_take, Nat.min_eq_left (by omega)]

/-- What is at a place of a row is at a place of the whole. -/
theorem getElem?_of_slice {whole : List β} (row : List β) {start : ℕ}
    (h : (whole.drop start).take row.length = row) (hr : r < row.length) :
    whole[start + r]? = row[r]? := by
  conv_rhs => rw [← h]
  rw [List.getElem?_take_of_lt hr, List.getElem?_drop]

/-- What is in the row at `i` is found by multiplying. -/
theorem getElem?_flatMap_of_length_eq (hn : ∀ a ∈ l, (f a).length = n) (h : i < l.length)
    (hr : r < n) : (l.flatMap f)[i * n + r]? = (f l[i])[r]? := by
  have hlength := hn _ (List.getElem_mem h)
  refine getElem?_of_slice _ ?_ (by rwa [hlength])
  rw [hlength]
  exact slice_flatMap_of_length_eq hn h

end Rows

/-! ### Rows that can fail -/

section Computed

variable {α β γ : Type} {f : α → Option (List β)} {l : List α} {row : List β}

theorem exists_flatten_mapM (hf : ∀ a ∈ l, ∃ r, f a = some r) :
    ∃ row, List.flatten <$> l.mapM f = some row := by
  obtain ⟨rows, hrows, -⟩ := forall₂_of_mapM (R := fun _ _ ↦ True) fun a ha ↦
    (hf a ha).imp fun r hr ↦ ⟨hr, trivial⟩
  exact ⟨rows.flatten, by rw [hrows]; rfl⟩

/-- If each row says what is wanted of it, so do all of them put one after the other. -/
theorem map_of_flatten_mapM {g : α → List γ} {h : β → γ}
    (hf : ∀ a ∈ l, ∀ r, f a = some r → r.map h = g a)
    (hrow : List.flatten <$> l.mapM f = some row) : row.map h = l.flatMap g := by
  obtain ⟨rows, hrows, rfl⟩ := Option.map_eq_some_iff.1 hrow
  clear hrow
  induction l generalizing rows with
  | nil =>
    obtain rfl : [] = rows := by simpa using hrows
    rfl
  | cons a rest ih =>
    obtain ⟨r, hr, rows', hrows', rfl⟩ :
        ∃ r, f a = some r ∧ ∃ rows', rest.mapM f = some rows' ∧ r :: rows' = rows := by
      simpa [List.mapM_cons, Option.bind_eq_some_iff] using hrows
    rw [List.flatten_cons, List.map_append, List.flatMap_cons, hf a List.mem_cons_self r hr,
      ih (fun c hc ↦ hf c (List.mem_cons_of_mem a hc)) rows' hrows']

end Computed

end RenderTargets
