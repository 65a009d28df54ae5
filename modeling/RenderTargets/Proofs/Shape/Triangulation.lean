import Mathlib.Algebra.Order.Floor.Semiring
import Mathlib.Data.List.Nodup
import Mathlib.Data.Rat.Floor
import Mathlib.Tactic.Linarith
import RenderTargets.Proofs.Shape.Blocks
/-!
# Triangulations of a grid

A face is a grid of cells, and each cell is two triangles. On the grid of its vertices these tile
the face (`Shape.tiles_gridTriangles`): each turns left, each point is in one of them, and in none
besides unless it is on an edge, and the edges fit together. That is what `Shape.Tiles` says of a
list of triangles, in terms of the list alone.

The index list of a face is a list of corners, three for each triangle. Read back as grid points,
these are the triangles of all cells (`Shape.map_gridPoint_faceIndices`).
-/

namespace RenderTargets.Shape

/-! ### Triangles on a grid -/

/-- Three corners in the order in which they are drawn. -/
structure Triangle (α : Type) where
  /-- The first corner. -/
  a : α
  /-- The second corner. -/
  b : α
  /-- The third corner. -/
  c : α
  deriving DecidableEq, Repr

namespace Triangle

variable {α β : Type}

/-- The triangles of a list of corners, three corners for each. -/
def ofCorners : List α → List (Triangle α)
  | a :: b :: c :: rest => ⟨a, b, c⟩ :: ofCorners rest
  | _ => []

/-- The triangle with other corners. -/
def map (f : α → β) (t : Triangle α) : Triangle β := ⟨f t.a, f t.b, f t.c⟩

/-- The edges in the direction in which they are gone through. -/
def edges (t : Triangle α) : List (α × α) := [(t.a, t.b), (t.b, t.c), (t.c, t.a)]

end Triangle

/-- Where a point is seen from the line through two grid points: on the left if positive, on the
right if negative. -/
def leftOf (p q : ℕ × ℕ) (x y : ℚ) : ℚ :=
  ((q.1 : ℚ) - p.1) * (y - p.2) - ((q.2 : ℚ) - p.2) * (x - p.1)

namespace Triangle

variable (T : Triangle (ℕ × ℕ)) (x y : ℚ)

/-- Twice the area, positive if the corners turn left. -/
def turn : ℚ := leftOf T.a T.b T.c.1 T.c.2

/-- The point is in the triangle or on its edges. -/
def Covers : Prop := 0 ≤ leftOf T.a T.b x y ∧ 0 ≤ leftOf T.b T.c x y ∧ 0 ≤ leftOf T.c T.a x y

/-- The point is in the triangle and not on its edges. -/
def Within : Prop := 0 < leftOf T.a T.b x y ∧ 0 < leftOf T.b T.c x y ∧ 0 < leftOf T.c T.a x y

/-- All corners are corners of the cell. -/
def IsOf (c : ℕ × ℕ) : Prop :=
  ∀ p ∈ [T.a, T.b, T.c], c.1 ≤ p.1 ∧ p.1 ≤ c.1 + 1 ∧ c.2 ≤ p.2 ∧ p.2 ≤ c.2 + 1

instance (c : ℕ × ℕ) : Decidable (T.IsOf c) := inferInstanceAs (Decidable (∀ p ∈ _, _))

end Triangle

/-- The part of a cell below its diagonal. -/
def lower (c : ℕ × ℕ) : Triangle (ℕ × ℕ) := ⟨c, (c.1 + 1, c.2), (c.1 + 1, c.2 + 1)⟩

/-- The part of a cell above its diagonal. -/
def upper (c : ℕ × ℕ) : Triangle (ℕ × ℕ) := ⟨c, (c.1 + 1, c.2 + 1), (c.1, c.2 + 1)⟩

/-- A side of a cell, from left to right or upwards. -/
def IsSide (t : ℕ) (p q : ℕ × ℕ) : Prop :=
  (q = (p.1 + 1, p.2) ∧ p.1 < t ∧ p.2 ≤ t) ∨ (q = (p.1, p.2 + 1) ∧ p.1 ≤ t ∧ p.2 < t)

/-- A diagonal of a cell, upwards. -/
def IsDiagonal (t : ℕ) (p q : ℕ × ℕ) : Prop := q = (p.1 + 1, p.2 + 1) ∧ p.1 < t ∧ p.2 < t

/-- Both points are on the same border of the grid. -/
def OnBorder (t : ℕ) (p q : ℕ × ℕ) : Prop :=
  (p.1 = 0 ∧ q.1 = 0) ∨ (p.1 = t ∧ q.1 = t) ∨ (p.2 = 0 ∧ q.2 = 0) ∨ (p.2 = t ∧ q.2 = t)

/-- Triangles that cover a grid of `t` by `t` cells once, all turning left. -/
structure Tiles (t : ℕ) (l : List (Triangle (ℕ × ℕ))) : Prop where
  /-- There are two for each cell. -/
  length : l.length = 2 * t ^ 2
  /-- They turn left. -/
  turn : ∀ T ∈ l, 0 < T.turn
  /-- The two of a cell meet at its diagonal. -/
  cell : ∀ c : ℕ × ℕ, c.1 < t → c.2 < t → l.filter (·.IsOf c) = [lower c, upper c]
  /-- Every point is in one of them. -/
  covers : ∀ x y : ℚ, 0 ≤ x → x ≤ t → 0 ≤ y → y ≤ t → ∃ T ∈ l, T.Covers x y
  /-- No point is within two of them. -/
  apart : l.Pairwise fun T U ↦ ∀ x y, ¬ (T.Within x y ∧ U.Within x y)
  /-- No edge is gone through twice in one direction. -/
  nodup : (l.flatMap Triangle.edges).Nodup
  /-- Edges are sides or diagonals of cells. -/
  edge : ∀ p q, (p, q) ∈ l.flatMap Triangle.edges →
    IsSide t p q ∨ IsSide t q p ∨ IsDiagonal t p q ∨ IsDiagonal t q p
  /-- Sides within the grid are gone through in both directions. -/
  inner : ∀ p q, IsSide t p q → ¬ OnBorder t p q → (l.flatMap Triangle.edges).count (p, q) = 1 ∧
    (l.flatMap Triangle.edges).count (q, p) = 1
  /-- And so are diagonals. -/
  diagonal : ∀ p q, IsDiagonal t p q → (l.flatMap Triangle.edges).count (p, q) = 1 ∧
    (l.flatMap Triangle.edges).count (q, p) = 1
  /-- Sides on the border are gone through once, in one of the directions. -/
  border : ∀ p q, IsSide t p q → OnBorder t p q →
    (l.flatMap Triangle.edges).count (p, q) + (l.flatMap Triangle.edges).count (q, p) = 1

/-! ### The triangles of all cells -/

variable {t : ℕ} {c d p q : ℕ × ℕ} {x y : ℚ}

/-- Two triangles for each cell. -/
def gridTriangles (t : ℕ) : List (Triangle (ℕ × ℕ)) :=
  (gridCells t).flatMap fun c ↦ [lower c, upper c]

theorem nodup_gridCells : (gridCells t).Nodup := by
  refine List.nodup_flatMap.2 ⟨fun j _ ↦ ?_, ?_⟩
  · exact List.nodup_range.map fun i i' h ↦ (Prod.mk.inj h).1
  · refine List.nodup_range.imp fun {j j'} hne c hc hc' ↦ hne ?_
    obtain ⟨i, -, rfl⟩ := List.mem_map.1 hc
    obtain ⟨i', -, h⟩ := List.mem_map.1 hc'
    exact (Prod.mk.inj h).2.symm

theorem mem_gridTriangles {T : Triangle (ℕ × ℕ)} :
    T ∈ gridTriangles t ↔ ∃ c : ℕ × ℕ, (c.1 < t ∧ c.2 < t) ∧ (T = lower c ∨ T = upper c) := by
  simp only [gridTriangles, List.mem_flatMap, mem_gridCells, List.mem_cons, List.not_mem_nil,
    or_false]

theorem turn_lower : (lower c).turn = 1 := by
  simp only [Triangle.turn, leftOf, lower]
  push_cast
  ring

theorem turn_upper : (upper c).turn = 1 := by
  simp only [Triangle.turn, leftOf, upper]
  push_cast
  ring

theorem covers_lower : (lower c).Covers x y ↔ (c.2 : ℚ) ≤ y ∧ x ≤ c.1 + 1 ∧ y - c.2 ≤ x - c.1 := by
  simp only [Triangle.Covers, leftOf, lower]
  push_cast
  constructor <;> rintro ⟨h₁, h₂, h₃⟩ <;> refine ⟨?_, ?_, ?_⟩ <;> linarith

theorem covers_upper : (upper c).Covers x y ↔ (c.1 : ℚ) ≤ x ∧ y ≤ c.2 + 1 ∧ x - c.1 ≤ y - c.2 := by
  simp only [Triangle.Covers, leftOf, upper]
  push_cast
  constructor <;> rintro ⟨h₁, h₂, h₃⟩ <;> refine ⟨?_, ?_, ?_⟩ <;> linarith

theorem within_lower : (lower c).Within x y ↔ (c.2 : ℚ) < y ∧ x < c.1 + 1 ∧ y - c.2 < x - c.1 := by
  simp only [Triangle.Within, leftOf, lower]
  push_cast
  constructor <;> rintro ⟨h₁, h₂, h₃⟩ <;> refine ⟨?_, ?_, ?_⟩ <;> linarith

theorem within_upper : (upper c).Within x y ↔ (c.1 : ℚ) < x ∧ y < c.2 + 1 ∧ x - c.1 < y - c.2 := by
  simp only [Triangle.Within, leftOf, upper]
  push_cast
  constructor <;> rintro ⟨h₁, h₂, h₃⟩ <;> refine ⟨?_, ?_, ?_⟩ <;> linarith

/-- A number of the grid lies in a column of cells. -/
theorem exists_column (ht : 1 ≤ t) (h0 : 0 ≤ x) (h : x ≤ t) :
    ∃ i < t, (i : ℚ) ≤ x ∧ x ≤ i + 1 := by
  rcases h.lt_or_eq with h | rfl
  · exact ⟨⌊x⌋₊, (Nat.floor_lt h0).2 h, Nat.floor_le h0, (Nat.lt_floor_add_one x).le⟩
  · refine ⟨t - 1, by omega, ?_, ?_⟩ <;> rw [Nat.cast_sub ht] <;> push_cast <;> linarith

theorem exists_covers (ht : 1 ≤ t) (hx : 0 ≤ x) (hxt : x ≤ t) (hy : 0 ≤ y) (hyt : y ≤ t) :
    ∃ T ∈ gridTriangles t, T.Covers x y := by
  obtain ⟨i, hi, hleft, hright⟩ := exists_column ht hx hxt
  obtain ⟨j, hj, hbelow, habove⟩ := exists_column ht hy hyt
  rcases le_total (y - j) (x - i) with h | h
  · exact ⟨lower (i, j), mem_gridTriangles.2 ⟨(i, j), ⟨hi, hj⟩, .inl rfl⟩,
      covers_lower.2 ⟨hbelow, hright, h⟩⟩
  · exact ⟨upper (i, j), mem_gridTriangles.2 ⟨(i, j), ⟨hi, hj⟩, .inr rfl⟩,
      covers_upper.2 ⟨hleft, habove, h⟩⟩

/-- What is within a triangle is within its cell. -/
theorem within_cell {T : Triangle (ℕ × ℕ)} (hT : T ∈ [lower c, upper c]) (h : T.Within x y) :
    ((c.1 : ℚ) < x ∧ x < c.1 + 1) ∧ (c.2 : ℚ) < y ∧ y < c.2 + 1 := by
  simp only [List.mem_cons, List.not_mem_nil, or_false] at hT
  rcases hT with rfl | rfl
  · obtain ⟨h₁, h₂, h₃⟩ := within_lower.1 h
    refine ⟨⟨?_, h₂⟩, h₁, ?_⟩ <;> linarith
  · obtain ⟨h₁, h₂, h₃⟩ := within_upper.1 h
    refine ⟨⟨h₁, ?_⟩, ?_, h₂⟩ <;> linarith

/-- Whole numbers with a number between each of them and its successor are the same. -/
theorem eq_of_between {i k : ℕ} (h : (i : ℚ) < x ∧ x < i + 1) (h' : (k : ℚ) < x ∧ x < k + 1) :
    i = k := by
  have h₁ : (i : ℚ) < k + 1 := h.1.trans h'.2
  have h₂ : (k : ℚ) < i + 1 := h'.1.trans h.2
  norm_cast at h₁ h₂
  omega

theorem apart_gridTriangles :
    (gridTriangles t).Pairwise fun T U ↦ ∀ x y, ¬ (T.Within x y ∧ U.Within x y) := by
  refine List.pairwise_flatMap.2 ⟨fun c _ ↦ ?_, ?_⟩
  · refine List.pairwise_pair.2 fun x y h ↦ ?_
    have hl := (within_lower.1 h.1).2.2
    have hu := (within_upper.1 h.2).2.2
    linarith
  · refine nodup_gridCells.imp fun {c d} hne T hT U hU x y h ↦ hne ?_
    have hc := within_cell hT h.1
    have hd := within_cell hU h.2
    exact Prod.ext (eq_of_between hc.1 hd.1) (eq_of_between hc.2 hd.2)

/-- The triangles of a cell are of this cell only. -/
theorem isOf_iff {T : Triangle (ℕ × ℕ)} (hT : T ∈ [lower d, upper d]) : T.IsOf c ↔ d = c := by
  simp only [List.mem_cons, List.not_mem_nil, or_false] at hT
  rw [Prod.ext_iff]
  rcases hT with rfl | rfl <;>
    simp only [Triangle.IsOf, lower, upper, List.forall_mem_cons, List.not_mem_nil, false_imp_iff,
      implies_true, and_true] <;>
    omega

theorem filter_gridTriangles (hc : c.1 < t ∧ c.2 < t) :
    (gridTriangles t).filter (·.IsOf c) = [lower c, upper c] := by
  have hother (d : ℕ × ℕ) (hd : d ≠ c) : [lower d, upper d].filter (·.IsOf c) = [] :=
    List.filter_eq_nil_iff.2 fun T hT h ↦ hd ((isOf_iff hT).1 (of_decide_eq_true h))
  obtain ⟨before, after, hsplit⟩ := List.append_of_mem (mem_gridCells.2 hc)
  have hnodup := nodup_gridCells (t := t)
  rw [hsplit, List.nodup_append, List.nodup_cons] at hnodup
  obtain ⟨-, ⟨hafter, -⟩, hbefore⟩ := hnodup
  have hnone (l : List (ℕ × ℕ)) (hl : c ∉ l) :
      (l.flatMap fun d ↦ [lower d, upper d]).filter (·.IsOf c) = [] := by
    rw [List.filter_flatMap, List.flatMap_eq_nil_iff]
    exact fun d hd ↦ hother d fun h ↦ hl (h ▸ hd)
  rw [gridTriangles, hsplit, List.flatMap_append, List.flatMap_cons, List.filter_append,
    List.filter_append, hnone before fun h ↦ hbefore c h c List.mem_cons_self rfl,
    hnone after hafter, List.nil_append, List.append_nil]
  exact List.filter_eq_self.2 fun T hT ↦ decide_eq_true ((isOf_iff hT).2 rfl)

/-- The edges of the two triangles of a cell. -/
theorem mem_edges_cell {e : (ℕ × ℕ) × (ℕ × ℕ)} : e ∈ [lower c, upper c].flatMap Triangle.edges ↔
    e = (c, (c.1 + 1, c.2)) ∨ e = ((c.1 + 1, c.2), (c.1 + 1, c.2 + 1)) ∨
    e = ((c.1 + 1, c.2 + 1), c) ∨ e = (c, (c.1 + 1, c.2 + 1)) ∨
    e = ((c.1 + 1, c.2 + 1), (c.1, c.2 + 1)) ∨ e = ((c.1, c.2 + 1), c) := by
  simp only [lower, upper, Triangle.edges, List.flatMap_cons, List.flatMap_nil, List.append_nil,
    List.cons_append, List.nil_append, List.mem_cons, List.not_mem_nil, or_false]

theorem edges_gridTriangles : (gridTriangles t).flatMap Triangle.edges =
    (gridCells t).flatMap fun c ↦ [lower c, upper c].flatMap Triangle.edges :=
  List.flatMap_assoc

theorem nodup_edges : ((gridTriangles t).flatMap Triangle.edges).Nodup := by
  rw [edges_gridTriangles]
  refine List.nodup_flatMap.2 ⟨fun c _ ↦ ?_, nodup_gridCells.imp fun {c d} hne e hc hd ↦ hne ?_⟩
  · obtain ⟨i, j⟩ := c
    simp [lower, upper, Triangle.edges]
  · obtain ⟨⟨i, j⟩, k, l⟩ := e
    obtain ⟨ci, cj⟩ := c
    obtain ⟨di, dj⟩ := d
    simp only [mem_edges_cell, Prod.mk.injEq] at hc hd ⊢
    omega

/-- The edges of the triangles of a grid. The border is gone along to the right at the bottom,
upwards on the right, to the left at the top, and downwards on the left. -/
inductive IsEdge (t : ℕ) : ℕ × ℕ → ℕ × ℕ → Prop
  /-- Along the lower side of a cell. -/
  | right {i j : ℕ} : i < t → j < t → IsEdge t (i, j) (i + 1, j)
  /-- Along the side of a cell on its right. -/
  | up {i j : ℕ} : 0 < i → i ≤ t → j < t → IsEdge t (i, j) (i, j + 1)
  /-- Along the upper side of a cell. -/
  | left {i j : ℕ} : i < t → 0 < j → j ≤ t → IsEdge t (i + 1, j) (i, j)
  /-- Along the side of a cell on its left. -/
  | down {i j : ℕ} : i < t → j < t → IsEdge t (i, j + 1) (i, j)
  /-- Along the diagonal of a cell. -/
  | forth {i j : ℕ} : i < t → j < t → IsEdge t (i, j) (i + 1, j + 1)
  /-- And back. -/
  | back {i j : ℕ} : i < t → j < t → IsEdge t (i + 1, j + 1) (i, j)

theorem mem_edges_iff : (p, q) ∈ (gridTriangles t).flatMap Triangle.edges ↔ IsEdge t p q := by
  rw [edges_gridTriangles, List.mem_flatMap]
  simp only [mem_gridCells, mem_edges_cell, Prod.mk.injEq]
  constructor
  · rintro ⟨⟨i, j⟩, ⟨hi, hj⟩, h⟩
    rcases h with ⟨rfl, rfl⟩ | ⟨rfl, rfl⟩ | ⟨rfl, rfl⟩ | ⟨rfl, rfl⟩ | ⟨rfl, rfl⟩ | ⟨rfl, rfl⟩
    · exact .right hi hj
    · exact .up i.succ_pos hi hj
    · exact .back hi hj
    · exact .forth hi hj
    · exact .left hi j.succ_pos hj
    · exact .down hi hj
  · intro h
    cases h with
    | @right i j hi hj => exact ⟨(i, j), ⟨hi, hj⟩, by simp⟩
    | @up i j h0 hi hj =>
      obtain ⟨i, rfl⟩ := Nat.exists_eq_succ_of_ne_zero h0.ne'
      exact ⟨(i, j), ⟨hi, hj⟩, by simp⟩
    | @left i j hi h0 hj =>
      obtain ⟨j, rfl⟩ := Nat.exists_eq_succ_of_ne_zero h0.ne'
      exact ⟨(i, j), ⟨hi, hj⟩, by simp⟩
    | @down i j hi hj => exact ⟨(i, j), ⟨hi, hj⟩, by simp⟩
    | @forth i j hi hj => exact ⟨(i, j), ⟨hi, hj⟩, by simp⟩
    | @back i j hi hj => exact ⟨(i, j), ⟨hi, hj⟩, by simp⟩

theorem count_eq_one (h : IsEdge t p q) :
    ((gridTriangles t).flatMap Triangle.edges).count (p, q) = 1 :=
  List.count_eq_one_of_mem nodup_edges (mem_edges_iff.2 h)

theorem count_eq_zero (h : ¬ IsEdge t p q) :
    ((gridTriangles t).flatMap Triangle.edges).count (p, q) = 0 :=
  List.count_eq_zero.2 (mt mem_edges_iff.1 h)

/-- A side on the border is an edge in one direction only. -/
theorem count_border (h : IsSide t p q) (hborder : OnBorder t p q) :
    ((gridTriangles t).flatMap Triangle.edges).count (p, q) +
      ((gridTriangles t).flatMap Triangle.edges).count (q, p) = 1 := by
  obtain ⟨i, j⟩ := p
  rcases h with ⟨rfl, hi, hj⟩ | ⟨rfl, hi, hj⟩ <;> simp only [OnBorder] at hi hj hborder
  · have hj : j = 0 ∨ j = t ∧ 0 < t := by omega
    rcases hj with rfl | ⟨rfl, hpos⟩
    · rw [count_eq_one (.right hi (by omega)), count_eq_zero fun h ↦ by cases h; omega]
    · rw [count_eq_one (.left hi hpos le_rfl), count_eq_zero fun h ↦ by cases h; omega]
  · have hi : i = 0 ∨ i = t ∧ 0 < t := by omega
    rcases hi with rfl | ⟨rfl, hpos⟩
    · rw [count_eq_one (.down (by omega) hj), count_eq_zero fun h ↦ by cases h; omega]
    · rw [count_eq_one (.up hpos le_rfl hj), count_eq_zero fun h ↦ by cases h; omega]

/-- The triangles of all cells tile the grid. -/
theorem tiles_gridTriangles (ht : 1 ≤ t) : Tiles t (gridTriangles t) where
  length := by
    rw [gridTriangles, length_flatMap_of_length_eq (n := 2) (fun _ _ ↦ rfl), length_gridCells]
    ring
  turn T hT := by
    obtain ⟨c, -, rfl | rfl⟩ := mem_gridTriangles.1 hT
    · exact turn_lower ▸ one_pos
    · exact turn_upper ▸ one_pos
  cell c h h' := filter_gridTriangles ⟨h, h'⟩
  covers x y := exists_covers ht
  apart := apart_gridTriangles
  nodup := nodup_edges
  edge p q h := by
    cases mem_edges_iff.1 h with
    | right hi hj => exact .inl (.inl ⟨rfl, hi, hj.le⟩)
    | up _ hi hj => exact .inl (.inr ⟨rfl, hi, hj⟩)
    | left hi _ hj => exact .inr (.inl (.inl ⟨rfl, hi, hj⟩))
    | down hi hj => exact .inr (.inl (.inr ⟨rfl, hi.le, hj⟩))
    | forth hi hj => exact .inr (.inr (.inl ⟨rfl, hi, hj⟩))
    | back hi hj => exact .inr (.inr (.inr ⟨rfl, hi, hj⟩))
  inner := by
    rintro ⟨i, j⟩ q (⟨rfl, hi, hj⟩ | ⟨rfl, hi, hj⟩) hinner <;>
      simp only [OnBorder] at hi hj hinner
    · exact ⟨count_eq_one (.right hi (by omega)), count_eq_one (.left hi (by omega) hj)⟩
    · exact ⟨count_eq_one (.up (by omega) hi hj), count_eq_one (.down (by omega) hj)⟩
  diagonal := by
    rintro p q ⟨rfl, hi, hj⟩
    exact ⟨count_eq_one (.forth hi hj), count_eq_one (.back hi hj)⟩
  border _ _ := count_border

/-! ### The index list of a face -/

/-- The number of the vertex at a grid point of a face whose vertices are numbered from `first` on,
row after row. -/
def vertexNumber (t first : ℕ) (p : ℕ × ℕ) : ℕ := first + p.2 * (t + 1) + p.1

/-- The grid point of the vertex of a number. -/
def gridPoint (t first v : ℕ) : ℕ × ℕ := ((v - first) % (t + 1), (v - first) / (t + 1))

variable {first : ℕ}

theorem gridPoint_vertexNumber (hp : p.1 ≤ t) : gridPoint t first (vertexNumber t first p) = p := by
  have hlt : p.1 < t + 1 := Nat.lt_succ_of_le hp
  rw [gridPoint, vertexNumber, Nat.add_assoc, Nat.add_sub_cancel_left, Nat.add_comm,
    Nat.add_mul_mod_self_right, Nat.mod_eq_of_lt hlt, Nat.add_mul_div_right _ _ t.succ_pos,
    Nat.div_eq_of_lt hlt, Nat.zero_add]

/-- The corners of a cell are those of its two triangles. -/
theorem cellIndices_eq : cellIndices t first c =
    [c, (c.1 + 1, c.2), (c.1 + 1, c.2 + 1), c, (c.1 + 1, c.2 + 1), (c.1, c.2 + 1)].map
      (vertexNumber t first) := by
  have hup : first + (c.2 + 1) * (t + 1) = first + c.2 * (t + 1) + (t + 1) := by ring
  simp only [cellIndices, vertexNumber, List.map_cons, List.map_nil, hup, List.cons.injEq, and_true,
    true_and]
  refine ⟨?_, ?_, ?_, ?_⟩ <;> ring

/-- The triangles of a face are those of its cells. -/
theorem map_gridPoint_faceIndices :
    (Triangle.ofCorners (faceIndices t first)).map (Triangle.map (gridPoint t first)) =
      gridTriangles t := by
  rw [faceIndices, gridTriangles]
  have hall : ∀ c ∈ gridCells t, c.1 < t ∧ c.2 < t := fun c ↦ mem_gridCells.1
  generalize gridCells t = cells at hall ⊢
  induction cells with
  | nil => rfl
  | cons c rest ih =>
    obtain ⟨hc, -⟩ := hall c List.mem_cons_self
    rw [List.flatMap_cons, List.flatMap_cons, ← ih fun d hd ↦ hall d (List.mem_cons_of_mem c hd),
      cellIndices_eq]
    simp only [List.map_cons, List.map_nil, List.cons_append, List.nil_append, Triangle.ofCorners,
      Triangle.map, gridPoint_vertexNumber (p := c) hc.le,
      gridPoint_vertexNumber (p := (c.1 + 1, c.2)) hc,
      gridPoint_vertexNumber (p := (c.1 + 1, c.2 + 1)) hc,
      gridPoint_vertexNumber (p := (c.1, c.2 + 1)) hc.le, lower, upper]

end RenderTargets.Shape
