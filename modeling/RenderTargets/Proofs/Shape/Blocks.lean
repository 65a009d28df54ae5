import Mathlib.Tactic.Ring
import RenderTargets.Proofs.Lists
import RenderTargets.Proofs.Number.Word
import RenderTargets.Shape.Builder
/-!
# Blocks of vertices and indices

Boxes are built one after another, and so are the faces of a box and the rows of a face. So each of
them has a block of the vertices and one of the indices, which begin where the blocks before them
end (`Shape.countBefore`), and the indices of a box are of the vertices in its own block
(`Shape.mem_boxIndices`).

## Indices as words and as numbers

Indices are computed in words. As numbers they are those of `Shape.cellIndices`, where the first
vertex of a face is what a word keeps of its number (`ShapeBuilder.toNat_indices?`). They exist as
long as words count the vertices (`ShapeBuilder.exists_indices?`), and then nothing is cut off.
-/

namespace RenderTargets

/-! ### Faces and boxes -/

namespace Shape

variable {b : Box} {t first v : ℕ}

theorem length_gridPoints : (gridPoints t).length = (t + 1) * (t + 1) := by
  rw [gridPoints, length_flatMap_of_length_eq (n := t + 1) (by simp), List.length_range]

/-- Grid points are listed row after row. -/
theorem getElem?_gridPoints {i j : ℕ} (hi : i ≤ t) (hj : j ≤ t) :
    (gridPoints t)[j * (t + 1) + i]? = some (i, j) := by
  have hi' : i < t + 1 := Nat.lt_succ_of_le hi
  have hj' : j < t + 1 := Nat.lt_succ_of_le hj
  rw [gridPoints, getElem?_flatMap_of_length_eq (by simp) (by simpa using hj') hi']
  simp [hi']

theorem length_gridCells : (gridCells t).length = t * t := by
  rw [gridCells, length_flatMap_of_length_eq (n := t) (by simp), List.length_range]

theorem mem_gridCells {c : ℕ × ℕ} : c ∈ gridCells t ↔ c.1 < t ∧ c.2 < t := by
  simp only [gridCells, List.mem_flatMap, List.mem_map, List.mem_range]
  constructor
  · rintro ⟨j, hj, i, hi, rfl⟩
    exact ⟨hi, hj⟩
  · exact fun h ↦ ⟨c.2, h.2, c.1, h.1, rfl⟩

theorem length_boxVertices (b : Box) : (boxVertices b).length = boxVertexCount b := by
  rw [boxVertices, length_flatMap_of_length_eq (n := (b.tiles.toNat + 1) * (b.tiles.toNat + 1))
    (fun f _ ↦ by rw [List.length_map, length_gridPoints]), boxVertexCount]
  rfl

/-! ### Indices as numbers -/

/-- The six corners of the two triangles of a cell, for a face whose first vertex is `first`. -/
def cellIndices (tiles first : ℕ) (c : ℕ × ℕ) : List ℕ :=
  let row := tiles + 1
  let a := first + c.2 * row + c.1
  [a, a + 1, a + row + 1, a, a + row + 1, a + row]

/-- The indices of a face whose first vertex is `first`. -/
def faceIndices (tiles first : ℕ) : List ℕ := (gridCells tiles).flatMap (cellIndices tiles first)

/-- The indices of a box with so many vertices before its own. -/
def boxIndices (b : Box) (before : ℕ) : List ℕ :=
  let perFace := (b.tiles.toNat + 1) * (b.tiles.toNat + 1)
  (List.range 6).flatMap fun k ↦
    faceIndices b.tiles.toNat ((before + k * perFace) % UInt32.size)

section Words

variable {tiles w : UInt32} {c : ℕ × ℕ} {l : List UInt32}

/-- A cell has indices in words if there is a word for the last of its corners. -/
theorem exists_cellIndices? (hc : c.1 < tiles.toNat) (hc' : c.2 < tiles.toNat)
    (h : w.toNat + (c.2 + 1) * (tiles.toNat + 1) + c.1 + 1 < UInt32.size) :
    ∃ l, cellIndices? tiles w c = some l := by
  have hlt := tiles.toNat_lt_size
  have hup : (c.2 + 1) * (tiles.toNat + 1) = c.2 * (tiles.toNat + 1) + (tiles.toNat + 1) := by ring
  have hi : (UInt32.ofNat c.1).toNat = c.1 := UInt32.toNat_ofNat_of_lt' (hc.trans hlt)
  have hj : (UInt32.ofNat c.2).toNat = c.2 := UInt32.toNat_ofNat_of_lt' (hc'.trans hlt)
  rw [hup] at h
  obtain ⟨row, hrow, hrow'⟩ := Word.exists_add? (a := tiles) (b := 1) (by simp; omega)
  rw [UInt32.toNat_one] at hrow'
  obtain ⟨below, hbelow, hbelow'⟩ := Word.exists_mul? (a := .ofNat c.2) (b := row) (by
    rw [hj, hrow']; omega)
  rw [hj, hrow'] at hbelow'
  obtain ⟨start, hstart, hstart'⟩ := Word.exists_add? (a := w) (b := below) (by omega)
  obtain ⟨a, ha, ha'⟩ := Word.exists_add? (a := start) (b := .ofNat c.1) (by omega)
  obtain ⟨b, hb, -⟩ := Word.exists_add? (a := a) (b := 1) (by simp; omega)
  obtain ⟨d, hd, hd'⟩ := Word.exists_add? (a := a) (b := row) (by omega)
  obtain ⟨e, he, -⟩ := Word.exists_add? (a := d) (b := 1) (by simp; omega)
  exact ⟨[a, b, e, a, e, d], by simp [cellIndices?, hrow, hbelow, hstart, ha, hb, hd, he]⟩

/-- The indices of a cell in words are its indices. -/
theorem toNat_cellIndices? (hc : c.1 < tiles.toNat) (hc' : c.2 < tiles.toNat)
    (h : cellIndices? tiles w c = some l) :
    l.map (·.toNat) = cellIndices tiles.toNat w.toNat c := by
  have hlt := tiles.toNat_lt_size
  have hi : (UInt32.ofNat c.1).toNat = c.1 := UInt32.toNat_ofNat_of_lt' (hc.trans hlt)
  have hj : (UInt32.ofNat c.2).toNat = c.2 := UInt32.toNat_ofNat_of_lt' (hc'.trans hlt)
  simp only [cellIndices?, bind, Option.bind_eq_some_iff, Word.add?_eq_some_iff,
    Word.mul?_eq_some_iff, UInt32.toNat_one, hi, hj] at h
  obtain ⟨row, hrow, below, hbelow, start, hstart, a, ha, b, hb, d, hd, e, he, hl⟩ := h
  obtain rfl : [a, b, e, a, e, d] = l := Option.some.inj hl
  simp only [List.map_cons, List.map_nil, cellIndices, hb, he, hd, ha, hstart, hbelow, hrow]

theorem exists_faceIndices?
    (h : w.toNat + (tiles.toNat + 1) * (tiles.toNat + 1) ≤ UInt32.size) :
    ∃ l, faceIndices? tiles w = some l := by
  refine exists_flatten_mapM fun c hc ↦ ?_
  obtain ⟨hi, hj⟩ := mem_gridCells.1 hc
  have hlast : (c.2 + 1) * (tiles.toNat + 1) + (tiles.toNat + 1) ≤
      (tiles.toNat + 1) * (tiles.toNat + 1) := rowEnd_le (Nat.succ_lt_succ hj)
  exact exists_cellIndices? hi hj (by omega)

theorem toNat_faceIndices? (h : faceIndices? tiles w = some l) :
    l.map (·.toNat) = faceIndices tiles.toNat w.toNat := by
  refine map_of_flatten_mapM (fun c hc r hr ↦ ?_) h
  obtain ⟨hi, hj⟩ := mem_gridCells.1 hc
  exact toNat_cellIndices? hi hj hr

theorem exists_boxIndices? {before : ℕ} (h : before + boxVertexCount b ≤ UInt32.size) :
    ∃ l, boxIndices? b before = some l := by
  refine exists_flatten_mapM fun k hk ↦ exists_faceIndices? ?_
  have hlast := rowEnd_le (n := (b.tiles.toNat + 1) * (b.tiles.toNat + 1)) (List.mem_range.1 hk)
  have hpos : 0 < (b.tiles.toNat + 1) * (b.tiles.toNat + 1) := Nat.mul_pos (by omega) (by omega)
  rw [boxVertexCount] at h
  rw [UInt32.toNat_ofNat_of_lt' (by omega)]
  omega

theorem toNat_boxIndices? {before : ℕ} (h : boxIndices? b before = some l) :
    l.map (·.toNat) = boxIndices b before :=
  map_of_flatten_mapM (fun _ _ _ hr ↦ toNat_faceIndices? hr) h

end Words

/-! ### Blocks of indices -/

theorem length_faceIndices : (faceIndices t first).length = 6 * (t * t) := by
  rw [faceIndices, length_flatMap_of_length_eq (n := 6) (fun _ _ ↦ rfl), length_gridCells,
    Nat.mul_comm]

theorem length_boxIndices : (boxIndices b first).length = boxIndexCount b := by
  rw [boxIndices, length_flatMap_of_length_eq (n := 6 * (b.tiles.toNat * b.tiles.toNat))
    (fun _ _ ↦ length_faceIndices), List.length_range, boxIndexCount, ← Nat.mul_assoc]

/-- The indices of a face are of its grid points. -/
theorem exists_of_mem_faceIndices (h : v ∈ faceIndices t first) :
    ∃ i ≤ t, ∃ j ≤ t, v = first + j * (t + 1) + i := by
  obtain ⟨⟨i, j⟩, hc, hv⟩ := List.mem_flatMap.1 h
  obtain ⟨hi, hj⟩ := mem_gridCells.1 hc
  have hup : first + (j + 1) * (t + 1) = first + j * (t + 1) + (t + 1) := by ring
  simp only [cellIndices, List.mem_cons, List.not_mem_nil, or_false] at hv
  rcases hv with rfl | rfl | rfl | rfl | rfl | rfl
  · exact ⟨i, by omega, j, by omega, rfl⟩
  · exact ⟨i + 1, hi, j, by omega, rfl⟩
  · exact ⟨i + 1, hi, j + 1, hj, by omega⟩
  · exact ⟨i, by omega, j, by omega, rfl⟩
  · exact ⟨i + 1, hi, j + 1, hj, by omega⟩
  · exact ⟨i, by omega, j + 1, hj, by omega⟩

/-- The indices of a box are of its own vertices, if words count them. -/
theorem mem_boxIndices (hcount : first + boxVertexCount b ≤ UInt32.size)
    (h : v ∈ boxIndices b first) : first ≤ v ∧ v < first + boxVertexCount b := by
  obtain ⟨k, hk, hv⟩ := List.mem_flatMap.1 h
  obtain ⟨i, hi, j, hj, rfl⟩ := exists_of_mem_faceIndices hv
  have hi : i < b.tiles.toNat + 1 := Nat.lt_succ_of_le hi
  have hj : j < b.tiles.toNat + 1 := Nat.lt_succ_of_le hj
  have hpoint := rowPlace_lt hj hi
  have hface := rowPlace_lt (List.mem_range.1 hk) hpoint
  rw [boxVertexCount] at hcount ⊢
  rw [Nat.mod_eq_of_lt (by omega)]
  omega

/-! ### Blocks before a box -/

/-- What is counted for each box, of the boxes before the one at `n`. -/
def countBefore (count : Box → ℕ) (boxes : List Box) (n : ℕ) : ℕ := ((boxes.take n).map count).sum

variable {count : Box → ℕ} {boxes : List Box} {n : ℕ}

theorem countBefore_succ (h : n < boxes.length) :
    countBefore count boxes (n + 1) = countBefore count boxes n + count boxes[n] := by
  rw [countBefore, countBefore, List.take_add_one, List.getElem?_eq_getElem h, List.map_append,
    List.sum_append]
  simp

theorem countBefore_cons_succ :
    countBefore count (b :: boxes) (n + 1) = count b + countBefore count boxes n := by
  rw [countBefore, List.take_succ_cons, List.map_cons, List.sum_cons, countBefore]

theorem countBefore_le {m : ℕ} (h : n ≤ m) :
    countBefore count boxes n ≤ countBefore count boxes m := by
  obtain ⟨k, rfl⟩ := Nat.exists_eq_add_of_le h
  rw [countBefore, countBefore, List.take_add, List.map_append, List.sum_append]
  exact Nat.le_add_right _ _

end Shape

namespace ShapeBuilder

open Shape

variable {b : ShapeBuilder} {boxes : List Box} {first n v : ℕ}

/-- A number that is counted for each box, of all boxes together. -/
def total (b : ShapeBuilder) (count : Box → ℕ) : ℕ := (b.boxes.map count).sum

theorem countBefore_length (count : Box → ℕ) :
    countBefore count b.boxes b.boxes.length = b.total count := by
  rw [countBefore, List.take_length, total]

theorem countBefore_add_le (count : Box → ℕ) (h : n < b.boxes.length) :
    countBefore count b.boxes n + count b.boxes[n] ≤ b.total count := by
  rw [← countBefore_succ h, ← countBefore_length]
  exact countBefore_le h

/-! ### Indices -/

/-- The indices of boxes with so many vertices before theirs. -/
def indicesFrom : (before : ℕ) → List Box → List ℕ
  | _, [] => []
  | before, b :: rest => boxIndices b before ++ indicesFrom (before + boxVertexCount b) rest

/-- The indices of all boxes. -/
def indices (b : ShapeBuilder) : List ℕ := indicesFrom 0 b.boxes

theorem exists_indicesFrom?
    (h : first + (boxes.map boxVertexCount).sum ≤ UInt32.size) :
    ∃ l, indicesFrom? first boxes = some l := by
  induction boxes generalizing first with
  | nil => exact ⟨[], rfl⟩
  | cons c rest ih =>
    rw [List.map_cons, List.sum_cons] at h
    obtain ⟨l, hl⟩ : ∃ l, boxIndices? c first = some l := exists_boxIndices? (by omega)
    obtain ⟨l', hl'⟩ : ∃ l, indicesFrom? (first + boxVertexCount c) rest = some l := ih (by omega)
    exact ⟨l ++ l', by simp [indicesFrom?, hl, hl']⟩

theorem toNat_indicesFrom? {l : List UInt32} (h : indicesFrom? first boxes = some l) :
    l.map (·.toNat) = indicesFrom first boxes := by
  induction boxes generalizing first l with
  | nil =>
    obtain rfl : [] = l := Option.some.inj h
    rfl
  | cons c rest ih =>
    obtain ⟨box, hbox, others, hothers, rfl⟩ : ∃ box, boxIndices? c first = some box ∧
        ∃ others, indicesFrom? (first + boxVertexCount c) rest = some others ∧
          box ++ others = l := by
      simpa [indicesFrom?, Option.bind_eq_some_iff] using h
    rw [List.map_append, toNat_boxIndices? hbox, ih hothers, indicesFrom]

/-- Indices exist as long as words count the vertices. -/
theorem exists_indices? (h : b.total boxVertexCount ≤ UInt32.size) :
    ∃ l, b.indices? = some l :=
  exists_indicesFrom? (by rwa [Nat.zero_add])

theorem toNat_indices? {l : List UInt32} (h : b.indices? = some l) :
    l.map (·.toNat) = b.indices :=
  toNat_indicesFrom? h

theorem length_indicesFrom :
    (indicesFrom first boxes).length = (boxes.map boxIndexCount).sum := by
  induction boxes generalizing first with
  | nil => rfl
  | cons c rest ih =>
    rw [indicesFrom, List.length_append, length_boxIndices, ih, List.map_cons, List.sum_cons]

theorem length_indices : b.indices.length = b.total boxIndexCount := length_indicesFrom

/-- The indices of a box begin after those of the boxes before it, and count from the first of its
vertices. -/
theorem slice_indicesFrom (first : ℕ) (h : n < boxes.length) :
    ((indicesFrom first boxes).drop (countBefore boxIndexCount boxes n)).take
        (boxIndexCount boxes[n]) =
      boxIndices boxes[n] (first + countBefore boxVertexCount boxes n) := by
  induction boxes generalizing first n with
  | nil => cases h
  | cons c rest ih =>
    rw [indicesFrom]
    cases n with
    | zero =>
      rw [List.getElem_cons_zero]
      exact List.take_left' length_boxIndices
    | succ n =>
      rw [countBefore_cons_succ, countBefore_cons_succ, List.getElem_cons_succ, ← Nat.add_assoc,
        ← List.drop_drop, List.drop_left' length_boxIndices]
      exact ih _ (Nat.lt_of_succ_lt_succ h)

/-- The indices of boxes are of their vertices, if words count these. -/
theorem lt_of_mem_indicesFrom (hcount : first + (boxes.map boxVertexCount).sum ≤ UInt32.size)
    (h : v ∈ indicesFrom first boxes) : v < first + (boxes.map boxVertexCount).sum := by
  induction boxes generalizing first with
  | nil => cases h
  | cons c rest ih =>
    rw [List.map_cons, List.sum_cons] at hcount ⊢
    rcases List.mem_append.1 h with h | h
    · have := mem_boxIndices (by omega) h
      omega
    · have := ih (by omega) h
      omega

/-! ### Vertices -/

theorem length_vertices : b.vertices.length = b.total boxVertexCount := by
  rw [vertices, List.length_flatMap]
  simp only [length_boxVertices]
  rfl

theorem length_encode (b : ShapeBuilder) (v : Vertex) (c : VertexComponent) :
    (b.encode v c).length = c.format.size := by
  rw [encode]
  cases c.format <;> rfl

theorem length_encodeVertex (b : ShapeBuilder) (v : Vertex) :
    (b.encodeVertex v).length = b.layout.span := by
  rw [encodeVertex, List.length_flatMap]
  simp only [length_encode]
  rfl

theorem length_vertexData (b : ShapeBuilder) :
    (b.vertices.flatMap b.encodeVertex).length = b.total boxVertexCount * b.layout.span := by
  rw [length_flatMap_of_length_eq fun v _ ↦ b.length_encodeVertex v, length_vertices]

end ShapeBuilder

end RenderTargets
