import Mathlib.LinearAlgebra.CrossProduct
import Mathlib.Tactic.Module
import RenderTargets.Proofs.Shape.Mesh
import RenderTargets.Proofs.Shape.Triangulation
/-!
# Faces of boxes

In a mesh of boxes that was built, the triangles of each face tile the grid of the vertices of that
face, and there are no other triangles (`ShapeBuilder.faces_tiled`).

## Seen from outside

On the grid, all triangles turn left. In space that means: seen from where the normal of the face
points to, as the two axes of a face turn left around its normal (`Shape.Face.standing_eq`). And the
normal points outwards (`Shape.Face.normal_dot_exactPlace`). So all triangles of the mesh wind the
same way for a viewer outside of the box.

Positions are computed with rounding. What is said of space here is said of the same expression
`Shape.place` in fractions (`Shape.Face.exactPlace`), that is, of where the vertices lie if nothing
is rounded.
-/

namespace RenderTargets

/-! ### Space -/

namespace Single

/-- The number as a fraction, if it is finite. -/
def exact (x : Single) : ℚ :=
  (if x.isNegative then -1 else 1) * x.significand * (2 : ℚ) ^ x.exponent

theorem exact_zero : zero.exact = 0 := by
  have h : zero.significand = 0 := by decide
  rw [exact, h]
  simp

theorem exact_one : one.exact = 1 := by
  have h : one.significand = 2 ^ 23 := by decide
  have h' : one.exponent = -23 := by decide
  have h'' : one.isNegative = false := by decide
  rw [exact, h, h', h'']
  norm_num

theorem exact_negOne : negOne.exact = -1 := by
  have h : negOne.significand = 2 ^ 23 := by decide
  have h' : negOne.exponent = -23 := by decide
  have h'' : negOne.isNegative = true := by decide
  rw [exact, h, h', h'']
  norm_num

end Single

namespace Vec3

/-- The components as fractions. -/
def exact (v : Vec3) : Fin 3 → ℚ := fun k ↦ (v.component k).exact

theorem exact_eq (v : Vec3) : v.exact = ![v.x.exact, v.y.exact, v.z.exact] := by
  funext k
  fin_cases k <;> rfl

theorem component_mk (c : Fin 3 → Single) : (mk (c 0) (c 1) (c 2)).component = c := by
  funext k
  fin_cases k <;> rfl

end Vec3

namespace Shape

/-- Positions in fractions, where nothing is rounded. -/
instance : Coordinate ℚ where
  half := 1 / 2
  ofCount n := n
  size x := |x|
  larger := max

/-- The axes are the unit vectors and their opposites. -/
theorem exact_axes :
    (xAxis.exact = ![1, 0, 0] ∧ yAxis.exact = ![0, 1, 0] ∧ zAxis.exact = ![0, 0, 1]) ∧
      xAxisBack.exact = ![-1, 0, 0] ∧ yAxisBack.exact = ![0, -1, 0] ∧
      zAxisBack.exact = ![0, 0, -1] := by
  simp only [Vec3.exact_eq, xAxis, yAxis, zAxis, xAxisBack, yAxisBack, zAxisBack,
    Single.exact_zero, Single.exact_one, Single.exact_negOne, and_self]

theorem extentAlong_eq (axis extents : Fin 3 → ℚ) : extentAlong axis extents =
    max |axis 0 * extents 0| (max |axis 1 * extents 1| |axis 2 * extents 2|) := rfl

namespace Face

variable (f : Face) (extents : Fin 3 → ℚ) (t : ℕ)

/-- Where a grid point of a face of a box lies if nothing is rounded. -/
def exactPlace : ℕ × ℕ → Fin 3 → ℚ := place f.normal.exact f.u.exact f.v.exact extents t

/-- What stands on a triangle, on the side from which its corners turn left. -/
def standing (T : Triangle (ℕ × ℕ)) : Fin 3 → ℚ :=
  crossProduct (f.exactPlace extents t T.b - f.exactPlace extents t T.a)
    (f.exactPlace extents t T.c - f.exactPlace extents t T.a)

variable {f extents t}

theorem exactPlace_eq (p : ℕ × ℕ) : f.exactPlace extents t p =
    f.normal.exact * (1 / 2 : ℚ) • extents +
      (((p.1 : ℚ) / t - 1 / 2) * extentAlong f.u.exact extents) • f.u.exact +
      (((p.2 : ℚ) / t - 1 / 2) * extentAlong f.v.exact extents) • f.v.exact := by
  have hplace (k : Fin 3) : f.exactPlace extents t p k =
      f.normal.exact k * (extents k * (1 / 2)) +
        f.u.exact k * ((p.1 : ℚ) / t - 1 / 2) * extentAlong f.u.exact extents +
        f.v.exact k * ((p.2 : ℚ) / t - 1 / 2) * extentAlong f.v.exact extents := rfl
  funext k
  rw [hplace]
  simp only [Pi.add_apply, Pi.mul_apply, Pi.smul_apply, smul_eq_mul]
  ring

/-- The axes of a face turn left around its normal. -/
theorem cross_axes (hf : f ∈ faces) : crossProduct f.u.exact f.v.exact = f.normal.exact := by
  simp only [faces, List.mem_cons, List.not_mem_nil, or_false] at hf
  rcases hf with rfl | rfl | rfl | rfl | rfl | rfl <;>
    simp [exact_axes, cross_apply]

theorem exactPlace_sub (p q : ℕ × ℕ) : f.exactPlace extents t q - f.exactPlace extents t p =
    (((q.1 : ℚ) - p.1) / t * extentAlong f.u.exact extents) • f.u.exact +
      (((q.2 : ℚ) - p.2) / t * extentAlong f.v.exact extents) • f.v.exact := by
  rw [exactPlace_eq, exactPlace_eq]
  module

/-- What stands on a triangle is along the normal of the face. -/
theorem standing_eq (hf : f ∈ faces) (T : Triangle (ℕ × ℕ)) : f.standing extents t T =
    (T.turn / t ^ 2 * (extentAlong f.u.exact extents * extentAlong f.v.exact extents)) •
      f.normal.exact := by
  rw [standing, exactPlace_sub, exactPlace_sub, ← cross_axes hf]
  simp only [map_add, map_smul, LinearMap.add_apply, LinearMap.smul_apply, cross_self, smul_zero,
    zero_add, add_zero, Triangle.turn, leftOf]
  rw [← cross_anticomm f.u.exact f.v.exact]
  module

theorem extentAlong_pos {axis : Fin 3 → ℚ} (haxis : axis ≠ 0) (hextents : ∀ k, extents k ≠ 0) :
    0 < extentAlong axis extents := by
  obtain ⟨k, hk⟩ := Function.ne_iff.1 haxis
  have hpos : 0 < |axis k * extents k| := abs_pos.2 (mul_ne_zero hk (hextents k))
  rw [extentAlong_eq]
  fin_cases k
  · exact lt_max_of_lt_left hpos
  · exact lt_max_of_lt_right (lt_max_of_lt_left hpos)
  · exact lt_max_of_lt_right (lt_max_of_lt_right hpos)

/-- The axes are not zero, as their cross product is not. -/
theorem axes_ne_zero (hf : f ∈ faces) : f.u.exact ≠ 0 ∧ f.v.exact ≠ 0 := by
  have hnormal : f.normal.exact ≠ 0 := by
    simp only [faces, List.mem_cons, List.not_mem_nil, or_false] at hf
    rcases hf with rfl | rfl | rfl | rfl | rfl | rfl <;> simp [exact_axes]
  rw [← cross_axes hf] at hnormal
  refine ⟨fun h ↦ hnormal ?_, fun h ↦ hnormal ?_⟩
  · rw [h, map_zero, LinearMap.zero_apply]
  · rw [h, map_zero]

/-- The normal points away from the center of the box. -/
theorem normal_dot_exactPlace (hf : f ∈ faces) (hextents : ∀ k, 0 < extents k) (p : ℕ × ℕ) :
    0 < f.normal.exact ⬝ᵥ f.exactPlace extents t p := by
  have h0 := hextents 0
  have h1 := hextents 1
  have h2 := hextents 2
  rw [exactPlace_eq]
  simp only [faces, List.mem_cons, List.not_mem_nil, or_false] at hf
  rcases hf with rfl | rfl | rfl | rfl | rfl | rfl <;>
    simp [exact_axes, Matrix.vecHead, Matrix.vecTail, *]

end Face

namespace Triangle

variable {α β : Type}

theorem ofCorners_append {l l' : List α} (h : 3 ∣ l.length) :
    ofCorners (l ++ l') = ofCorners l ++ ofCorners l' := by
  induction l using ofCorners.induct with
  | case1 a b c rest ih =>
    rw [List.cons_append, List.cons_append, List.cons_append, ofCorners, ofCorners, ih,
      List.cons_append]
    simp only [List.length_cons] at h
    omega
  | case2 l hshort =>
    -- Fewer than three corners are none.
    rcases l with _ | ⟨a, _ | ⟨b, _ | ⟨c, rest⟩⟩⟩
    · rfl
    · simp at h
    · simp at h
    · exact (hshort a b c rest rfl).elim

/-- Lists of whole triangles put one after the other have the triangles of each of them. -/
theorem exists_mem_ofCorners_of_flatMap {f : α → List β} {l : List α} {T : Triangle β}
    (h : T ∈ ofCorners (l.flatMap f)) (hf : ∀ a ∈ l, 3 ∣ (f a).length) :
    ∃ a ∈ l, T ∈ ofCorners (f a) := by
  induction l with
  | nil => cases h
  | cons a rest ih =>
    rw [List.flatMap_cons, ofCorners_append (hf a List.mem_cons_self), List.mem_append] at h
    rcases h with h | h
    · exact ⟨a, List.mem_cons_self, h⟩
    · obtain ⟨c, hc, hT⟩ := ih h fun c hc ↦ hf c (List.mem_cons_of_mem a hc)
      exact ⟨c, List.mem_cons_of_mem a hc, hT⟩

end Triangle

end Shape

/-! ### Faces of a mesh -/

/-- The numbers that the indices store, in order. -/
def MeshDesc.storedIndices (m : MeshDesc) : List ℕ :=
  (List.range (m.indexData.length / m.indexType.size)).map m.indexAt

namespace ShapeBuilder

open Shape

variable (b : ShapeBuilder) (m : MeshDesc) (n : ℕ) (box : Box) (k : ℕ)

/-- How many vertices come before those of a face of a box. -/
def faceStart : ℕ :=
  countBefore boxVertexCount b.boxes n + k * ((box.tiles.toNat + 1) * (box.tiles.toNat + 1))

/-- The number of the first vertex of a face, which is what a word keeps of the vertices before. -/
def faceFirst : ℕ := b.faceStart n box k % UInt32.size

/-- The indices that the mesh stores for a face of a box. -/
def faceSlice : List ℕ :=
  let length := 6 * (box.tiles.toNat * box.tiles.toNat)
  (List.range' (countBefore boxIndexCount b.boxes n + k * length) length).map m.indexAt

/-- The triangles of a face of a box on the grid of its vertices. -/
def faceTriangles : List (Triangle (ℕ × ℕ)) :=
  (Triangle.ofCorners (b.faceSlice m n box k)).map
    (Triangle.map (gridPoint box.tiles.toNat (b.faceFirst n box k)))

/-- A vertex that was generated for a grid point of a face of a box. -/
structure IsPlaced (box : Box) (f : Shape.Face) (p : ℕ × ℕ) (v : Vertex) : Prop where
  /-- It is placed by the normal, the axes and the extents. -/
  position : v.position.component =
    place f.normal.component f.u.component f.v.component box.size.component box.tiles.toNat p
  /-- Its normal is that of the face. -/
  normal : v.normal = f.normal

/-- The triangles of a face of a box tile the grid of its vertices, and turn left around the normal
of the face, which points outwards. -/
structure IsTiled (f : Shape.Face) : Prop where
  /-- The mesh has the vertices of the grid points, row after row. -/
  row : ∀ p : ℕ × ℕ, p.1 ≤ box.tiles.toNat → p.2 ≤ box.tiles.toNat →
    ∃ v, IsPlaced box f p v ∧ (m.vertexData.drop
        (vertexNumber box.tiles.toNat (b.faceStart n box k) p * b.layout.span)).take
          b.layout.span = b.encodeVertex v
  /-- Their numbers are those of their rows if words count the vertices. -/
  first : b.vertices.length ≤ UInt32.size → b.faceFirst n box k = b.faceStart n box k
  /-- The indices are of these vertices. -/
  corner : ∀ v ∈ b.faceSlice m n box k, ∃ p : ℕ × ℕ, p.1 ≤ box.tiles.toNat ∧
    p.2 ≤ box.tiles.toNat ∧ v = vertexNumber box.tiles.toNat (b.faceFirst n box k) p
  /-- Each part of the grid is covered once, always turning left. -/
  tiles : Tiles box.tiles.toNat (b.faceTriangles m n box k)
  /-- So do the axes of the face around its normal. -/
  axes : crossProduct f.u.exact f.v.exact = f.normal.exact
  /-- In space, the corners of every triangle turn left around the normal. -/
  normal : ∀ T ∈ b.faceTriangles m n box k, ∀ extents, (∀ k, extents k ≠ 0) →
    ∃ r : ℚ, 0 < r ∧ f.standing extents box.tiles.toNat T = r • f.normal.exact
  /-- That is, if seen from outside of a box that has an inside. -/
  outward : ∀ T ∈ b.faceTriangles m n box k, ∀ extents, (∀ k, 0 < extents k) →
    0 < f.standing extents box.tiles.toNat T ⬝ᵥ f.exactPlace extents box.tiles.toNat T.a

variable {b m n box k}

theorem vertexAt_isPlaced (f : Shape.Face) (p : ℕ × ℕ) : IsPlaced box f p (vertexAt box f p) where
  position := Vec3.component_mk _
  normal := rfl

/-! ### Indices of a face -/

section Built

variable {indices : List UInt32} {groups : List Group}

theorem storedIndices_meshOf (h : b.indices? = some indices) :
    (b.meshOf indices groups).storedIndices = b.indices := by
  have hsize : 0 < (encodeIndices b.vertices.length indices).1.size := by
    rw [encodeIndices]
    split <;> exact Nat.succ_pos _
  have hlength : (b.meshOf indices groups).indexData.length /
      (b.meshOf indices groups).indexType.size = b.indices.length := by
    rw [← toNat_indices? h, List.length_map]
    exact (congrArg (· / _) length_encodeIndices).trans (Nat.mul_div_cancel _ hsize)
  rw [MeshDesc.storedIndices, hlength, List.range_eq_range',
    map_indexAt_meshOf h (Nat.zero_add _).le, List.drop_zero, List.take_length]

theorem faceSlice_meshOf (h : b.indices? = some indices) (hbox : b.boxes[n]? = some box)
    (hk : k < 6) : b.faceSlice (b.meshOf indices groups) n box k =
      faceIndices box.tiles.toNat (b.faceFirst n box k) := by
  obtain ⟨hn, rfl⟩ := List.getElem?_eq_some_iff.1 hbox
  set t := b.boxes[n].tiles.toNat with ht
  have hlength : (boxIndices b.boxes[n] (countBefore boxVertexCount b.boxes n)).length =
      boxIndexCount b.boxes[n] := length_boxIndices
  have hbox := slice_indicesFrom 0 hn
  rw [Nat.zero_add, ← hlength] at hbox
  have hface := slice_flatMap_of_length_eq (l := List.range 6)
    (f := fun k ↦ faceIndices t (b.faceFirst n b.boxes[n] k)) (n := 6 * (t * t))
    (fun _ _ ↦ length_faceIndices) (by simpa using hk)
  have hle : k * (6 * (t * t)) + 6 * (t * t) ≤ 6 * (6 * (t * t)) := rowEnd_le hk
  have hcount := countBefore_add_le boxIndexCount hn
  rw [boxIndexCount, ← ht] at hcount
  rw [List.getElem_range] at hface
  rw [faceSlice, ← ht, map_indexAt_meshOf h (by rw [length_indices]; omega)]
  refine (take_drop_of_slice _ hbox ?_).trans hface
  rw [hlength, boxIndexCount, ← ht]
  omega

theorem faceTriangles_meshOf (h : b.indices? = some indices) (hbox : b.boxes[n]? = some box)
    (hk : k < 6) :
    b.faceTriangles (b.meshOf indices groups) n box k = gridTriangles box.tiles.toNat := by
  rw [faceTriangles, faceSlice_meshOf h hbox hk, map_gridPoint_faceIndices]

end Built

/-- The vertices of a face follow one another as the points of its grid do. -/
theorem getElem?_vertices {f : Shape.Face} {p : ℕ × ℕ} (hbox : b.boxes[n]? = some box)
    (hface : faces[k]? = some f) (hp : p.1 ≤ box.tiles.toNat) (hp' : p.2 ≤ box.tiles.toNat) :
    b.vertices[vertexNumber box.tiles.toNat (b.faceStart n box k) p]? =
      some (vertexAt box f p) := by
  obtain ⟨hn, rfl⟩ := List.getElem?_eq_some_iff.1 hbox
  obtain ⟨hk, rfl⟩ := List.getElem?_eq_some_iff.1 hface
  obtain ⟨i, j⟩ := p
  set t := b.boxes[n].tiles.toNat with ht
  have hpoint : j * (t + 1) + i < (t + 1) * (t + 1) :=
    rowPlace_lt (Nat.lt_succ_of_le hp') (Nat.lt_succ_of_le hp)
  have hcount : k * ((t + 1) * (t + 1)) + (j * (t + 1) + i) < boxVertexCount b.boxes[n] :=
    rowPlace_lt hk hpoint
  have hbox := slice_flatMap (f := boxVertices) hn
  simp only [length_boxVertices] at hbox
  have hface := getElem?_flatMap_of_length_eq (n := (t + 1) * (t + 1))
    (f := fun f ↦ (gridPoints t).map (vertexAt b.boxes[n] f))
    (fun f _ ↦ by rw [List.length_map, length_gridPoints]) hk hpoint
  rw [vertexNumber, faceStart, Nat.add_assoc, Nat.add_assoc, ← ht, vertices, countBefore]
  refine (getElem?_of_slice (boxVertices b.boxes[n]) ?_ ?_).trans ?_
  · rwa [length_boxVertices]
  · rwa [length_boxVertices]
  · rw [boxVertices, ← ht, hface, List.getElem?_map, getElem?_gridPoints hp hp', Option.map_some]

theorem dvd_length_boxIndices {first : ℕ} : 3 ∣ (boxIndices box first).length := by
  rw [length_boxIndices, boxIndexCount]
  omega

/-- The triangles of boxes are those of one of them. -/
theorem exists_mem_ofCorners_indicesFrom {boxes : List Box} {first : ℕ} {T : Triangle ℕ}
    (h : T ∈ Triangle.ofCorners (indicesFrom first boxes)) :
    ∃ n box, boxes[n]? = some box ∧
      T ∈ Triangle.ofCorners (boxIndices box (first + countBefore boxVertexCount boxes n)) := by
  induction boxes generalizing first with
  | nil => cases h
  | cons c rest ih =>
    rw [indicesFrom, Triangle.ofCorners_append dvd_length_boxIndices, List.mem_append] at h
    rcases h with h | h
    · exact ⟨0, c, rfl, h⟩
    · obtain ⟨n, box, hbox, hT⟩ := ih h
      exact ⟨n + 1, box, hbox, by rwa [countBefore_cons_succ, ← Nat.add_assoc]⟩

/-- Every triangle of boxes is one of a face. -/
theorem exists_mem_faceIndices {T : Triangle ℕ} (h : T ∈ Triangle.ofCorners b.indices) :
    ∃ n box k, b.boxes[n]? = some box ∧ k < 6 ∧
      T ∈ Triangle.ofCorners (faceIndices box.tiles.toNat (b.faceFirst n box k)) := by
  obtain ⟨n, box, hbox, hT⟩ := exists_mem_ofCorners_indicesFrom h
  obtain ⟨k, hk, hT⟩ := Triangle.exists_mem_ofCorners_of_flatMap hT fun k _ ↦ by
    rw [length_faceIndices]
    omega
  rw [Nat.zero_add] at hT
  exact ⟨n, box, k, hbox, List.mem_range.1 hk, hT⟩

/-- The vertices of a face begin before the last vertex. -/
theorem faceStart_lt (hbox : b.boxes[n]? = some box) (hk : k < 6) :
    b.faceStart n box k < b.vertices.length := by
  obtain ⟨hn, rfl⟩ := List.getElem?_eq_some_iff.1 hbox
  have hcount := countBefore_add_le boxVertexCount hn
  have hpos : 0 < (b.boxes[n].tiles.toNat + 1) * (b.boxes[n].tiles.toNat + 1) :=
    Nat.mul_pos (Nat.succ_pos _) (Nat.succ_pos _)
  have hface := rowPlace_lt hk hpos
  rw [boxVertexCount] at hcount
  rw [length_vertices, faceStart]
  omega

/-- A face with cells is tiled. -/
theorem isTiled {f : Shape.Face} (hbuild : b.build = .ok m) (hbox : b.boxes[n]? = some box)
    (htiles : 1 ≤ box.tiles.toNat) (hface : faces[k]? = some f) : b.IsTiled m n box k f := by
  obtain ⟨-, -, indices, hindices, groups, -, -, rfl⟩ := build_eq_ok_iff.1 hbuild
  have hk : k < 6 := (List.getElem?_eq_some_iff.1 hface).1
  have hf : f ∈ faces := List.mem_of_getElem? hface
  have hpos : (0 : ℚ) < box.tiles.toNat := by exact_mod_cast htiles
  have htriangles : b.faceTriangles (b.meshOf indices groups) n box k =
      gridTriangles box.tiles.toNat := faceTriangles_meshOf hindices hbox hk
  have hturn (T) (hT : T ∈ b.faceTriangles (b.meshOf indices groups) n box k) : 0 < T.turn :=
    (tiles_gridTriangles htiles).turn T (htriangles ▸ hT)
  have hnormal (T) (hT : T ∈ b.faceTriangles (b.meshOf indices groups) n box k)
      (extents : Fin 3 → ℚ) (hextents : ∀ k, extents k ≠ 0) :
      ∃ r : ℚ, 0 < r ∧ f.standing extents box.tiles.toNat T = r • f.normal.exact := by
    obtain ⟨hu, hv⟩ := Face.axes_ne_zero hf
    exact ⟨_, mul_pos (div_pos (hturn T hT) (pow_pos hpos 2))
      (mul_pos (Face.extentAlong_pos hu hextents) (Face.extentAlong_pos hv hextents)),
      Face.standing_eq hf T⟩
  exact {
    row := fun p hp hp' ↦ by
      obtain ⟨hlt, hvertex⟩ := List.getElem?_eq_some_iff.1 (getElem?_vertices hbox hface hp hp')
      refine ⟨_, vertexAt_isPlaced f p, ?_⟩
      rw [← hvertex]
      exact slice_flatMap_of_length_eq (fun v _ ↦ b.length_encodeVertex v) hlt
    first := fun hcount ↦ Nat.mod_eq_of_lt ((faceStart_lt hbox hk).trans_le hcount)
    corner := fun v hv ↦ by
      rw [faceSlice_meshOf hindices hbox hk] at hv
      obtain ⟨i, hi, j, hj, rfl⟩ := exists_of_mem_faceIndices hv
      exact ⟨(i, j), hi, hj, rfl⟩
    tiles := htriangles ▸ tiles_gridTriangles htiles
    axes := Face.cross_axes hf
    normal := hnormal
    outward := fun T hT extents hextents ↦ by
      obtain ⟨r, hr, heq⟩ := hnormal T hT extents fun k ↦ (hextents k).ne'
      rw [heq, smul_dotProduct]
      exact mul_pos hr (Face.normal_dot_exactPlace hf hextents _) }

/-- **Every face is tiled once, with one orientation.** Take boxes with at least one tile along each
edge that were built. Then the mesh has the vertices of each face at its grid points, row after row;
the triangles it stores for the face are two for each cell, which meet at the diagonal of the cell;
they turn left on the grid, and around the outward normal in space; no edge is gone through twice in
one direction, inner edges and diagonals are gone through in both, and edges on the border in one.
The mesh has no other triangles. -/
theorem faces_tiled {b : ShapeBuilder} {m : MeshDesc} (hbuild : b.build = .ok m)
    (htiles : ∀ box ∈ b.boxes, 1 ≤ box.tiles.toNat) :
    (∀ n box k f, b.boxes[n]? = some box → faces[k]? = some f → b.IsTiled m n box k f) ∧
      ∀ T ∈ Triangle.ofCorners m.storedIndices, ∃ n box k, b.boxes[n]? = some box ∧ k < 6 ∧
        T ∈ Triangle.ofCorners (b.faceSlice m n box k) := by
  refine ⟨fun n box k f hbox hface ↦
    isTiled hbuild hbox (htiles box (List.mem_of_getElem? hbox)) hface, fun T hT ↦ ?_⟩
  obtain ⟨-, -, indices, hindices, groups, -, -, rfl⟩ := build_eq_ok_iff.1 hbuild
  rw [storedIndices_meshOf hindices] at hT
  obtain ⟨n, box, k, hbox, hk, hT⟩ := exists_mem_faceIndices hT
  exact ⟨n, box, k, hbox, hk, by rwa [faceSlice_meshOf hindices hbox hk]⟩

/-- A box of three by three cells on each face and one of one cell. -/
theorem faces_tiled_twoBoxes :
    let b : ShapeBuilder := { layout := [⟨.normal, .quad⟩, ⟨.position, .triple⟩],
                              boxes := [.ofSize .one .half .one 3, .ofSize .one .one .one 0] }
    ∃ m, b.build = .ok m ∧
      (∀ n box k f, b.boxes[n]? = some box → faces[k]? = some f → b.IsTiled m n box k f) ∧
      ∀ T ∈ Triangle.ofCorners m.storedIndices, ∃ n box k, b.boxes[n]? = some box ∧ k < 6 ∧
        T ∈ Triangle.ofCorners (b.faceSlice m n box k) := by
  intro b
  have hbuild : b.build = .ok b.mesh :=
    build_eq_ok (by decide) (by decide) ⟨by decide, by decide, by decide⟩
  exact ⟨b.mesh, hbuild, faces_tiled hbuild (by decide)⟩

end ShapeBuilder

end RenderTargets
