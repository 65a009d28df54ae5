import RenderTargets.Proofs.Device.Fetches
import RenderTargets.Proofs.Shape.Blocks
/-!
# Meshes of boxes

Boxes are built if their indices and groups are words and a vertex has a length
(`ShapeBuilder.build_eq_ok_iff`). Boxes whose counts are words are (`ShapeBuilder.build_eq_ok`), and
what is built then passes the checks of meshes. Its groups follow one another, one for each box, and
each fetches the indices of its box, so that it fetches vertices of that box only
(`MeshDesc.IsOfBoxes`).

## Stored indices

An index is stored in two bytes if these can count the vertices, that is for `2 ^ 16` vertices at
most. So it is below what two bytes hold whenever it is stored in two, and nothing is cut off
(`ShapeBuilder.indexAt_encodeIndices`).
-/

namespace RenderTargets

open Shape

/-! ### Stored indices -/

namespace Word

/-- Two bytes, read as digits, are the word. -/
theorem ofDigits_shortBytes (w : UInt16) :
    Nat.ofDigits 256 ((shortBytes w).map (·.toNat)) = w.toNat := by
  have hw := w.toNat_lt
  simp only [shortBytes, List.map_cons, List.map_nil, Nat.ofDigits_cons, Nat.ofDigits_nil,
    UInt16.toNat_toUInt8, UInt16.toNat_shiftRight, Nat.shiftRight_eq_div_pow,
    UInt16.reduceToNat, Nat.reduceMod, Nat.reducePow]
  omega

end Word

namespace ShapeBuilder

variable {b : ShapeBuilder} {boxes : List Box} {base n : ℕ}

/-- Every way of storing an index has a length. -/
theorem length_encodeIndices {count : ℕ} {l : List UInt32} :
    (encodeIndices count l).2.length = l.length * (encodeIndices count l).1.size := by
  rw [encodeIndices]
  split
  · exact length_flatMap_of_length_eq fun _ _ ↦ rfl
  · exact length_flatMap_of_length_eq fun _ _ ↦ rfl

/-- Indices are stored as they are, if those stored in two bytes have no more. -/
theorem indexAt_encodeIndices {m : MeshDesc} {c : ℕ} {l : List UInt32}
    (hl : c ≤ 65536 → ∀ w ∈ l, w.toNat < 65536) (htype : m.indexType = (encodeIndices c l).1)
    (hdata : m.indexData = (encodeIndices c l).2) {i : ℕ} (hi : i < l.length) :
    m.indexAt i = l[i].toNat := by
  rw [encodeIndices] at htype hdata
  split at htype
  · next hshort =>
    rw [if_pos hshort] at hdata
    have hslice := slice_flatMap_of_length_eq
      (f := fun w : UInt32 ↦ Word.shortBytes w.toUInt16) (n := 2) (fun _ _ ↦ rfl) hi
    have hword : l[i].toUInt16.toNat = l[i].toNat := by
      rw [UInt32.toNat_toUInt16]
      exact Nat.mod_eq_of_lt (hl hshort _ (List.getElem_mem hi))
    simp only [MeshDesc.indexAt, htype, hdata, IndexType.size, hslice, Word.ofDigits_shortBytes,
      hword]
  · next hshort =>
    rw [if_neg hshort] at hdata
    have hslice := slice_flatMap_of_length_eq (f := Word.bytes) (n := 4) (fun _ _ ↦ rfl) hi
    simp only [MeshDesc.indexAt, htype, hdata, IndexType.size, hslice, Word.ofDigits_bytes]

/-! ### What is built -/

/-- The mesh of the boxes with given indices and groups. -/
def meshOf (b : ShapeBuilder) (indices : List UInt32) (groups : List Group) : MeshDesc :=
  let stored := encodeIndices b.vertices.length indices
  { name := "shape"
    layout := b.layout
    vertexCount := .ofNat b.vertices.length
    vertexData := b.vertices.flatMap b.encodeVertex
    indexType := stored.1
    indexCount := .ofNat indices.length
    indexData := stored.2
    primitive := .triangles
    groups }

theorem indexOf?_isNone_eq_false {l : VertexLayout} (h : ∃ c ∈ l, c.attr = .position) :
    (VertexLayout.indexOf? l .position).isNone = false := by
  obtain ⟨c, hc, hattr⟩ := h
  rw [Option.isNone_eq_false_iff, VertexLayout.indexOf?, List.findIdx?_isSome]
  exact List.any_eq_true.2 ⟨c, hc, by simp [hattr]⟩

theorem stride?_eq_some {l : VertexLayout} (h : l.span < UInt32.size) :
    l.stride? = some (.ofNat l.span) :=
  if_pos h

theorem span_lt_of_isSome {l : VertexLayout} (h : (VertexLayout.stride? l).isSome) :
    l.span < UInt32.size := by
  by_contra hspan
  rw [show VertexLayout.stride? l = none from if_neg hspan] at h
  cases h

theorem exists_position_of_isNone {l : VertexLayout}
    (h : (VertexLayout.indexOf? l .position).isNone = false) : ∃ c ∈ l, c.attr = .position := by
  rw [Option.isNone_eq_false_iff, VertexLayout.indexOf?, List.findIdx?_isSome] at h
  obtain ⟨c, hc, hattr⟩ := List.any_eq_true.1 h
  exact ⟨c, hc, by simpa using hattr⟩

/-- Boxes are built if their indices and groups exist, and a vertex has a length. -/
theorem build_eq_ok_iff {m : MeshDesc} : b.build = .ok m ↔
    (∃ c ∈ b.layout, c.attr = .position) ∧ b.boxes ≠ [] ∧
      ∃ indices, b.indices? = some indices ∧ ∃ groups, groupsFrom? 0 b.boxes = some groups ∧
        b.layout.span < UInt32.size ∧ b.meshOf indices groups = m := by
  have hposition : ¬ (VertexLayout.indexOf? b.layout .position).isNone ↔
      ∃ c ∈ b.layout, c.attr = .position := by
    rw [Bool.not_eq_true]
    exact ⟨exists_position_of_isNone, indexOf?_isNone_eq_false⟩
  have hboxes : ¬ b.boxes.isEmpty ↔ b.boxes ≠ [] := by simp
  have hstride : (∃ w, VertexLayout.stride? b.layout = some w) ↔ b.layout.span < UInt32.size :=
    ⟨fun ⟨w, hw⟩ ↦ span_lt_of_isSome (by rw [hw]; rfl), fun h ↦ ⟨_, stride?_eq_some h⟩⟩
  simp only [build, throw_bind_eq_ok_iff, ofOption_bind_eq_ok_iff, hposition, hboxes]
  constructor
  · rintro ⟨hposition, hboxes, indices, hindices, groups, hgroups, w, hw, hm⟩
    exact ⟨hposition, hboxes, indices, hindices, groups, hgroups, hstride.1 ⟨w, hw⟩,
      Except.ok.inj hm⟩
  · rintro ⟨hposition, hboxes, indices, hindices, groups, hgroups, hspan, rfl⟩
    exact ⟨hposition, hboxes, indices, hindices, groups, hgroups, _, stride?_eq_some hspan, rfl⟩

/-- Boxes with a position trap if something of them is no word. -/
theorem build_eq_trap (hposition : ∃ c ∈ b.layout, c.attr = .position) (hboxes : b.boxes ≠ [])
    (h : b.indices? = none ∨ groupsFrom? 0 b.boxes = none ∨
      VertexLayout.stride? b.layout = none) : b.build = .error .trap := by
  have hempty : b.boxes.isEmpty = false := List.isEmpty_eq_false_iff.2 hboxes
  simp only [build, indexOf?_isNone_eq_false hposition, hempty]
  cases hindices : b.indices? with
  | none => rfl
  | some indices =>
    cases hgroups : groupsFrom? 0 b.boxes with
    | none => rfl
    | some groups =>
      have hstride : VertexLayout.stride? b.layout = none := by simpa [hindices, hgroups] using h
      rw [hstride]
      rfl

/-- So they are built or trap. -/
theorem exists_build_of_ne_trap (hposition : ∃ c ∈ b.layout, c.attr = .position)
    (hboxes : b.boxes ≠ []) (h : b.build ≠ .error .trap) : ∃ m, b.build = .ok m := by
  have hwords := mt (build_eq_trap hposition hboxes) h
  push Not at hwords
  obtain ⟨hindices, hgroups, hstride⟩ := hwords
  obtain ⟨indices, hindices⟩ := Option.ne_none_iff_exists'.1 hindices
  obtain ⟨groups, hgroups⟩ := Option.ne_none_iff_exists'.1 hgroups
  exact ⟨_, build_eq_ok_iff.2 ⟨hposition, hboxes, indices, hindices, groups, hgroups,
    span_lt_of_isSome (Option.isSome_iff_ne_none.2 hstride), rfl⟩⟩

/-! ### Indices of what is built -/

section Built

variable {indices : List UInt32} {groups : List Group} {i start length : ℕ}

theorem indexType_meshOf_ne_absent : (b.meshOf indices groups).indexType ≠ .absent := by
  simp only [meshOf, encodeIndices]
  split <;> exact nofun

/-- Two bytes hold the indices of as many vertices as they can count. -/
theorem indexAt_meshOf (h : b.indices? = some indices) (hi : i < b.indices.length) :
    (b.meshOf indices groups).indexAt i = b.indices[i] := by
  have hwords := toNat_indices? h
  have hlength : i < indices.length := by
    rwa [← hwords, List.length_map] at hi
  have hindex : indices[i].toNat = b.indices[i] := by
    simp only [← hwords, List.getElem_map]
  rw [← hindex]
  refine indexAt_encodeIndices (fun hshort w hw ↦ ?_) rfl rfl hlength
  rw [length_vertices] at hshort
  have hmem : w.toNat ∈ b.indices := hwords ▸ List.mem_map_of_mem hw
  have hlt := lt_of_mem_indicesFrom (by rw [Nat.zero_add]; exact hshort.trans (by decide)) hmem
  rw [Nat.zero_add] at hlt
  exact hlt.trans_le hshort

/-- Indices that follow one another are a part of all indices. -/
theorem map_indexAt_meshOf (h : b.indices? = some indices)
    (hle : start + length ≤ b.indices.length) :
    (List.range' start length).map (b.meshOf indices groups).indexAt =
      (b.indices.drop start).take length := by
  refine List.ext_getElem ?_ fun i hi hi' ↦ ?_
  · rw [List.length_map, List.length_range', List.length_take, List.length_drop]
    omega
  · rw [List.length_map, List.length_range'] at hi
    rw [List.getElem_map, List.getElem_range', Nat.one_mul, indexAt_meshOf h (by omega),
      List.getElem_take, List.getElem_drop]

end Built

end ShapeBuilder

/-! ### Groups -/

/-- The elements of a group, in order. -/
def Group.elements (g : Group) : List ℕ := List.range' g.base.toNat g.count.toNat

namespace ShapeBuilder

variable {b : ShapeBuilder} {boxes : List Box} {base n : ℕ}

/-- There is a group for each box. -/
theorem length_of_groupsFrom? {groups : List Group} (h : groupsFrom? base boxes = some groups) :
    groups.length = boxes.length := by
  induction boxes generalizing base groups with
  | nil =>
    obtain rfl : [] = groups := Option.some.inj h
    rfl
  | cons c rest ih =>
    obtain ⟨count, -, others, hothers, rfl⟩ : ∃ count, Word.sub? (.ofNat (base + boxIndexCount c))
        (.ofNat base) = some count ∧ ∃ others, groupsFrom? (base + boxIndexCount c) rest =
          some others ∧ ⟨.ofNat base, count⟩ :: others = groups := by
      simpa [groupsFrom?, Option.bind_eq_some_iff] using h
    rw [List.length_cons, List.length_cons, ih hothers]

/-- The groups of boxes with so many indices before theirs. -/
def groupsFrom : (base : ℕ) → List Box → List Group
  | _, [] => []
  | base, b :: rest =>
    ⟨.ofNat base, .ofNat (boxIndexCount b)⟩ :: groupsFrom (base + boxIndexCount b) rest

/-- If words count the indices, these are the groups. -/
theorem groupsFrom?_eq (h : base + (boxes.map boxIndexCount).sum < UInt32.size) :
    groupsFrom? base boxes = some (groupsFrom base boxes) := by
  induction boxes generalizing base with
  | nil => rfl
  | cons c rest ih =>
    rw [List.map_cons, List.sum_cons] at h
    have hbase : (UInt32.ofNat base).toNat = base := UInt32.toNat_ofNat_of_lt' (by omega)
    have hstop : (UInt32.ofNat (base + boxIndexCount c)).toNat = base + boxIndexCount c :=
      UInt32.toNat_ofNat_of_lt' (by omega)
    obtain ⟨w, hw, hw'⟩ := Word.exists_sub? (a := .ofNat (base + boxIndexCount c))
      (b := .ofNat base) (by omega)
    have hcount : w = .ofNat (boxIndexCount c) := by
      rw [← UInt32.toNat_inj, hw', hstop, hbase, UInt32.toNat_ofNat_of_lt' (by omega)]
      omega
    rw [groupsFrom?, hw, ih (by omega), hcount]
    rfl

theorem length_groupsFrom : (groupsFrom base boxes).length = boxes.length := by
  induction boxes generalizing base with
  | nil => rfl
  | cons c rest ih => rw [groupsFrom, List.length_cons, ih, List.length_cons]

/-- The group of a box begins after the indices of the boxes before it. -/
theorem getElem_groupsFrom (h : n < (groupsFrom base boxes).length) (hn : n < boxes.length) :
    (groupsFrom base boxes)[n] =
      ⟨.ofNat (base + countBefore boxIndexCount boxes n), .ofNat (boxIndexCount boxes[n])⟩ := by
  induction boxes generalizing base n with
  | nil => cases hn
  | cons c rest ih =>
    cases n with
    | zero => rfl
    | succ n =>
      simp only [groupsFrom, List.getElem_cons_succ, countBefore_cons_succ, ← Nat.add_assoc]
      exact ih _ (Nat.lt_of_succ_lt_succ hn)

/-- Groups of boxes that are counted follow one another. -/
theorem flatMap_groupsFrom (h : base + (boxes.map boxIndexCount).sum < UInt32.size) :
    (groupsFrom base boxes).flatMap Group.elements =
      List.range' base (boxes.map boxIndexCount).sum := by
  induction boxes generalizing base with
  | nil => rfl
  | cons c rest ih =>
    rw [List.map_cons, List.sum_cons] at h ⊢
    have hbase : (UInt32.ofNat base).toNat = base := UInt32.toNat_ofNat_of_lt' (by omega)
    have hcount : (UInt32.ofNat (boxIndexCount c)).toNat = boxIndexCount c :=
      UInt32.toNat_ofNat_of_lt' (by omega)
    rw [groupsFrom, List.flatMap_cons, ih (by omega), Group.elements, hbase, hcount,
      List.range'_append_1]

/-- The numbers of elements of groups of boxes that are counted. -/
theorem map_count_groupsFrom (h : (boxes.map boxIndexCount).sum < UInt32.size) :
    (groupsFrom base boxes).map (·.count.toNat) = boxes.map boxIndexCount := by
  induction boxes generalizing base with
  | nil => rfl
  | cons c rest ih =>
    rw [List.map_cons, List.sum_cons] at h
    rw [groupsFrom, List.map_cons, List.map_cons, ih (by omega),
      UInt32.toNat_ofNat_of_lt' (by omega)]

/-! ### Boxes that are counted -/

/-- Words count the bytes of a vertex, the vertices and the indices. -/
structure Counted (b : ShapeBuilder) : Prop where
  /-- The bytes of a vertex. -/
  stride : b.layout.span < UInt32.size
  /-- The vertices. -/
  vertices : b.total boxVertexCount < UInt32.size
  /-- The indices. -/
  indices : b.total boxIndexCount < UInt32.size

/-- The mesh of boxes that are counted. -/
def mesh (b : ShapeBuilder) : MeshDesc := b.meshOf (b.indices.map .ofNat) (groupsFrom 0 b.boxes)

theorem indexType_mesh_ne_absent : b.mesh.indexType ≠ .absent := indexType_meshOf_ne_absent

/-- Indices in words are those of the boxes. -/
theorem eq_map_of_indices? {l : List UInt32} (h : b.indices? = some l) :
    l = b.indices.map .ofNat := by
  rw [← toNat_indices? h, List.map_map]
  simp [Function.comp_def]

/-- Boxes that are counted are built. -/
theorem build_eq_ok (hposition : ∃ c ∈ b.layout, c.attr = .position) (hboxes : b.boxes ≠ [])
    (h : b.Counted) : b.build = .ok b.mesh := by
  obtain ⟨indices, hindices⟩ := exists_indices? h.vertices.le
  have hgroups : groupsFrom? 0 b.boxes = some (groupsFrom 0 b.boxes) :=
    groupsFrom?_eq (by rw [Nat.zero_add]; exact h.indices)
  refine build_eq_ok_iff.2 ⟨hposition, hboxes, indices, hindices, _, hgroups, h.stride, ?_⟩
  rw [mesh, ← eq_map_of_indices? hindices]

theorem toNat_vertexCount_mesh (h : b.Counted) :
    b.mesh.vertexCount.toNat = b.total boxVertexCount := by
  rw [← length_vertices]
  exact UInt32.toNat_ofNat_of_lt' (by rw [length_vertices]; exact h.vertices)

theorem toNat_indexCount_mesh (h : b.Counted) :
    b.mesh.indexCount.toNat = b.total boxIndexCount := by
  rw [← length_indices, ← List.length_map (f := UInt32.ofNat)]
  refine UInt32.toNat_ofNat_of_lt' ?_
  rw [List.length_map, length_indices]
  exact h.indices

/-- The indices of the mesh are those of its boxes. -/
theorem map_indexAt_mesh (h : b.Counted) {start length : ℕ}
    (hle : start + length ≤ b.indices.length) :
    (List.range' start length).map b.mesh.indexAt = (b.indices.drop start).take length := by
  obtain ⟨indices, hindices⟩ := exists_indices? h.vertices.le
  rw [mesh, ← eq_map_of_indices? hindices]
  exact map_indexAt_meshOf hindices hle

/-- A group fetches the indices of its box. -/
theorem fetched_mesh (h : b.Counted) (hn : n < b.boxes.length) {g : Group}
    (hg : b.mesh.groups[n]? = some g) :
    b.mesh.fetched g = boxIndices b.boxes[n] (countBefore boxVertexCount b.boxes n) := by
  have hle := countBefore_add_le boxIndexCount hn
  have htotal := h.indices
  have hlen : n < (groupsFrom 0 b.boxes).length := by rwa [length_groupsFrom]
  have hget : g = ⟨.ofNat (countBefore boxIndexCount b.boxes n),
      .ofNat (boxIndexCount b.boxes[n])⟩ := by
    have hgroup := getElem_groupsFrom hlen hn
    rw [Nat.zero_add] at hgroup
    rw [← hgroup]
    exact Option.some.inj (hg.symm.trans (List.getElem?_eq_getElem hlen))
  have hslice := slice_indicesFrom 0 hn
  rw [Nat.zero_add] at hslice
  rw [← hslice, MeshDesc.fetched, if_neg indexType_mesh_ne_absent, hget,
    UInt32.toNat_ofNat_of_lt' (by omega), UInt32.toNat_ofNat_of_lt' (by omega)]
  exact map_indexAt_mesh h (by rwa [length_indices])

/-- The mesh of boxes that are counted passes the checks. -/
theorem validate_mesh (hposition : ∃ c ∈ b.layout, c.attr = .position) (h : b.Counted) :
    b.mesh.validate = .ok () := by
  refine MeshDesc.validate_eq_ok_iff.2 ⟨?_, h.stride, ?_, ?_, fun g hg ↦ ?_⟩
  · obtain ⟨c, hc, -⟩ := hposition
    exact List.ne_nil_of_mem hc
  · rw [toNat_vertexCount_mesh h]
    exact b.length_vertexData
  · rw [toNat_indexCount_mesh h, ← length_indices, ← List.length_map (f := UInt32.ofNat)]
    exact length_encodeIndices
  · -- The last element of the group is one of the indices, as all elements are.
    rw [MeshDesc.elementCount, if_neg indexType_mesh_ne_absent, toNat_indexCount_mesh h]
    obtain ⟨n, hn, rfl⟩ := List.getElem_of_mem hg
    have hn' : n < b.boxes.length := hn.trans_eq length_groupsFrom
    have hle := countBefore_add_le boxIndexCount hn'
    have htotal := h.indices
    have hgroup := getElem_groupsFrom hn hn'
    rw [Nat.zero_add] at hgroup
    change ((groupsFrom 0 b.boxes)[n]).base.toNat + ((groupsFrom 0 b.boxes)[n]).count.toNat ≤ _
    rw [hgroup, UInt32.toNat_ofNat_of_lt' (by omega), UInt32.toNat_ofNat_of_lt' (by omega)]
    exact hle

end ShapeBuilder

/-! ### Meshes of boxes of wanted extents -/

/-- A mesh of boxes with so many tiles along an edge of each, whose indices are `indices`. -/
structure MeshDesc.IsOfBoxes (m : MeshDesc) (tiles indices : List ℕ) : Prop where
  /-- It passes the checks. -/
  valid : m.validate = .ok ()
  /-- A box has six grids of vertices. -/
  vertexCount : m.vertexCount.toNat = (tiles.map fun t ↦ 6 * (t + 1) ^ 2).sum
  /-- And two triangles for each cell of them. -/
  indexCount : m.indexCount.toNat = (tiles.map fun t ↦ 36 * t ^ 2).sum
  /-- There is a group for each box. -/
  groups : m.groups.map (·.count.toNat) = tiles.map fun t ↦ 36 * t ^ 2
  /-- The groups follow one another and leave no index out. -/
  elements : m.groups.flatMap Group.elements = List.range m.indexCount.toNat
  /-- The indices of a group are of the vertices of its box, which come after those of the boxes
  before it. -/
  own : ∀ (n : ℕ) (g : Group), m.groups[n]? = some g → ∀ v ∈ m.fetched g,
    ((tiles.take n).map fun t ↦ 6 * (t + 1) ^ 2).sum ≤ v ∧
      v < ((tiles.take (n + 1)).map fun t ↦ 6 * (t + 1) ^ 2).sum
  /-- Indices take two bytes if these can count the vertices, and four otherwise. -/
  indexType : m.indexType = if m.vertexCount.toNat ≤ 65536 then .short else .word
  /-- The indices are stored as they are. -/
  stored : (List.range m.indexCount.toNat).map m.indexAt = indices

namespace ShapeBuilder

/-- The builder with more boxes: their extents, and the cells along an edge of their faces. -/
def addBoxes (b : ShapeBuilder) (wanted : List (Vec3 × UInt32)) : ShapeBuilder :=
  wanted.foldl (fun b w ↦ b.addBox w.1.x w.1.y w.1.z w.2) b

theorem addBoxes_eq (b : ShapeBuilder) (wanted : List (Vec3 × UInt32)) :
    b.addBoxes wanted =
      { b with boxes := b.boxes ++ wanted.map fun w ↦ .ofSize w.1.x w.1.y w.1.z w.2 } := by
  induction wanted generalizing b with
  | nil => simp [addBoxes]
  | cons w rest ih =>
    change (b.addBox w.1.x w.1.y w.1.z w.2).addBoxes rest = _
    rw [ih]
    simp [addBox]

/-- The number of cells along an edge, where none counts as one. -/
def tilesOf (w : Vec3 × UInt32) : ℕ := max w.2.toNat 1

theorem toNat_tiles_ofSize (w : Vec3 × UInt32) :
    (Box.ofSize w.1.x w.1.y w.1.z w.2).tiles.toNat = tilesOf w := by
  rw [Box.ofSize, tilesOf]
  have hmax : max w.2 1 = if w.2 ≤ 1 then 1 else w.2 := rfl
  rw [hmax]
  split
  · next h =>
    rw [UInt32.le_iff_toNat_le] at h
    exact (Nat.max_eq_right h).symm
  · next h =>
    rw [UInt32.le_iff_toNat_le] at h
    exact (Nat.max_eq_left (Nat.le_of_not_le h)).symm

theorem boxVertexCount_ofSize (w : Vec3 × UInt32) :
    boxVertexCount (.ofSize w.1.x w.1.y w.1.z w.2) = 6 * (tilesOf w + 1) ^ 2 := by
  rw [boxVertexCount, toNat_tiles_ofSize, Nat.pow_two]

theorem boxIndexCount_ofSize (w : Vec3 × UInt32) :
    boxIndexCount (.ofSize w.1.x w.1.y w.1.z w.2) = 36 * tilesOf w ^ 2 := by
  rw [boxIndexCount, toNat_tiles_ofSize, Nat.pow_two]

/-- **Meshes of boxes are valid.** Take any layout with a position, any color, and boxes of any
extents, at least one, whose vertices and indices are counted by words. If words also count the
bytes of a vertex, then the boxes are built, and the mesh passes the checks: a box of `t` tiles has
`6 (t + 1)²` vertices and `36 t²` indices, and its group, which fetches its own vertices only, comes
after those of the boxes before it. Indices take two bytes if there are `2 ^ 16` vertices at most,
and they are stored as they were generated. If the length of a vertex is no word, adding it up
traps. -/
theorem build_ofBoxes {layout : VertexLayout} (color : Vec4) {wanted : List (Vec3 × UInt32)}
    (hposition : ∃ c ∈ layout, c.attr = .position) (hwanted : wanted ≠ [])
    (hvertices : ((wanted.map tilesOf).map fun t ↦ 6 * (t + 1) ^ 2).sum < UInt32.size)
    (hindices : ((wanted.map tilesOf).map fun t ↦ 36 * t ^ 2).sum < UInt32.size) :
    let b := addBoxes ⟨layout, color, []⟩ wanted
    ((VertexLayout.stride? layout).isSome → ∃ m indices, b.build = .ok m ∧
      b.indices? = some indices ∧ m.IsOfBoxes (wanted.map tilesOf) (indices.map (·.toNat))) ∧
    (VertexLayout.stride? layout = none → b.build = .error .trap) := by
  intro b
  have hb : b = { layout, color, boxes := wanted.map fun w ↦ .ofSize w.1.x w.1.y w.1.z w.2 } :=
    (addBoxes_eq _ _).trans (by rw [List.nil_append])
  have hvertex : b.boxes.map boxVertexCount =
      (wanted.map tilesOf).map fun t ↦ 6 * (t + 1) ^ 2 := by
    rw [hb, List.map_map, List.map_map]
    exact List.map_congr_left fun w _ ↦ boxVertexCount_ofSize w
  have hindex : b.boxes.map boxIndexCount = (wanted.map tilesOf).map fun t ↦ 36 * t ^ 2 := by
    rw [hb, List.map_map, List.map_map]
    exact List.map_congr_left fun w _ ↦ boxIndexCount_ofSize w
  rw [← hvertex] at hvertices
  rw [← hindex] at hindices
  have hlayout : b.layout = layout := by rw [hb]
  have hboxes : b.boxes ≠ [] := by simpa [hb] using hwanted
  have hposition : ∃ c ∈ b.layout, c.attr = .position := by rwa [hlayout]
  rw [← hlayout]
  refine ⟨fun hstride ↦ ?_, fun hstride ↦ build_eq_trap hposition hboxes (.inr (.inr hstride))⟩
  have hbefore (n : ℕ) : countBefore boxVertexCount b.boxes n =
      (((wanted.map tilesOf).take n).map fun t ↦ 6 * (t + 1) ^ 2).sum := by
    rw [countBefore, List.map_take, hvertex, List.map_take]
  have h : b.Counted := ⟨span_lt_of_isSome hstride, hvertices, hindices⟩
  have hcount := toNat_indexCount_mesh h
  obtain ⟨indices, hgenerated⟩ := exists_indices? h.vertices.le
  refine ⟨_, indices, build_eq_ok hposition hboxes h, hgenerated, ?_⟩
  exact {
    valid := validate_mesh hposition h
    vertexCount := by
      rw [toNat_vertexCount_mesh h, ← hvertex]
      rfl
    indexCount := by
      rw [hcount, ← hindex]
      rfl
    groups := by
      rw [← hindex]
      exact map_count_groupsFrom hindices
    elements := by
      rw [hcount, List.range_eq_range']
      exact flatMap_groupsFrom (by rwa [Nat.zero_add])
    own := fun n g hg v hv ↦ by
      have hn : n < b.boxes.length :=
        (List.getElem?_eq_some_iff.1 hg).1.trans_eq length_groupsFrom
      rw [fetched_mesh h hn hg] at hv
      rw [← hbefore, ← hbefore, countBefore_succ hn]
      exact mem_boxIndices ((countBefore_add_le boxVertexCount hn).trans h.vertices.le) hv
    indexType := by
      rw [toNat_vertexCount_mesh h, ← length_vertices]
      simp only [mesh, meshOf, encodeIndices]
      split <;> rfl
    stored := by
      rw [toNat_indices? hgenerated, hcount, ← length_indices, List.range_eq_range',
        map_indexAt_mesh h (Nat.zero_add _).le, List.drop_zero, List.take_length] }

/-- A box of two by two cells on each face and one of one cell, none having been asked for. -/
theorem build_ofBoxes_twoBoxes :
    let b := addBoxes ⟨[⟨.position, .triple⟩, ⟨.normal, .signedBytes⟩], .ones, []⟩
      [(⟨.one, .half, .one⟩, 2), (⟨.one, .one, .one⟩, 0)]
    ∃ m indices, b.build = .ok m ∧ b.indices? = some indices ∧
      m.IsOfBoxes [2, 1] (indices.map (·.toNat)) :=
  (build_ofBoxes .ones (by decide) (by decide) (by decide) (by decide)).1 (by decide)

end ShapeBuilder

end RenderTargets
