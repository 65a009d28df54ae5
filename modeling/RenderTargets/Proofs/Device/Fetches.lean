import Mathlib.Data.Nat.Digits.Defs
import RenderTargets.Error
import RenderTargets.Mesh
import RenderTargets.Proofs.Number.Word
import RenderTargets.Proofs.Step.Triple
/-!
# What a group of a mesh fetches

A draw of a group goes through a range of **elements**. Without indices these are the numbers of the
vertices it fetches. With indices they are positions, and the numbers are stored there
(`MeshDesc.fetched`).

A description that passes the checks has data of the right lengths, and its groups end within them
(`MeshDesc.validate_eq_ok_iff`). So all elements of a group are there, and so is each vertex that
the counts know of, for rows no longer than those of the layout (`MeshDesc.Fits.inBounds`). No check
reads the indices, which may be of any vertex, or compares the layout with that of a pipeline.

What does not pass breaks one of the rules first (`MeshDesc.Breaks`), and that is what the checks
say, except for a group that ends where no word can say it: the sum that is its end traps.
-/

namespace RenderTargets

namespace MeshDesc

variable {m : MeshDesc} {g : Group} {n : UInt32} {i : ℕ}

/-! ### Vertices by number -/

/-- The number that is stored at a position of the indices, the least significant byte first. -/
def indexAt (m : MeshDesc) (i : ℕ) : ℕ :=
  let size := m.indexType.size
  Nat.ofDigits 256 (((m.indexData.drop (i * size)).take size).map (·.toNat))

/-- The numbers of the vertices that a group fetches. -/
def fetched (m : MeshDesc) (g : Group) : List ℕ :=
  let elements := List.range' g.base.toNat g.count.toNat
  if m.indexType = .absent then elements else elements.map m.indexAt

example : (fullScreenQuad true).fetched ⟨1, 4⟩ = [2, 1, 1, 2] := by decide

/-- What a group reads is in the data, for rows of the vertices of some length. -/
structure InBounds (m : MeshDesc) (g : Group) (stride : ℕ) : Prop where
  /-- Without indices, the range is one of the vertices. -/
  unindexed : m.indexType = .absent → g.base.toNat + g.count.toNat ≤ m.vertexCount.toNat
  /-- Otherwise it is one of the indices. -/
  indexed : (g.base.toNat + g.count.toNat) * m.indexType.size ≤ m.indexData.length
  /-- If the rows are those of the layout or shorter, then the vertices are read in the data, unless
  an index is of a vertex that the mesh does not have. -/
  vertices : stride ≤ m.layout.span → ∀ v ∈ m.fetched g,
    (m.indexType = .absent ∨ v < m.vertexCount.toNat) → (v + 1) * stride ≤ m.vertexData.length

/-! ### Checks -/

/-- The lengths of the data are those of the counts, and the groups end within them. -/
structure Fits (m : MeshDesc) : Prop where
  /-- A vertex has a component. -/
  layout : m.layout ≠ []
  /-- The length of a row is a word. -/
  stride : m.layout.span < UInt32.size
  /-- The length of the vertices. -/
  vertices : m.vertexData.length = m.vertexCount.toNat * m.layout.span
  /-- The length of the indices. -/
  indices : m.indexData.length = m.indexCount.toNat * m.indexType.size
  /-- The groups. -/
  groups : ∀ g ∈ m.groups, g.base.toNat + g.count.toNat ≤ m.elementCount.toNat

theorem checkGroups_eq_ok_iff {groups : List Group} :
    checkGroups n i groups = .ok () ↔ ∀ g ∈ groups, g.base.toNat + g.count.toNat ≤ n.toNat := by
  induction groups generalizing i with
  | nil => exact iff_of_true rfl (List.forall_mem_nil _)
  | cons g rest ih =>
    rw [checkGroups, ofOption_bind_eq_ok_iff, List.forall_mem_cons]
    constructor
    · rintro ⟨stop, hstop, hrest⟩
      rw [Word.add?, Word.unsigned?_eq_some_iff] at hstop
      rw [throw_bind_eq_ok_iff, ih] at hrest
      exact ⟨hstop ▸ UInt32.le_iff_toNat_le.1 (UInt32.not_lt.1 hrest.1), hrest.2⟩
    · rintro ⟨hle, hrest⟩
      -- The end of the group is at most a word, so it is one.
      have hlt : g.base.toNat + g.count.toNat < UInt32.size := hle.trans_lt n.toNat_lt_size
      refine ⟨UInt32.ofNat (g.base.toNat + g.count.toNat), if_pos hlt, ?_⟩
      rw [throw_bind_eq_ok_iff, ih]
      refine ⟨UInt32.not_lt.2 (UInt32.le_iff_toNat_le.2 ?_), hrest⟩
      rwa [UInt32.toNat_ofNat_of_lt' hlt]

/-- **What the checks let pass.** -/
theorem validate_eq_ok_iff : m.validate = .ok () ↔ m.Fits := by
  have hempty : m.layout.isEmpty = true ↔ m.layout = [] := List.isEmpty_iff
  rw [validate, throw_bind_eq_ok_iff, ofOption_bind_eq_ok_iff, hempty]
  constructor
  · rintro ⟨hlayout, stride, hstride, hrest⟩
    rw [VertexLayout.stride?, Word.unsigned?_eq_some_iff] at hstride
    rw [throw_bind_eq_ok_iff, throw_bind_eq_ok_iff, checkGroups_eq_ok_iff] at hrest
    obtain ⟨hvertices, hindices, hgroups⟩ := hrest
    exact ⟨hlayout, hstride ▸ stride.toNat_lt_size, hstride ▸ not_not.1 hvertices,
      not_not.1 hindices, hgroups⟩
  · rintro ⟨hlayout, hstride, hvertices, hindices, hgroups⟩
    refine ⟨hlayout, UInt32.ofNat m.layout.span, if_pos hstride, ?_⟩
    rw [throw_bind_eq_ok_iff, throw_bind_eq_ok_iff, checkGroups_eq_ok_iff,
      UInt32.toNat_ofNat_of_lt' hstride]
    exact ⟨not_not.2 hvertices, not_not.2 hindices, hgroups⟩

/-- Without indices, what is fetched are vertices of the mesh. -/
theorem Fits.lt_of_absent (h : m.Fits) (hg : g ∈ m.groups) (habsent : m.indexType = .absent)
    {v : ℕ} (hv : v ∈ m.fetched g) : v < m.vertexCount.toNat := by
  have hend := h.groups g hg
  rw [elementCount, if_pos habsent] at hend
  rw [fetched, if_pos habsent, List.mem_range'_1] at hv
  omega

/-- **A group is read within the data**, as far as the numbers of vertices are those of the mesh. -/
theorem Fits.inBounds (h : m.Fits) (hg : g ∈ m.groups) (stride : ℕ) : m.InBounds g stride where
  unindexed habsent := by
    have hend := h.groups g hg
    rwa [elementCount, if_pos habsent] at hend
  indexed := by
    rw [h.indices]
    by_cases habsent : m.indexType = .absent
    · rw [habsent]
      exact Nat.zero_le _
    · have hend := h.groups g hg
      rw [elementCount, if_neg habsent] at hend
      exact Nat.mul_le_mul_right _ hend
  vertices hstride v hv hknown := by
    have hlt : v < m.vertexCount.toNat :=
      hknown.elim (fun habsent ↦ h.lt_of_absent hg habsent hv) id
    rw [h.vertices]
    exact Nat.mul_le_mul hlt hstride

/-! ### Descriptions that are rejected -/

/-- The first of the groups that end after so many elements, with its number. -/
structure FirstPast (elements : UInt32) (groups : List Group) (k : ℕ) (g : Group) : Prop where
  /-- The number is that of the group. -/
  get : groups[k]? = some g
  /-- The group ends after the elements. -/
  past : elements.toNat < g.base.toNat + g.count.toNat
  /-- The groups before it do not. -/
  before : ∀ j < k, ∀ b, groups[j]? = some b → b.base.toNat + b.count.toNat ≤ elements.toNat

/-- A rule that a description breaks after it kept those before, in the order of the checks. -/
inductive Breaks (m : MeshDesc) : MeshDefect → Prop where
  /-- A vertex has no component. -/
  | emptyLayout (layout : m.layout = []) : Breaks m .emptyLayout
  /-- The vertices have another length. -/
  | vertexBytes (layout : m.layout ≠ [])
      (vertices : m.vertexData.length ≠ m.vertexCount.toNat * m.layout.span) :
      Breaks m (.vertexBytes m.vertexData.length (m.vertexCount.toNat * m.layout.span))
  /-- The indices have another length. -/
  | indexBytes (layout : m.layout ≠ [])
      (vertices : m.vertexData.length = m.vertexCount.toNat * m.layout.span)
      (indices : m.indexData.length ≠ m.indexCount.toNat * m.indexType.size) :
      Breaks m (.indexBytes m.indexData.length (m.indexCount.toNat * m.indexType.size))
  /-- A group goes past the elements, and none before it does. -/
  | groupRange {k : ℕ} {g : Group} (layout : m.layout ≠ [])
      (vertices : m.vertexData.length = m.vertexCount.toNat * m.layout.span)
      (indices : m.indexData.length = m.indexCount.toNat * m.indexType.size)
      (group : FirstPast m.elementCount m.groups k g) :
      Breaks m (.groupRange k m.elementCount)

/-- The defect is of a group whose end is no word. -/
def EndsPastWords (m : MeshDesc) (d : MeshDefect) : Prop :=
  ∃ k g, d = .groupRange k m.elementCount ∧ m.groups[k]? = some g ∧
    UInt32.size ≤ g.base.toNat + g.count.toNat

variable {groups : List Group} {k : ℕ} {d : MeshDefect}

theorem FirstPast.cons {b : Group} (h : FirstPast n groups k g)
    (hb : b.base.toNat + b.count.toNat ≤ n.toNat) : FirstPast n (b :: groups) (k + 1) g where
  get := h.get
  past := h.past
  before j hj c hc := by
    cases j with
    | zero => exact Option.some.inj hc ▸ hb
    | succ j => exact h.before j (Nat.lt_of_succ_lt_succ hj) c hc

/-- Unless all groups end within the elements, there is a first one that does not. -/
theorem exists_firstPast (h : ¬ ∀ g ∈ groups, g.base.toNat + g.count.toNat ≤ n.toNat) :
    ∃ k g, FirstPast n groups k g := by
  induction groups with
  | nil => exact absurd (List.forall_mem_nil _) h
  | cons b rest ih =>
    by_cases hb : b.base.toNat + b.count.toNat ≤ n.toNat
    · have hrest : ¬ ∀ g ∈ rest, g.base.toNat + g.count.toNat ≤ n.toNat :=
        fun hall ↦ h (List.forall_mem_cons.2 ⟨hb, hall⟩)
      obtain ⟨k, g, hfirst⟩ := ih hrest
      exact ⟨k + 1, g, hfirst.cons hb⟩
    · exact ⟨0, b, rfl, Nat.lt_of_not_le hb, fun j hj ↦ absurd hj (Nat.not_lt_zero j)⟩

/-- The walk over the groups stops at the first one that ends after the elements: with its number if
the end is a word, and with a trap otherwise. -/
theorem checkGroups_of_firstPast (h : FirstPast n groups k g) :
    checkGroups n i groups = .error
      (if g.base.toNat + g.count.toNat < UInt32.size then .error (.groupRange (i + k) n)
        else .trap) := by
  induction groups generalizing i k with
  | nil => exact absurd h.get (by simp)
  | cons b rest ih =>
    rw [checkGroups, Word.add?, Word.unsigned?]
    cases k with
    | zero =>
      obtain rfl : b = g := Option.some.inj h.get
      split
      · next hword =>
        have hgt : n < UInt32.ofNat (b.base.toNat + b.count.toNat) := by
          rw [UInt32.lt_iff_toNat_lt, UInt32.toNat_ofNat_of_lt' hword]
          exact h.past
        rw [ofOption_some_bind, throw_bind_eq, if_pos hgt, Nat.add_zero]
      · rfl
    | succ k =>
      have hle := h.before 0 (Nat.succ_pos k) b rfl
      have hword : b.base.toNat + b.count.toNat < UInt32.size := hle.trans_lt n.toNat_lt_size
      have hngt : ¬ n < UInt32.ofNat (b.base.toNat + b.count.toNat) := by
        rw [UInt32.lt_iff_toNat_lt, UInt32.toNat_ofNat_of_lt' hword]
        exact Nat.not_lt.2 hle
      have hrest : FirstPast n rest k g :=
        ⟨h.get, h.past, fun j hj c hc ↦ h.before (j + 1) (Nat.succ_lt_succ hj) c hc⟩
      rw [if_pos hword, ofOption_some_bind, throw_bind_eq, if_neg hngt, ih hrest,
        Nat.add_right_comm, Nat.add_assoc]

/-- A description that is not as it should be breaks one of the rules first. -/
theorem exists_breaks (hstride : m.layout.span < UInt32.size) (h : ¬ m.Fits) :
    ∃ d, m.Breaks d := by
  by_cases hlayout : m.layout = []
  · exact ⟨_, .emptyLayout hlayout⟩
  by_cases hvertices : m.vertexData.length = m.vertexCount.toNat * m.layout.span
  swap
  · exact ⟨_, .vertexBytes hlayout hvertices⟩
  by_cases hindices : m.indexData.length = m.indexCount.toNat * m.indexType.size
  swap
  · exact ⟨_, .indexBytes hlayout hvertices hindices⟩
  obtain ⟨k, g, hfirst⟩ := exists_firstPast fun hgroups ↦
    h ⟨hlayout, hstride, hvertices, hindices, hgroups⟩
  exact ⟨_, .groupRange hlayout hvertices hindices hfirst⟩

/-- The checks one after the other, for rows whose length is a word. -/
theorem validate_eq (hstride : m.layout.span < UInt32.size) :
    m.validate =
      if m.layout = [] then .error (.error .emptyLayout)
      else if m.vertexData.length ≠ m.vertexCount.toNat * m.layout.span then
        .error (.error (.vertexBytes m.vertexData.length (m.vertexCount.toNat * m.layout.span)))
      else if m.indexData.length ≠ m.indexCount.toNat * m.indexType.size then
        .error (.error (.indexBytes m.indexData.length (m.indexCount.toNat * m.indexType.size)))
      else checkGroups m.elementCount 0 m.groups := by
  have hrow : VertexLayout.stride? m.layout = some (.ofNat m.layout.span) := if_pos hstride
  rw [validate, throw_bind_eq, hrow, ofOption_some_bind, throw_bind_eq, throw_bind_eq,
    UInt32.toNat_ofNat_of_lt' hstride]
  simp only [List.isEmpty_iff]

/-- The first rule that is broken is the defect found, unless the end of the group at fault is no
word. -/
theorem Breaks.validate_eq (hstride : m.layout.span < UInt32.size) (h : m.Breaks d) :
    (m.EndsPastWords d ∧ m.validate = .error .trap) ∨
      (¬ m.EndsPastWords d ∧ m.validate = .error (.error d)) := by
  rw [MeshDesc.validate_eq hstride]
  cases h with
  | emptyLayout hlayout => exact .inr ⟨nofun, if_pos hlayout⟩
  | vertexBytes hlayout hvertices =>
    exact .inr ⟨nofun, by rw [if_neg hlayout, if_pos hvertices]⟩
  | indexBytes hlayout hvertices hindices =>
    exact .inr ⟨nofun, by rw [if_neg hlayout, if_neg (not_not.2 hvertices), if_pos hindices]⟩
  | @groupRange k g hlayout hvertices hindices hfirst =>
    rw [if_neg hlayout, if_neg (not_not.2 hvertices), if_neg (not_not.2 hindices),
      checkGroups_of_firstPast hfirst, Nat.zero_add]
    by_cases hword : g.base.toNat + g.count.toNat < UInt32.size
    · refine .inr ⟨?_, by rw [if_pos hword]⟩
      rintro ⟨j, b, hj, hb, hpast⟩
      obtain rfl : k = j := (MeshDefect.groupRange.inj hj).1
      obtain rfl : g = b := Option.some.inj (hfirst.get.symm.trans hb)
      exact Nat.not_le.2 hword hpast
    · exact .inl ⟨⟨k, g, rfl, hfirst.get, Nat.le_of_not_lt hword⟩, by rw [if_neg hword]⟩

/-- **The checks decide.** Rows are as long as a word can say. Then what passes is a description
that is as it should be. Another is refused as not valid, for the first rule that it breaks, with
the number of the first group that goes past the elements if it is one. Only where this group ends
past the words as well, the sum that is its end traps. -/
theorem validate_decides (hstride : m.layout.span < UInt32.size) :
    let checked := m.validate.mapError fun e ↦ EngineError.invalid (.mesh m.name e)
    (checked = .ok () ↔ m.Fits) ∧
      (¬ m.Fits → ∃ d, m.Breaks d ∧
        (m.EndsPastWords d → checked = .error .trap) ∧
        (¬ m.EndsPastWords d → checked = .error (.error (.invalid (.mesh m.name d))))) := by
  intro checked
  constructor
  · rw [← validate_eq_ok_iff]
    simp only [checked]
    cases m.validate <;> simp [Checked.mapError]
  · intro hfits
    obtain ⟨d, hd⟩ := exists_breaks hstride hfits
    refine ⟨d, hd, fun hpast ↦ ?_, fun hpast ↦ ?_⟩
    · obtain ⟨-, h⟩ | ⟨h, -⟩ := hd.validate_eq hstride
      · simp only [checked, h]
        rfl
      · exact absurd hpast h
    · obtain ⟨h, -⟩ | ⟨-, h⟩ := hd.validate_eq hstride
      · exact absurd h hpast
      · simp only [checked, h]
        rfl

/-- The quad of the whole screen with another group. -/
def strayQuad (stray : Group) : MeshDesc :=
  { fullScreenQuad true with groups := [⟨0, 6⟩, stray] }

/-- A group past the six indices is found by its number. -/
theorem validate_decides_strayQuad :
    let m := strayQuad ⟨4, 4⟩
    m.layout.span < UInt32.size ∧ m.Breaks (.groupRange 1 6) ∧
      m.validate.mapError (fun e ↦ EngineError.invalid (.mesh m.name e)) =
        .error (.error (.invalid (.mesh "full_screen_quad" (.groupRange 1 6)))) := by
  have hfits : ¬ (strayQuad ⟨4, 4⟩).Fits := fun h ↦
    absurd (h.groups ⟨4, 4⟩ (by decide)) (by decide)
  obtain ⟨d, hd, -, hrefused⟩ := (validate_decides (m := strayQuad ⟨4, 4⟩) (by decide)).2 hfits
  have hends : ∀ g ∈ (strayQuad ⟨4, 4⟩).groups, g.base.toNat + g.count.toNat < UInt32.size := by
    decide
  have hsaid := hrefused fun ⟨_, g, _, hg, hpast⟩ ↦
    Nat.not_le.2 (hends g (List.mem_of_getElem? hg)) hpast
  have hfound : (strayQuad ⟨4, 4⟩).validate = .error (.error (.groupRange 1 6)) := rfl
  rw [hfound] at hsaid
  cases hsaid
  exact ⟨by decide, hd, rfl⟩

/-- A group past the indices whose end is no word traps. -/
theorem validate_trapped :
    let m := strayQuad ⟨4294967295, 1⟩
    m.layout.span < UInt32.size ∧ m.Breaks (.groupRange 1 6) ∧ m.validate = .error .trap := by
  have hfirst : FirstPast 6 (strayQuad ⟨4294967295, 1⟩).groups 1 ⟨4294967295, 1⟩ :=
    ⟨rfl, by decide, by decide⟩
  exact ⟨by decide, .groupRange (by decide) (by decide) (by decide) hfirst, rfl⟩

end MeshDesc

end RenderTargets
