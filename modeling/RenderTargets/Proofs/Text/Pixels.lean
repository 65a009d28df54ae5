import Mathlib.Data.List.Basic
import Mathlib.Tactic.Lift
import Mathlib.Tactic.Ring
import RenderTargets.Proofs.Lists
import RenderTargets.Proofs.Rect.Pixels
import RenderTargets.Proofs.Text.Layout
/-!
# The pixels of a glyph

A set pixel of the font is a block of pixels of the screen, as many across and down as the scale of
the glyph says. The rectangles of a glyph have the pixels of these blocks and no others
(`DebugText.exists_areRuns`), and no smaller number of rectangles of single rows would have them:
each is of a maximal run.

## Where glyphs have rectangles

A rectangle has signed words for its corner and unsigned ones for its size. They exist as long as
the far edges of the set pixels are at most `2 ^ 31` (`Text.OnScreen`). Pixels of the glyph that are
not set do not count, so this asks for less than a cell on the screen (`Text.OnScreen.of_le`).

## Batches

The glyphs of a text fall into parts, one for each batch (`DebugText.Groups`). A part lists its
glyphs in the order in which they were placed, and the parts are in the order of their first glyphs.
A glyph goes to the first batch of its color, so that no color is that of an earlier batch. A color
with a NaN equals none, itself included: each glyph of such a color has a batch of its own.
-/

namespace RenderTargets

open Text Word

/-! ### Runs -/

/-- A row has eight pixels. -/
theorem Text.lt_of_isLit {row : UInt8} {k : ℕ} (h : isLit row k) : k < 8 := by
  by_contra hk
  rw [isLit, Nat.testBit_lt_two_pow] at h
  · cases h
  · exact row.toNat_lt.trans_le (Nat.pow_le_pow_right (by omega) (by omega : 8 ≤ k))

namespace DebugText

variable {row : UInt8} {first n k : ℕ}

/-- The runs found from a lit column on are of this column and the runs after it. -/
theorem exists_mem_runs_cons {rest : List ℕ} (hlit : isLit row first) :
    (∃ run ∈ runs row (first :: rest), run.1 ≤ k ∧ k < run.1 + run.2) ↔
      k = first ∨ ∃ run ∈ runs row rest, run.1 ≤ k ∧ k < run.1 + run.2 := by
  rw [runs, if_pos hlit]
  rcases runs row rest with _ | ⟨⟨s, m⟩, more⟩
  · simp only [List.exists_mem_cons_iff, List.not_mem_nil, false_and, exists_false, or_false]
    omega
  · by_cases hnext : s = first + 1
    · simp only [if_pos hnext, List.exists_mem_cons_iff, ← or_assoc]
      refine or_congr_left ?_
      omega
    · simp only [if_neg hnext, List.exists_mem_cons_iff]
      refine or_congr_left ?_
      omega

/-- The runs found in consecutive columns are of the lit pixels in them. -/
theorem exists_mem_runs_range' :
    (∃ run ∈ runs row (List.range' first n), run.1 ≤ k ∧ k < run.1 + run.2) ↔
      (first ≤ k ∧ k < first + n) ∧ isLit row k := by
  induction n generalizing first with
  | zero => exact iff_of_false (fun ⟨_, h, _⟩ ↦ nomatch h) fun h ↦ by omega
  | succ n ih =>
    rw [List.range'_succ]
    by_cases hlit : isLit row first
    · rw [exists_mem_runs_cons hlit, ih]
      constructor
      · rintro (rfl | ⟨hk, hlit⟩)
        · exact ⟨by omega, hlit⟩
        · exact ⟨by omega, hlit⟩
      · rintro ⟨hk, hlit⟩
        by_cases hfirst : k = first
        · exact .inl hfirst
        · exact .inr ⟨by omega, hlit⟩
    · rw [runs, if_neg hlit, ih]
      refine and_congr_left fun hk ↦ ?_
      have hne : k ≠ first := fun h ↦ hlit (h ▸ hk)
      omega

/-- The runs found in consecutive columns come one after the other, with a pixel between them. -/
theorem pairwise_runs_range' :
    (runs row (List.range' first n)).Pairwise fun r s ↦ r.1 + r.2 < s.1 := by
  induction n generalizing first with
  | zero => exact .nil
  | succ n ih =>
    rw [List.range'_succ, runs]
    split
    · split
      · next s m more heq =>
        have hrest : (runs row (List.range' (first + 1) n)).Pairwise fun r s ↦ r.1 + r.2 < s.1 := ih
        have hin : ∀ r ∈ (s, m) :: more, first + 1 ≤ r.1 := fun r hr ↦ (runs_range' (heq ▸ hr)).1
        rw [heq] at hrest
        obtain ⟨hs, hmore⟩ := List.pairwise_cons.1 hrest
        split
        · next hnext =>
          refine List.pairwise_cons.2 ⟨fun r hr ↦ ?_, hmore⟩
          have := hs r hr
          simp only at this ⊢
          omega
        · next hnext =>
          refine List.pairwise_cons.2 ⟨fun r hr ↦ ?_, hrest⟩
          have hfirst := hin (s, m) List.mem_cons_self
          rcases List.mem_cons.1 hr with rfl | hr
          · simp only at hfirst ⊢
            omega
          · have := hs r hr
            simp only at this hfirst ⊢
            omega
      · exact List.pairwise_singleton ..
    · exact ih

/-- The runs of a row of a glyph are of its lit pixels. -/
theorem exists_mem_runs_range :
    (∃ run ∈ runs row (List.range 8), run.1 ≤ k ∧ k < run.1 + run.2) ↔ isLit row k := by
  rw [List.range_eq_range', exists_mem_runs_range', Nat.zero_add]
  exact and_iff_right_of_imp fun h ↦ ⟨Nat.zero_le k, lt_of_isLit h⟩

/-- Runs of a row of a glyph are the same or apart. -/
theorem runs_apart {run run' : ℕ × ℕ} (h : run ∈ runs row (List.range 8))
    (h' : run' ∈ runs row (List.range 8)) :
    run = run' ∨ run.1 + run.2 < run'.1 ∨ run'.1 + run'.2 < run.1 := by
  rw [List.range_eq_range'] at h h'
  have hpairwise : (runs row (List.range' 0 8)).Pairwise fun r s ↦ r.1 + r.2 < s.1 :=
    pairwise_runs_range'
  rw [List.pairwise_iff_getElem] at hpairwise
  obtain ⟨i, hi, rfl⟩ := List.getElem_of_mem h
  obtain ⟨j, hj, rfl⟩ := List.getElem_of_mem h'
  rcases Nat.lt_trichotomy i j with hij | rfl | hji
  · exact .inr (.inl (hpairwise i j hi hj hij))
  · exact .inl rfl
  · exact .inr (.inr (hpairwise j i hj hi hji))

end DebugText

namespace Text

variable {rows : List UInt8} {row k : ℕ} {run : ℕ × ℕ}

/-- A pixel of the rows of a glyph is set. -/
def IsSet (rows : List UInt8) (row column : ℕ) : Prop :=
  ∃ bits, rows[row]? = some bits ∧ isLit bits column

/-- The pixels of the run are set, and those beside it are not. -/
structure IsMaximal (rows : List UInt8) (row : ℕ) (run : ℕ × ℕ) : Prop where
  /-- Its pixels are set. -/
  inside : ∀ k, run.1 ≤ k → k < run.1 + run.2 → IsSet rows row k
  /-- The one before it is not. -/
  before : ∀ k, k + 1 = run.1 → ¬ IsSet rows row k
  /-- The one after it is not. -/
  after : ¬ IsSet rows row (run.1 + run.2)

/-- The runs of the rows of a glyph, each with the number of its row. -/
def locatedRuns (rows : List UInt8) : List (ℕ × ℕ × ℕ) :=
  rows.zipIdx.flatMap fun (bits, row) ↦
    (DebugText.runs bits (List.range 8)).map fun run ↦ (row, run)

theorem mem_locatedRuns : (row, run) ∈ locatedRuns rows ↔
    ∃ bits, rows[row]? = some bits ∧ run ∈ DebugText.runs bits (List.range 8) := by
  constructor
  · intro h
    obtain ⟨⟨bits, row'⟩, hrow, hrun⟩ := List.mem_flatMap.1 h
    obtain ⟨run', hmem, heq⟩ := List.mem_map.1 hrun
    obtain ⟨rfl, rfl⟩ := Prod.mk.inj heq
    exact ⟨bits, List.mk_mem_zipIdx_iff_getElem?.1 hrow, hmem⟩
  · rintro ⟨bits, hbits, hrun⟩
    exact List.mem_flatMap.2 ⟨(bits, row), List.mk_mem_zipIdx_iff_getElem?.2 hbits,
      List.mem_map_of_mem hrun⟩

/-- The runs of a glyph are of its set pixels. -/
theorem exists_mem_locatedRuns :
    (∃ run, (row, run) ∈ locatedRuns rows ∧ run.1 ≤ k ∧ k < run.1 + run.2) ↔
      IsSet rows row k := by
  simp only [mem_locatedRuns, IsSet, ← DebugText.exists_mem_runs_range]
  constructor
  · rintro ⟨run, ⟨bits, hbits, hrun⟩, hk⟩
    exact ⟨bits, hbits, run, hrun, hk⟩
  · rintro ⟨bits, hbits, run, hrun, hk⟩
    exact ⟨run, ⟨bits, hbits, hrun⟩, hk⟩

/-- The runs of a glyph are maximal. -/
theorem isMaximal_of_mem (h : (row, run) ∈ locatedRuns rows) : IsMaximal rows row run := by
  obtain ⟨bits, hbits, hrun⟩ := mem_locatedRuns.1 h
  have hpos := (DebugText.runs_range hrun).1
  -- A pixel that is set is in a run, which is this one or is apart from it.
  have hset {k : ℕ} (hk : IsSet rows row k) :
      ∃ run' : ℕ × ℕ, (run'.1 ≤ k ∧ k < run'.1 + run'.2) ∧
        (run = run' ∨ run.1 + run.2 < run'.1 ∨ run'.1 + run'.2 < run.1) := by
    obtain ⟨run', h', hk⟩ := exists_mem_locatedRuns.2 hk
    obtain ⟨bits', hbits', hrun'⟩ := mem_locatedRuns.1 h'
    cases hbits.symm.trans hbits'
    exact ⟨run', hk, DebugText.runs_apart hrun hrun'⟩
  refine ⟨fun k hk hk' ↦ exists_mem_locatedRuns.1 ⟨run, h, hk, hk'⟩, fun k hk hk' ↦ ?_,
    fun hk ↦ ?_⟩
  · obtain ⟨run', hin, rfl | hapart⟩ := hset hk' <;> omega
  · obtain ⟨run', hin, rfl | hapart⟩ := hset hk <;> omega

/-- Runs are listed from the top down and from left to right. -/
theorem pairwise_locatedRuns : (locatedRuns rows).Pairwise fun a b ↦
    a.1 < b.1 ∨ a.1 = b.1 ∧ a.2.1 + a.2.2 < b.2.1 := by
  refine List.pairwise_flatMap.2 ⟨fun a _ ↦ ?_, ?_⟩
  · rw [List.pairwise_map, List.range_eq_range']
    exact DebugText.pairwise_runs_range'.imp fun h ↦ .inr ⟨rfl, h⟩
  · have hrows : (rows.zipIdx.map Prod.snd).Pairwise (· < ·) := by
      rw [List.zipIdx_map_snd]
      exact List.pairwise_lt_range'
    refine (List.pairwise_map.1 hrows).imp fun {a b} hab x hx y hy ↦ .inl ?_
    obtain ⟨_, -, rfl⟩ := List.mem_map.1 hx
    obtain ⟨_, -, rfl⟩ := List.mem_map.1 hy
    exact hab

/-! ### Blocks -/

/-- A pixel of the screen is one of those for a pixel of the font, which is counted from the corner
of the screen. -/
def InBlock (scale : Scale) (column row : ℕ) (x y : ℤ) : Prop :=
  ((column * scale.x.toNat : ℕ) ≤ x ∧ x < ((column + 1) * scale.x.toNat : ℕ)) ∧
    ((row * scale.y.toNat : ℕ) ≤ y ∧ y < ((row + 1) * scale.y.toNat : ℕ))

/-- A pixel of the screen is one of those for a set pixel of a glyph in a cell. -/
def Lights (scale : Scale) (column row : ℕ) (rows : List UInt8) (x y : ℤ) : Prop :=
  ∃ r k, IsSet rows r k ∧ InBlock scale (8 * column + k) (8 * row + r) x y

/-- The pixels of the screen for the set pixels of a glyph in a cell are counted by signed words. -/
structure OnScreen (scale : Scale) (column row : ℕ) (rows : List UInt8) : Prop where
  /-- The edge on the right of each. -/
  right : ∀ r k, IsSet rows r k → (8 * column + k + 1) * scale.x.toNat ≤ 0x80000000
  /-- The edge at the bottom of each. -/
  bottom : ∀ r k, IsSet rows r k → (8 * row + r + 1) * scale.y.toNat ≤ 0x80000000

/-- A glyph of eight rows is on the screen if its cell is. -/
theorem OnScreen.of_le {scale : Scale} {column row : ℕ} (hrows : rows.length ≤ 8)
    (hright : (column + 1) * (8 * scale.x.toNat) ≤ 0x80000000)
    (hbottom : (row + 1) * (8 * scale.y.toNat) ≤ 0x80000000) :
    OnScreen scale column row rows where
  right _ k := fun ⟨_, _, hlit⟩ ↦
    have hk : k < 8 := lt_of_isLit hlit
    calc (8 * column + k + 1) * scale.x.toNat
      _ ≤ (8 * column + 8) * scale.x.toNat := Nat.mul_le_mul_right _ (by omega)
      _ = (column + 1) * (8 * scale.x.toNat) := by ring
      _ ≤ 0x80000000 := hright
  bottom r _ := fun ⟨_, hbits, _⟩ ↦
    have hr : r < 8 := (List.getElem?_eq_some_iff.1 hbits).1.trans_le hrows
    calc (8 * row + r + 1) * scale.y.toNat
      _ ≤ (8 * row + 8) * scale.y.toNat := Nat.mul_le_mul_right _ (by omega)
      _ = (row + 1) * (8 * scale.y.toNat) := by ring
      _ ≤ 0x80000000 := hbottom

/-- A number is among the multiples for a run if it is among those for a member of the run. -/
theorem exists_multiple {a n w : ℕ} {x : ℤ} (hw : 0 < w) :
    ((a * w : ℕ) ≤ x ∧ x < ((a * w : ℕ) : ℤ) + (n * w : ℕ)) ↔
      ∃ k, (a ≤ k ∧ k < a + n) ∧ ((k * w : ℕ) ≤ x ∧ x < ((k + 1) * w : ℕ)) := by
  constructor
  · rintro ⟨hle, hlt⟩
    lift x to ℕ using (Int.natCast_nonneg _).trans hle
    have hle' : a * w ≤ x := by exact_mod_cast hle
    have hlt' : x < (a + n) * w := by
      rw [Nat.add_mul]
      exact_mod_cast hlt
    refine ⟨x / w, ⟨(Nat.le_div_iff_mul_le hw).2 hle', (Nat.div_lt_iff_lt_mul hw).2 hlt'⟩, ?_, ?_⟩
    · exact_mod_cast Nat.div_mul_le_self x w
    · exact_mod_cast Nat.lt_mul_of_div_lt (Nat.lt_succ_self _) hw
  · rintro ⟨k, ⟨hak, hkn⟩, hle, hlt⟩
    have hstart : a * w ≤ k * w := Nat.mul_le_mul_right w hak
    have hend : (k + 1) * w ≤ (a + n) * w := Nat.mul_le_mul_right w hkn
    rw [Nat.add_mul a] at hend
    omega

variable {g : Placed} {r : Rect}

/-- The rectangle of a run has the blocks for the pixels of the run. -/
theorem IsRun.contains_iff (h : IsRun g row run r) (hscale : g.scale.Positive) {x y : ℤ} :
    r.Contains x y ↔ ∃ k, (run.1 ≤ k ∧ k < run.1 + run.2) ∧
      InBlock g.scale (8 * g.cell.column.toNat + k) (8 * g.cell.row.toNat + row) x y := by
  have hbottom : ((8 * g.cell.row.toNat + row + 1) * g.scale.y.toNat : ℕ) =
      r.y.toInt + r.height.toNat := by
    rw [h.top, h.height]
    push_cast
    ring
  simp only [Rect.Contains, InBlock, hbottom, ← h.top, h.left, h.width, exists_multiple hscale.x]
  constructor
  · rintro ⟨⟨k, hk, hx⟩, hy⟩
    refine ⟨k - 8 * g.cell.column.toNat, by omega, ?_, hy⟩
    rwa [Nat.add_sub_cancel' (by omega)]
  · rintro ⟨k, hk, hx, hy⟩
    exact ⟨⟨_, by omega, hx⟩, hy⟩

/-- A pixel of the screen is one of those for a set pixel of the glyph. -/
abbrev Placed.Lights (g : Placed) (x y : ℤ) : Prop :=
  Text.Lights g.scale g.cell.column.toNat g.cell.row.toNat (glyph g.code) x y

/-- The place of a glyph is on the screen. -/
abbrev Placed.OnScreen (g : Placed) : Prop :=
  Text.OnScreen g.scale g.cell.column.toNat g.cell.row.toNat (glyph g.code)

end Text

/-! ### Rectangles -/

namespace DebugText

/-- The rectangles are those of the maximal runs of set pixels of a glyph. -/
structure AreRuns (g : Placed) (rects : List Rect) : Prop where
  /-- No rectangle is empty. -/
  nonempty : ∀ r ∈ rects, 0 < r.width.toNat ∧ 0 < r.height.toNat
  /-- Each is of a run that cannot be longer. -/
  maximal : ∀ r ∈ rects, ∃ row run, IsRun g row run r ∧ IsMaximal (glyph g.code) row run
  /-- They share no pixel. -/
  disjoint : rects.Pairwise fun (r s : Rect) ↦ ∀ x y, ¬ (r.Contains x y ∧ s.Contains x y)
  /-- Those of one row do not touch. -/
  apart : rects.Pairwise fun (r s : Rect) ↦ r.y = s.y → r.x.toInt + r.width.toNat < s.x.toInt
  /-- They have the pixels for the set pixels of the glyph. -/
  contains : ∀ x y, (∃ r ∈ rects, r.Contains x y) ↔ g.Lights x y

variable {g : Placed}

/-- The corner of a cell with a set pixel is on the screen. -/
theorem corner_lt {cell k s : ℕ} (h : (8 * cell + k + 1) * s ≤ 0x80000000) (hs : 0 < s) :
    cell * (8 * s) < 0x80000000 :=
  calc cell * (8 * s) = 8 * cell * s := by ring
    _ < (8 * cell + k + 1) * s := Nat.mul_lt_mul_of_pos_right (by omega) hs
    _ ≤ 0x80000000 := h

/-- A glyph with a set pixel has a rectangle for each run of set pixels. -/
theorem exists_forall₂_isRun (hscale : g.scale.Positive) (h : g.OnScreen)
    (hset : ∃ row k, IsSet (glyph g.code) row k) :
    ∃ rects, glyphRects? g = some rects ∧
      List.Forall₂ (fun a r ↦ IsRun g a.1 a.2 r) (locatedRuns (glyph g.code)) rects := by
  obtain ⟨row, k, hset⟩ := hset
  obtain ⟨across, x, hacross, hx, hxInt⟩ :=
    exists_corner? (corner_lt (h.right row k hset) hscale.x) hscale.x
  obtain ⟨down, y, hdown, hy, hyInt⟩ :=
    exists_corner? (corner_lt (h.bottom row k hset) hscale.y) hscale.y
  simp only [glyphRects?, hacross, hx, hdown, hy, Option.bind_eq_bind, Option.bind_some]
  refine forall₂_of_mapM (l := locatedRuns (glyph g.code)) fun a ha ↦ ?_
  obtain ⟨row, run⟩ := a
  obtain ⟨bits, hbits, hrun⟩ := mem_locatedRuns.1 ha
  have hin := runs_range hrun
  have hlast := (isMaximal_of_mem ha).inside (run.1 + run.2 - 1) (by omega) (by omega)
  have hright := h.right _ _ hlast
  rw [show 8 * g.cell.column.toNat + (run.1 + run.2 - 1) + 1 =
    8 * g.cell.column.toNat + run.1 + run.2 by omega] at hright
  exact exists_runRect? hscale hxInt hyInt
    ((List.getElem?_eq_some_iff.1 hbits).1.trans_le (length_glyph _)) hin hright
    (h.bottom _ _ hlast)

/-- The rectangle of an earlier run is above that of a later one, or it is on its left. -/
theorem before_of_isRun {row row' : ℕ} {run run' : ℕ × ℕ} {r s : Rect} (hscale : g.scale.Positive)
    (hr : IsRun g row run r) (hs : IsRun g row' run' s)
    (h : row < row' ∨ row = row' ∧ run.1 + run.2 < run'.1) :
    r.y.toInt + r.height.toNat ≤ s.y.toInt ∨
      r.y.toInt = s.y.toInt ∧ r.x.toInt + r.width.toNat < s.x.toInt := by
  rcases h with hlt | ⟨rfl, hlt⟩
  · have hrow : 8 * g.cell.row.toNat + row < 8 * g.cell.row.toNat + row' := by omega
    rw [hr.top, hr.height, hs.top]
    exact .inl (by exact_mod_cast rowEnd_le (n := g.scale.y.toNat) hrow)
  · have := Nat.mul_lt_mul_of_pos_right
      (show 8 * g.cell.column.toNat + run.1 + run.2 < 8 * g.cell.column.toNat + run'.1 by omega)
      hscale.x
    rw [Nat.add_mul (8 * g.cell.column.toNat + run.1)] at this
    rw [hr.left, hr.width, hs.left]
    exact .inr ⟨by rw [hr.top, hs.top], by exact_mod_cast this⟩

/-- **The rectangles of a glyph with a set pixel are its runs.** -/
theorem exists_areRuns (hscale : g.scale.Positive) (h : g.OnScreen)
    (hset : ∃ row k, IsSet (glyph g.code) row k) :
    ∃ rects, glyphRects? g = some rects ∧ rects ≠ [] ∧ AreRuns g rects := by
  obtain ⟨rects, hrects, hruns⟩ := exists_forall₂_isRun hscale h hset
  have hlocated {r : Rect} (hr : r ∈ rects) : ∃ row run,
      (row, run) ∈ locatedRuns (glyph g.code) ∧ IsRun g row run r := by
    obtain ⟨⟨row, run⟩, ha, hrun⟩ := exists_of_forall₂ hruns hr
    exact ⟨row, run, ha, hrun⟩
  have hbefore : rects.Pairwise fun (r s : Rect) ↦ r.y.toInt + r.height.toNat ≤ s.y.toInt ∨
      r.y.toInt = s.y.toInt ∧ r.x.toInt + r.width.toNat < s.x.toInt :=
    pairwise_of_forall₂ hruns pairwise_locatedRuns fun _ _ _ _ hr hs h ↦
      before_of_isRun hscale hr hs h
  have hcontains (x y : ℤ) : (∃ r ∈ rects, r.Contains x y) ↔ g.Lights x y := by
    rw [← exists_mem_iff_of_forall₂ hruns fun a r h ↦ (h.contains_iff hscale).symm]
    simp only [Text.Lights, ← exists_mem_locatedRuns]
    constructor
    · rintro ⟨⟨row, run⟩, ha, k, hk, hin⟩
      exact ⟨row, k, ⟨run, ha, hk⟩, hin⟩
    · rintro ⟨row, k, ⟨run, ha, hk⟩, hin⟩
      exact ⟨(row, run), ha, k, hk, hin⟩
  refine ⟨rects, hrects, ?_, fun r hr ↦ ?_, fun r hr ↦ ?_, ?_, ?_, hcontains⟩
  · rintro rfl
    obtain ⟨row, k, hset⟩ := hset
    obtain ⟨run, hrun, -⟩ := exists_mem_locatedRuns.2 hset
    rw [List.forall₂_nil_right_iff.1 hruns] at hrun
    cases hrun
  · obtain ⟨row, run, ha, hrun⟩ := hlocated hr
    obtain ⟨bits, -, hmem⟩ := mem_locatedRuns.1 ha
    rw [hrun.width, hrun.height]
    exact ⟨Nat.mul_pos (runs_range hmem).1 hscale.x, hscale.y⟩
  · obtain ⟨row, run, ha, hrun⟩ := hlocated hr
    exact ⟨row, run, hrun, isMaximal_of_mem ha⟩
  · refine hbefore.imp fun h x y hboth ↦ ?_
    simp only [Rect.Contains] at hboth
    omega
  · refine hbefore.imp_of_mem fun {r s} hr hs h heq ↦ ?_
    obtain ⟨row, run, -, hrun⟩ := hlocated hr
    have hhigh := hscale.y
    rw [heq, hrun.height] at h
    omega

/-- The rectangles of a glyph lie in its cell. -/
theorem AreRuns.inCell {rects : List Rect} {r : Rect} (h : AreRuns g rects) (hr : r ∈ rects) :
    InCells g.scale g.cell.column.toNat g.cell.row.toNat 1 r := by
  obtain ⟨row, run, hrun, hmaximal⟩ := h.maximal r hr
  have hwidth := (h.nonempty r hr).1
  rw [hrun.width] at hwidth
  have hpos : 0 < run.2 := Nat.pos_of_mul_pos_right hwidth
  obtain ⟨bits, hbits, hlit⟩ := hmaximal.inside (run.1 + run.2 - 1) (by omega) (by omega)
  have hlast := lt_of_isLit hlit
  have hrow : row < (glyph g.code).length := (List.getElem?_eq_some_iff.1 hbits).1
  exact hrun.inCell (hrow.trans_le (length_glyph _)) (by omega)

end DebugText

/-! ### Batches -/

namespace DebugText

/-- The rectangles of a glyph, if there are any. -/
def rectsOf (g : Placed) : List Rect := (glyphRects? g).getD []

/-- The batch has the color of the first of some glyphs, which the others have as well, and the
rectangles of these glyphs in their order. -/
structure IsBatchOf (placed : List Placed) (b : Batch) (part : List Placed) : Prop where
  /-- The glyphs are in the order in which they were placed. -/
  order : part.Sublist placed
  /-- Their rectangles are those of the batch. -/
  rects : b.rects = part.flatMap rectsOf
  /-- The color is that of the first glyph. -/
  color : ∃ g rest, part = g :: rest ∧ b.color = g.color ∧ ∀ h ∈ rest, b.color.eq h.color = true

/-- The batches are of parts of the glyphs, and each glyph is in one part. -/
structure Groups (placed : List Placed) (batches : List Batch) (parts : List (List Placed)) :
    Prop where
  /-- Each batch is of its part. -/
  batch : List.Forall₂ (IsBatchOf placed) batches parts
  /-- The parts have the glyphs. -/
  all : parts.flatten.Perm placed
  /-- The parts are in the order of their first glyphs. -/
  first : (parts.flatMap (·.take 1)).Sublist placed
  /-- The color of a batch is not that of one before it. -/
  colors : batches.Pairwise fun (b b' : Batch) ↦ b.color.eq b'.color = false

variable {g : Placed} {placed : List Placed} {b : Batch} {batches : List Batch}
  {part : List Placed} {parts : List (List Placed)}

/-- Before the first glyph there is no batch. -/
theorem Groups.nil : Groups [] [] [] := ⟨.nil, .rfl, .slnil, .nil⟩

theorem IsBatchOf.mono (h : IsBatchOf placed b part) : IsBatchOf (placed ++ [g]) b part :=
  ⟨h.order.trans (List.sublist_append_left _ _), h.rects, h.color⟩

/-- A glyph of the color of a batch goes to the end of it. -/
theorem IsBatchOf.add (h : IsBatchOf placed b part) (hcolor : b.color.eq g.color = true) :
    IsBatchOf (placed ++ [g]) { b with rects := b.rects ++ rectsOf g } (part ++ [g]) where
  order := h.order.append (List.Sublist.refl _)
  rects := by rw [List.flatMap_append, List.flatMap_singleton, h.rects]
  color := by
    obtain ⟨first, rest, rfl, hfirst, hrest⟩ := h.color
    refine ⟨first, rest ++ [g], rfl, hfirst, fun k hk ↦ ?_⟩
    rcases List.mem_append.1 hk with hk | hk
    · exact hrest k hk
    · exact List.mem_singleton.1 hk ▸ hcolor

/-- Adding the rectangles of a glyph changes no color, or it adds the color of the glyph, which no
batch has. -/
theorem colors_addRects (color : Vec4) (rects : List Rect) (batches : List Batch) :
    (addRects color rects batches).map (·.color) = batches.map (·.color) ∨
      (addRects color rects batches).map (·.color) = batches.map (·.color) ++ [color] ∧
        ∀ b ∈ batches, b.color.eq color = false := by
  induction batches with
  | nil => exact .inr ⟨rfl, fun _ h ↦ nomatch h⟩
  | cons b rest ih =>
    rw [addRects]
    by_cases hcolor : b.color.eq color = true
    · exact .inl (by rw [if_pos hcolor]; rfl)
    · rw [if_neg hcolor]
      rcases ih with ih | ⟨ih, hrest⟩
      · exact .inl (by rw [List.map_cons, List.map_cons, ih])
      · refine .inr ⟨by rw [List.map_cons, List.map_cons, ih, List.cons_append], ?_⟩
        exact List.forall_mem_cons.2 ⟨Bool.eq_false_iff.2 hcolor, hrest⟩

/-- The colors stay apart when the rectangles of a glyph are added. -/
theorem pairwise_addRects (h : batches.Pairwise fun (b b' : Batch) ↦ b.color.eq b'.color = false)
    (color : Vec4) (rects : List Rect) :
    (addRects color rects batches).Pairwise fun (b b' : Batch) ↦ b.color.eq b'.color = false := by
  have hcolors : (batches.map (·.color)).Pairwise fun c c' ↦ c.eq c' = false :=
    List.pairwise_map.2 h
  have hadded : ((addRects color rects batches).map (·.color)).Pairwise
      fun c c' ↦ c.eq c' = false := by
    rcases colors_addRects color rects batches with heq | ⟨heq, hnew⟩
    · rwa [heq]
    · rw [heq, List.pairwise_append]
      refine ⟨hcolors, List.pairwise_singleton .., fun c hc c' hc' ↦ ?_⟩
      obtain ⟨b, hb, rfl⟩ := List.mem_map.1 hc
      exact List.mem_singleton.1 hc' ▸ hnew b hb
  exact List.pairwise_map.1 hadded

/-- A glyph is added to one of the parts, or it is a part of its own after the others. -/
theorem exists_parts_addRects (h : List.Forall₂ (IsBatchOf placed) batches parts) (g : Placed) :
    ∃ parts',
      List.Forall₂ (IsBatchOf (placed ++ [g])) (addRects g.color (rectsOf g) batches) parts' ∧
      parts'.flatten.Perm (parts.flatten ++ [g]) ∧
      (parts'.flatMap (·.take 1)).Sublist (parts.flatMap (·.take 1) ++ [g]) := by
  induction h with
  | nil =>
    refine ⟨[[g]], .cons ⟨?_, ?_, g, [], rfl, rfl, fun _ h ↦ nomatch h⟩ .nil, .rfl, .refl _⟩
    · exact List.sublist_append_right _ _
    · simp
  | @cons b part rest parts hb hrest ih =>
    rw [addRects]
    by_cases hcolor : b.color.eq g.color = true
    · rw [if_pos hcolor]
      refine ⟨(part ++ [g]) :: parts, .cons (hb.add hcolor) (hrest.imp fun _ _ ↦ .mono), ?_, ?_⟩
      · rw [List.flatten_cons, List.flatten_cons, List.append_assoc, List.append_assoc]
        exact (List.perm_append_comm).append_left part
      · obtain ⟨first, others, rfl, -⟩ := hb.color
        exact List.sublist_append_left _ _
    · rw [if_neg hcolor]
      obtain ⟨parts', hparts, hperm, hsub⟩ := ih
      refine ⟨part :: parts', .cons hb.mono hparts, ?_, ?_⟩
      · rw [List.flatten_cons, List.flatten_cons, List.append_assoc]
        exact hperm.append_left part
      · rw [List.flatMap_cons, List.flatMap_cons, List.append_assoc]
        exact hsub.append_left _

theorem Groups.add (h : Groups placed batches parts) (g : Placed) :
    ∃ parts', Groups (placed ++ [g]) (addRects g.color (rectsOf g) batches) parts' := by
  obtain ⟨parts', hparts, hperm, hsub⟩ := exists_parts_addRects h.batch g
  exact ⟨parts', hparts, hperm.trans (h.all.append_right [g]),
    hsub.trans (h.first.append (List.Sublist.refl _)), pairwise_addRects h.colors _ _⟩

/-- The batches of glyphs that have rectangles are of parts of the glyphs. -/
theorem exists_groups {rest : List Placed} (hrest : ∀ g ∈ rest, (glyphRects? g).isSome)
    (h : Groups placed batches parts) :
    ∃ batches' parts', batches? rest batches = some batches' ∧
      Groups (placed ++ rest) batches' parts' := by
  induction rest generalizing placed batches parts with
  | nil => exact ⟨batches, parts, rfl, by rwa [List.append_nil]⟩
  | cons g rest ih =>
    obtain ⟨rects, hrects⟩ := Option.isSome_iff_exists.1 (hrest g List.mem_cons_self)
    have hrectsOf : rectsOf g = rects := by rw [rectsOf, hrects, Option.getD_some]
    obtain ⟨parts', h'⟩ := h.add g
    obtain ⟨batches'', parts'', hbatches, h''⟩ :=
      ih (fun k hk ↦ hrest k (List.mem_cons_of_mem g hk)) h'
    rw [hrectsOf] at hbatches
    refine ⟨batches'', parts'', ?_, by rwa [List.append_cons]⟩
    rw [batches?, hrects]
    exact hbatches

/-- Batches of glyphs that all have rectangles are not empty, and all rectangles are in them. -/
theorem Groups.rects_ne_nil (h : Groups placed batches parts)
    (hplaced : ∀ g ∈ placed, rectsOf g ≠ []) (hb : b ∈ batches) : b.rects ≠ [] := by
  obtain ⟨part, -, hpart⟩ := exists_of_forall₂ h.batch.flip hb
  obtain ⟨first, rest, rfl, -⟩ := hpart.color
  rw [hpart.rects, List.flatMap_cons]
  exact List.append_ne_nil_of_left_ne_nil
    (hplaced first (hpart.order.subset List.mem_cons_self)) _

/-- The rectangles of the batches are those of the glyphs. -/
theorem Groups.exists_mem_rects (h : Groups placed batches parts) {p : Rect → Prop} :
    (∃ b ∈ batches, ∃ r ∈ b.rects, p r) ↔ ∃ g ∈ placed, ∃ r ∈ rectsOf g, p r := by
  have hparts : (∃ b ∈ batches, ∃ r ∈ b.rects, p r) ↔
      ∃ part ∈ parts, ∃ g ∈ part, ∃ r ∈ rectsOf g, p r := by
    refine exists_mem_iff_of_forall₂ h.batch fun b part hb ↦ ?_
    simp only [hb.rects, List.mem_flatMap]
    constructor
    · rintro ⟨r, ⟨g, hg, hr⟩, hp⟩
      exact ⟨g, hg, r, hr, hp⟩
    · rintro ⟨g, hg, r, hr, hp⟩
      exact ⟨r, ⟨g, hg, hr⟩, hp⟩
  rw [hparts]
  constructor
  · rintro ⟨part, hpart, g, hg, hr⟩
    exact ⟨g, h.all.mem_iff.1 (List.mem_flatten.2 ⟨part, hpart, hg⟩), hr⟩
  · rintro ⟨g, hg, hr⟩
    obtain ⟨part, hpart, hg⟩ := List.mem_flatten.1 (h.all.mem_iff.2 hg)
    exact ⟨part, hpart, g, hg, hr⟩

/-- Text whose glyphs have rectangles is laid out, and its rectangles are those of the glyphs. -/
theorem exists_layout? {t : DebugText} (h : ∀ g ∈ t.placed, (glyphRects? g).isSome) :
    ∃ batches, t.layout? = some batches ∧ ∀ p : Rect → Prop,
      (∃ b ∈ batches, ∃ r ∈ b.rects, p r) ↔ ∃ g ∈ t.placed, ∃ r ∈ rectsOf g, p r := by
  obtain ⟨batches, parts, hbatches, hgroups⟩ := exists_groups h Groups.nil
  rw [List.nil_append] at hgroups
  refine ⟨batches.filter fun b ↦ !b.rects.isEmpty, by simp [layout?, hbatches], fun p ↦ ?_⟩
  rw [← hgroups.exists_mem_rects]
  constructor
  · rintro ⟨b, hb, hr⟩
    exact ⟨b, (List.mem_filter.1 hb).1, hr⟩
  · rintro ⟨b, hb, r, hr, hp⟩
    exact ⟨b, List.mem_filter.2 ⟨hb, by simp [List.ne_nil_of_mem hr]⟩, r, hr, hp⟩

end DebugText

end RenderTargets
