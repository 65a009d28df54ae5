import Mathlib.Data.List.Basic
import RenderTargets.Proofs.Number.Word
import RenderTargets.Text.Layout
/-!
# Text that fits the screen coordinates

A glyph is drawn at its cell times the cell size, as signed words, and each lit run of a row adds to
that. No product or sum leaves its word as long as the far edges of the run are at most `2 ^ 31`
(`DebugText.exists_runRect?`). The rectangle of a run lies in the cell of its glyph
(`Text.IsRun.inCell`).

A line in the middle of an area ends half its length after the middle of the area, or it starts at
the left edge (`DebugText.centered_le`). So whether it fits can be told from the area and the scale.
If the area has room for it, the margins are as large as whole cells allow
(`DebugText.inMiddle_centered`).
-/

namespace RenderTargets

open Text Word

/-! ### Glyphs -/

namespace Text

/-- A pixel of the font has some pixels of the screen. -/
structure Scale.Positive (s : Scale) : Prop where
  /-- Across. -/
  x : 0 < s.x.toNat
  /-- And down. -/
  y : 0 < s.y.toNat

/-- A number of pixels is not zero. -/
theorem wholePixels_pos (s : Single) : 0 < (wholePixels s).toNat := by
  rw [wholePixels]
  split
  · rw [UInt32.toNat_ofNat_of_lt' (by
      have : UInt32.size = 0x100000000 := rfl
      omega)]
    omega
  · exact Nat.one_pos

/-- The rectangle is that of a run in a row of a glyph. -/
structure IsRun (g : Placed) (row : Nat) (run : Nat × Nat) (r : Rect) : Prop where
  /-- It begins with the first pixel of the run. -/
  left : r.x.toInt = ((8 * g.cell.column.toNat + run.1) * g.scale.x.toNat : Nat)
  /-- It begins with the row. -/
  top : r.y.toInt = ((8 * g.cell.row.toNat + row) * g.scale.y.toNat : Nat)
  /-- It has the pixels of the run. -/
  width : r.width.toNat = run.2 * g.scale.x.toNat
  /-- It has the pixels of one row. -/
  height : r.height = g.scale.y

/-- The rectangle lies in a line of `n` cells of a row, from a column on. -/
structure InCells (scale : Scale) (column row n : Nat) (r : Rect) : Prop where
  /-- It begins in the first cell or after it. -/
  left : (column * (8 * scale.x.toNat) : Nat) ≤ r.x.toInt
  /-- It ends in the last cell or before it. -/
  right : r.x.toInt + r.width.toNat ≤ ((column + n) * (8 * scale.x.toNat) : Nat)
  /-- It begins in the row. -/
  top : (row * (8 * scale.y.toNat) : Nat) ≤ r.y.toInt
  /-- It ends there. -/
  bottom : r.y.toInt + r.height.toNat ≤ ((row + 1) * (8 * scale.y.toNat) : Nat)

/-- The rectangle of a run lies in the cell of its glyph. -/
theorem IsRun.inCell {g : Placed} {row : Nat} {run : Nat × Nat} {r : Rect} (h : IsRun g row run r)
    (hrow : row < 8) (hrun : run.1 + run.2 ≤ 8) :
    InCells g.scale g.cell.column.toNat g.cell.row.toNat 1 r := by
  have hcell (c s : Nat) : c * (8 * s) = 8 * c * s := by rw [← Nat.mul_assoc, Nat.mul_comm c]
  refine ⟨?_, ?_, ?_, ?_⟩
  · rw [h.left, hcell]
    exact_mod_cast Nat.mul_le_mul_right _ (Nat.le_add_right _ _)
  · rw [h.left, h.width, hcell, ← Int.natCast_add, ← Nat.add_mul]
    exact_mod_cast Nat.mul_le_mul_right _ (by omega)
  · rw [h.top, hcell]
    exact_mod_cast Nat.mul_le_mul_right _ (Nat.le_add_right _ _)
  · rw [h.top, h.height, hcell, ← Int.natCast_add, ← Nat.succ_mul]
    exact_mod_cast Nat.mul_le_mul_right _ (by omega)

/-- A cell of a line is part of the line. -/
theorem InCells.mono {scale : Scale} {column first row n : Nat} {r : Rect}
    (h : InCells scale column row 1 r) (hfirst : first ≤ column) (hlast : column < first + n) :
    InCells scale first row n r := by
  have hleft := Nat.mul_le_mul_right (8 * scale.x.toNat) hfirst
  have hright : (column + 1) * (8 * scale.x.toNat) ≤ (first + n) * (8 * scale.x.toNat) :=
    Nat.mul_le_mul_right _ hlast
  have hl := h.left
  have hr := h.right
  exact ⟨by omega, by omega, h.top, h.bottom⟩

/-- A glyph has no more rows than its cell. -/
theorem length_glyph (code : Nat) : (glyph code).length ≤ 8 := by
  have hrows : ∀ rows ∈ glyphs, rows.length ≤ 8 := by decide
  rw [glyph]
  cases h : glyphs[(if hasGlyph code then code else substitute) - firstGlyph]? with
  | none => exact Nat.zero_le 8
  | some rows => exact hrows rows (List.mem_of_getElem? h)

end Text

namespace DebugText

/-- The runs found in consecutive columns lie within them and are not empty. -/
theorem runs_range' {row : UInt8} {first n : Nat} {run : Nat × Nat}
    (h : run ∈ runs row (List.range' first n)) :
    first ≤ run.1 ∧ 0 < run.2 ∧ run.1 + run.2 ≤ first + n := by
  induction n generalizing first run with
  | zero => cases h
  | succ n ih =>
    rw [List.range'_succ, runs] at h
    split at h
    · split at h
      · next s m more heq =>
        have hrest : ∀ r ∈ (s, m) :: more,
            first + 1 ≤ r.1 ∧ 0 < r.2 ∧ r.1 + r.2 ≤ first + 1 + n :=
          fun r hr ↦ ih (heq ▸ hr)
        have hs := hrest (s, m) List.mem_cons_self
        split at h
        · rcases List.mem_cons.1 h with rfl | h
          · simp only at hs ⊢
            omega
          · have := hrest run (List.mem_cons_of_mem _ h)
            omega
        · rcases List.mem_cons.1 h with rfl | h
          · simp only
            omega
          · have := hrest run h
            omega
      · rw [List.mem_singleton.1 h]
        simp only
        omega
    · have := ih h
      omega

/-- The runs of a row of a glyph lie within its cell and are not empty. -/
theorem runs_range {row : UInt8} {run : Nat × Nat} (h : run ∈ runs row (List.range 8)) :
    0 < run.2 ∧ run.1 + run.2 ≤ 8 := by
  rw [List.range_eq_range'] at h
  have := runs_range' h
  omega

/-- A number of pixels of the font is a word as pixels of the screen. -/
theorem exists_mul?_pixels {n : Nat} {s : UInt32} (hn : n ≤ 8) (h : n * s.toNat < UInt32.size) :
    ∃ w, mul? (.ofNat n) s = some w ∧ w.toNat = n * s.toNat := by
  have hsize : UInt32.size = 0x100000000 := rfl
  have hofNat : (UInt32.ofNat n).toNat = n := UInt32.toNat_ofNat_of_lt' (by omega)
  rw [← hofNat] at h
  exact (exists_mul? h).imp fun w hw ↦ ⟨hw.1, by rw [hw.2, hofNat]⟩

/-- A run has its rectangle if the pixels for its last one are counted by signed words. -/
theorem exists_runRect? {g : Placed} (hscale : g.scale.Positive) {x y : Int32}
    (hx : x.toInt = (g.cell.column.toNat * (8 * g.scale.x.toNat) : Nat))
    (hy : y.toInt = (g.cell.row.toNat * (8 * g.scale.y.toNat) : Nat))
    {row : Nat} (hrow : row < 8) {run : Nat × Nat} (hrun : 0 < run.2 ∧ run.1 + run.2 ≤ 8)
    (hright : (8 * g.cell.column.toNat + run.1 + run.2) * g.scale.x.toNat ≤ 0x80000000)
    (hbottom : (8 * g.cell.row.toNat + row + 1) * g.scale.y.toNat ≤ 0x80000000) :
    ∃ r, runRect? g.scale x y row run = some r ∧ IsRun g row run r := by
  have hsize : UInt32.size = 0x100000000 := rfl
  have hlast : g.scale.x.toNat ≤ run.2 * g.scale.x.toNat := Nat.le_mul_of_pos_left _ hrun.1
  have hacross : (8 * g.cell.column.toNat + run.1 + run.2) * g.scale.x.toNat =
      g.cell.column.toNat * (8 * g.scale.x.toNat) + run.1 * g.scale.x.toNat +
        run.2 * g.scale.x.toNat := by
    rw [Nat.add_mul, Nat.add_mul, Nat.mul_comm 8, Nat.mul_assoc]
  have hdown : (8 * g.cell.row.toNat + row + 1) * g.scale.y.toNat =
      g.cell.row.toNat * (8 * g.scale.y.toNat) + row * g.scale.y.toNat + g.scale.y.toNat := by
    rw [Nat.succ_mul, Nat.add_mul, Nat.mul_comm 8, Nat.mul_assoc]
  have hwide := hscale.x
  have hhigh := hscale.y
  obtain ⟨start, hstart, hstartNat⟩ :=
    exists_mul?_pixels (n := run.1) (s := g.scale.x) (by omega) (by omega)
  obtain ⟨width, hwidth, hwidthNat⟩ :=
    exists_mul?_pixels (n := run.2) (s := g.scale.x) (by omega) (by omega)
  have hstartInt := toInt_toInt32 (w := start) (by omega)
  obtain ⟨left, hleft, hleftInt⟩ : ∃ w, addSigned? x start.toInt32 = some w ∧
      w.toInt = x.toInt + start.toInt32.toInt := exists_signed? (by omega) (by omega)
  -- A scale that is no signed word is as large as the screen, and then the row is the first one.
  have hproduct :
      (Int32.ofNat row).toInt * g.scale.y.toInt32.toInt = (row * g.scale.y.toNat : Nat) := by
    have hrowInt : (Int32.ofNat row).toInt = row := Int32.toInt_ofNat_of_lt (by omega)
    rcases Nat.eq_zero_or_pos row with rfl | hpos
    · rw [hrowInt, Nat.zero_mul]
      exact Int.zero_mul _
    · have := Nat.le_mul_of_pos_left g.scale.y.toNat hpos
      rw [hrowInt, toInt_toInt32 (by omega), Int.natCast_mul]
  obtain ⟨down, hdown?, hdownInt⟩ :
      ∃ w, mulSigned? (Int32.ofNat row) g.scale.y.toInt32 = some w ∧
        w.toInt = (row * g.scale.y.toNat : Nat) := by
    rw [mulSigned?, hproduct]
    exact exists_signed? (by omega) (by omega)
  obtain ⟨top, htop, htopInt⟩ : ∃ w, addSigned? y down = some w ∧ w.toInt = y.toInt + down.toInt :=
    exists_signed? (by omega) (by omega)
  refine ⟨⟨left, top, width, g.scale.y⟩, ?_, ?_, ?_, hwidthNat, rfl⟩
  · simp [runRect?, hstart, hleft, hdown?, htop, hwidth]
  · rw [Nat.add_mul, Nat.mul_comm 8, Nat.mul_assoc]
    simp only
    omega
  · rw [Nat.add_mul, Nat.mul_comm 8, Nat.mul_assoc]
    simp only
    omega

/-- The corner of a cell is a signed word. -/
theorem exists_corner? {c s : UInt32} (h : c.toNat * (8 * s.toNat) < 0x80000000)
    (hs : 0 < s.toNat) :
    ∃ pixels w, mul? c glyphSize = some pixels ∧ mul? pixels s = some w ∧
      w.toInt32.toInt = (c.toNat * (8 * s.toNat) : Nat) := by
  have hsize : UInt32.size = 0x100000000 := rfl
  rw [← Nat.mul_assoc] at h ⊢
  have hle : c.toNat * 8 ≤ c.toNat * 8 * s.toNat := Nat.le_mul_of_pos_right _ hs
  obtain ⟨pixels, hpixels, hvalue⟩ : ∃ w, mul? c glyphSize = some w ∧ w.toNat = c.toNat * 8 :=
    exists_mul? (by
      change c.toNat * 8 < _
      omega)
  obtain ⟨w, hw, hwNat⟩ := exists_mul? (a := pixels) (b := s) (by
    rw [hvalue]
    omega)
  rw [hvalue] at hwNat
  exact ⟨pixels, w, hpixels, hw, by rw [toInt_toInt32 (by omega), hwNat]⟩

/-! ### Lines -/

/-- A line of `n` characters in the middle of an area ends at a signed word, and so does its row:
it takes at most `2 ^ 31` pixels, and no more than `2 ^ 32` together with the area. -/
structure Centers (t : DebugText) (n : Nat) (width height : UInt32) : Prop where
  /-- The pixels across the line. -/
  line : n * (8 * t.scale.x.toNat) ≤ 0x80000000
  /-- The pixels down the line. -/
  row : 8 * t.scale.y.toNat ≤ 0x80000000
  /-- With the width of the area. -/
  across : width.toNat + n * (8 * t.scale.x.toNat) ≤ 0x100000000
  /-- With the height of the area. -/
  down : height.toNat + 8 * t.scale.y.toNat ≤ 0x100000000

/-- Cells centered in an extent of pixels end in its middle and half their own extent, or they start
at its beginning. -/
theorem centered_le (extent n size : Nat) :
    ((extent / size - n) / 2 + n) * size ≤ max (n * size) ((extent + n * size) / 2) := by
  by_cases h : extent / size ≤ n
  · rw [Nat.sub_eq_zero_of_le h, Nat.zero_div, Nat.zero_add]
    exact Nat.le_max_left ..
  · have hfit : extent / size * size ≤ extent := Nat.div_mul_le_self ..
    have hhalf : 2 * ((extent / size - n) / 2 + n) ≤ extent / size + n := by omega
    have hdouble := Nat.mul_le_mul_right size hhalf
    rw [Nat.mul_assoc, Nat.add_mul (extent / size)] at hdouble
    omega

/-- A block of cells is in the middle of an extent of pixels, up to a difference of the margins that
is less than two cells. -/
structure InMiddle (extent size start stop : Nat) : Prop where
  /-- It ends in the extent. -/
  stop_le : stop ≤ extent
  /-- The margin after it is as large as the one before it, or larger. -/
  le_after : start ≤ extent - stop
  /-- It is larger by less than two cells. -/
  after_lt : extent - stop < start + 2 * size

/-- Centered cells that are no more than there are in an extent are in the middle of it. -/
theorem inMiddle_centered {extent n size : Nat} (hsize : 0 < size) (h : n * size ≤ extent) :
    InMiddle extent size ((extent / size - n) / 2 * size)
      (((extent / size - n) / 2 + n) * size) := by
  obtain ⟨c, hc⟩ : ∃ c, c = (extent / size - n) / 2 := ⟨_, rfl⟩
  have hle : n ≤ extent / size := (Nat.le_div_iff_mul_le hsize).2 h
  have hcells : extent / size = n + 2 * c ∨ extent / size = n + 2 * c + 1 := by omega
  have hextent : size * (extent / size) + extent % size = extent := Nat.div_add_mod ..
  have hrest : extent % size < size := Nat.mod_lt _ hsize
  have hmargin : size * (n + 2 * c) = n * size + 2 * (c * size) := by
    rw [Nat.mul_add, Nat.mul_comm size, Nat.mul_left_comm, Nat.mul_comm size]
  rw [← hc, Nat.add_mul]
  -- An odd number of cells is left over where the margins differ by one cell and a part of one.
  rcases hcells with hcells | hcells <;> rw [hcells] at hextent
  · rw [hmargin] at hextent
    exact ⟨by omega, by omega, by omega⟩
  · rw [Nat.mul_succ, hmargin] at hextent
    exact ⟨by omega, by omega, by omega⟩

/-- A line is centered if it and its cells are counted by words. -/
theorem exists_centered? (t : DebugText) (text : String) (width height : UInt32)
    (hlength : text.length < UInt32.size) (hwide : 8 * t.scale.x.toNat < UInt32.size)
    (hhigh : 8 * t.scale.y.toNat < UInt32.size) :
    ∃ place, t.centered? text width height = some place ∧
      place.column.toNat = (width.toNat / (8 * t.scale.x.toNat) - text.length) / 2 ∧
      place.row.toNat = (height.toNat / (8 * t.scale.y.toNat) - 1) / 2 := by
  obtain ⟨cellWidth, hcellWidth, hcellWidthNat⟩ : ∃ w, mul? glyphSize t.scale.x = some w ∧
      w.toNat = 8 * t.scale.x.toNat := exists_mul? hwide
  obtain ⟨cellHeight, hcellHeight, hcellHeightNat⟩ : ∃ w, mul? glyphSize t.scale.y = some w ∧
      w.toNat = 8 * t.scale.y.toNat := exists_mul? hhigh
  have hofNat : (UInt32.ofNat text.length).toNat = text.length :=
    UInt32.toNat_ofNat_of_lt' hlength
  refine ⟨⟨monus (width / cellWidth) (UInt32.ofNat text.length) / 2,
    monus (height / cellHeight) 1 / 2⟩, ?_, ?_, ?_⟩
  · simp [centered?, columnsFor?, rowsFor?, cellSize?, hcellWidth, hcellHeight]
  · simp only [UInt32.toNat_div, toNat_monus, hofNat, hcellWidthNat]
    rfl
  · simp only [UInt32.toNat_div, toNat_monus, hcellHeightNat]
    rfl

/-- A line that fits is centered where all its glyphs fit. -/
theorem Centers.exists_centered? {t : DebugText} {text : String} {width height : UInt32}
    (h : t.Centers text.length width height) (hwide : 0 < t.scale.x.toNat)
    (hlength : 0 < text.length) :
    ∃ place, t.centered? text width height = some place ∧
      (place.column.toNat + text.length) * (8 * t.scale.x.toNat) ≤ 0x80000000 ∧
      (place.row.toNat + 1) * (8 * t.scale.y.toNat) ≤ 0x80000000 := by
  have hsize : UInt32.size = 0x100000000 := rfl
  obtain ⟨hline, hrow, hacross, hdown⟩ := h
  have hcells : text.length ≤ text.length * (8 * t.scale.x.toNat) :=
    Nat.le_mul_of_pos_right _ (by omega)
  have hcell : 8 * t.scale.x.toNat ≤ text.length * (8 * t.scale.x.toNat) :=
    Nat.le_mul_of_pos_left _ hlength
  obtain ⟨place, hplace, hcolumn, hrow'⟩ :=
    DebugText.exists_centered? t text width height (by omega) (by omega) (by omega)
  have hright := centered_le width.toNat text.length (8 * t.scale.x.toNat)
  have hbottom := centered_le height.toNat 1 (8 * t.scale.y.toNat)
  rw [← hcolumn] at hright
  rw [← hrow'] at hbottom
  exact ⟨place, hplace, by omega, by omega⟩

end DebugText

end RenderTargets
