import RenderTargets.Proofs.App.Traps
import RenderTargets.Proofs.Rect.Union
/-!
# The panels of the screen

The surfaces of the scene are shown side by side. As long as the right edge of the last panel is a
word, the panels tile the rectangle of their height that is three times as wide: no pixel is in two
of them, and none of it is in none (`App.panels_tile`).

That the panels make up one rectangle is said by their union, as it is worked out on words. So the
union has to mean what it should, which the laws of unions say of all rectangles that fit together
(`Rect.HasUnionLaws`).
-/

namespace RenderTargets.Rect

/-- The rectangles are three parts of another one that leave nothing out and share nothing. -/
structure Tile (p q s whole : Rect) : Prop where
  /-- No two overlap. -/
  apart : p.overlaps? q = some false ∧ p.overlaps? s = some false ∧ q.overlaps? s = some false
  /-- Together they are the whole. -/
  union : (p.union? q >>= fun u ↦ u.union? s) = some whole
  /-- They have as many pixels as the whole. -/
  area : p.area + q.area + s.area = whole.area
  /-- Each pixel of the whole is in exactly one of them. -/
  once : ∀ x y, whole.Contains x y → ∃! r, r ∈ [p, q, s] ∧ r.Contains x y

end RenderTargets.Rect

namespace RenderTargets.App

open Rect

/-! ### Columns -/

/-- The words are those at which three columns of a width begin, and there is a word for where the
last one ends. -/
structure Columns (width : UInt32) (x₀ x₁ x₂ : Int32) : Prop where
  /-- The first one begins at the edge. -/
  first : x₀.toInt = 0
  /-- The second one begins after one column. -/
  second : x₁.toInt = width.toNat
  /-- The third one begins after two columns. -/
  third : x₂.toInt = 2 * width.toNat
  /-- A column has pixels. -/
  width_pos : 0 < width.toNat
  /-- The last column ends at a word. -/
  width_fits : 3 * width.toNat < 0x80000000

/-- The height of something with pixels is a signed word. -/
structure IsHeight (height : UInt32) : Prop where
  /-- There are pixels. -/
  pos : 0 < height.toNat
  /-- It is a signed word. -/
  fits : height.toNat < 0x80000000

namespace Columns

variable {width height : UInt32} {x₀ x₁ x₂ : Int32}

/-- Three times the width is a word. -/
theorem toNat_whole (h : Columns width x₀ x₁ x₂) : (3 * width).toNat = 3 * width.toNat := by
  have hfits := h.width_fits
  rw [UInt32.toNat_mul]
  exact Nat.mod_eq_of_lt (by simp only [UInt32.reduceToNat, Nat.reducePow]; omega)

theorem fitTogether (h : Columns width x₀ x₁ x₂) (hh : IsHeight height) :
    FitTogether [⟨x₀, 0, width, height⟩, ⟨x₁, 0, width, height⟩, ⟨x₂, 0, width, height⟩] := by
  obtain ⟨h₀, h₁, h₂, hpos, hfits⟩ := h
  obtain ⟨hhpos, hhfits⟩ := hh
  have hzero : (0 : Int32).toInt = 0 := rfl
  refine ⟨?_, ?_, ?_, ?_⟩ <;>
    simp only [List.mem_cons, List.not_mem_nil, or_false, forall_eq_or_imp, forall_eq]
  · exact ⟨⟨hpos, hhpos⟩, ⟨hpos, hhpos⟩, ⟨hpos, hhpos⟩⟩
  · refine ⟨⟨?_, ?_, ?_, ?_⟩, ⟨?_, ?_, ?_, ?_⟩, ⟨?_, ?_, ?_, ?_⟩⟩ <;> dsimp only <;> omega
  · omega
  · omega

/-- Two columns of which one begins after the other ends do not overlap. -/
theorem overlaps?_eq_false {a b : Rect} (h : FitTogether [a, b])
    (hab : a.x.toInt + a.width.toNat ≤ b.x.toInt) : a.overlaps? b = some false := by
  have ha : a ∈ [a, b] := by simp
  have hb : b ∈ [a, b] := by simp
  rw [overlaps?_eq (h.hasPixels a ha) (h.hasPixels b hb) (h.fits a ha) (h.fits b hb),
    decide_eq_false]
  rintro ⟨x, y, ⟨⟨-, hx⟩, -⟩, ⟨hx', -⟩, -⟩
  omega

/-- A pixel between the edges is in one column and in no other. -/
theorem existsUnique_column (h : Columns width x₀ x₁ x₂) {x y : ℤ}
    (hx : 0 ≤ x ∧ x < 3 * width.toNat) (hy : 0 ≤ y ∧ y < height.toNat) :
    ∃! r : Rect, r ∈ [⟨x₀, 0, width, height⟩, ⟨x₁, 0, width, height⟩, ⟨x₂, 0, width, height⟩] ∧
      r.Contains x y := by
  obtain ⟨h₀, h₁, h₂, hpos, -⟩ := h
  have hzero : (0 : Int32).toInt = 0 := rfl
  have hcolumn {x' : Int32} : (⟨x', 0, width, height⟩ : Rect).Contains x y ↔
      x'.toInt ≤ x ∧ x < x'.toInt + width.toNat := by
    simp only [Contains, hzero, zero_add, hy, and_self, and_true]
  have hmem {r : Rect} (hr : r ∈ ([⟨x₀, 0, width, height⟩, ⟨x₁, 0, width, height⟩,
      ⟨x₂, 0, width, height⟩] : List Rect)) : ∃ x', r = ⟨x', 0, width, height⟩ ∧
        (x'.toInt = 0 ∨ x'.toInt = width.toNat ∨ x'.toInt = 2 * width.toNat) := by
    simp only [List.mem_cons, List.not_mem_nil, or_false] at hr
    rcases hr with rfl | rfl | rfl
    · exact ⟨x₀, rfl, .inl h₀⟩
    · exact ⟨x₁, rfl, .inr (.inl h₁)⟩
    · exact ⟨x₂, rfl, .inr (.inr h₂)⟩
  obtain ⟨r, hr, hrx⟩ : ∃ r ∈ ([⟨x₀, 0, width, height⟩, ⟨x₁, 0, width, height⟩,
      ⟨x₂, 0, width, height⟩] : List Rect), r.Contains x y := by
    rcases lt_or_ge x x₁.toInt with hlt | hge
    · exact ⟨⟨x₀, 0, width, height⟩, by simp, hcolumn.2 (by omega)⟩
    rcases lt_or_ge x x₂.toInt with hlt | hge'
    · exact ⟨⟨x₁, 0, width, height⟩, by simp, hcolumn.2 (by omega)⟩
    · exact ⟨⟨x₂, 0, width, height⟩, by simp, hcolumn.2 (by omega)⟩
  refine ⟨r, ⟨hr, hrx⟩, ?_⟩
  rintro q ⟨hq, hqx⟩
  obtain ⟨x', rfl, hx'⟩ := hmem hr
  obtain ⟨x'', rfl, hx''⟩ := hmem hq
  rw [hcolumn] at hrx hqx
  -- Columns that begin less than a column apart are the same.
  rw [Int32.toInt_inj.1 (by omega : x''.toInt = x'.toInt)]

/-- Columns of one height tile the rectangle around them. -/
theorem tile (h : Columns width x₀ x₁ x₂) (hh : IsHeight height) :
    Tile ⟨x₀, 0, width, height⟩ ⟨x₁, 0, width, height⟩ ⟨x₂, 0, width, height⟩
      ⟨0, 0, 3 * width, height⟩ := by
  have hfit := h.fitTogether hh
  have hwhole := h.toNat_whole
  have ⟨h₀, h₁, h₂, hpos, _⟩ := h
  have hzero : (0 : Int32).toInt = 0 := rfl
  refine ⟨⟨?_, ?_, ?_⟩, ?_, ?_, ?_⟩
  · exact overlaps?_eq_false (hfit.subset (by simp)) (by dsimp only; omega)
  · exact overlaps?_eq_false (hfit.subset (by simp)) (by dsimp only; omega)
  · exact overlaps?_eq_false (hfit.subset (by simp)) (by dsimp only; omega)
  · have htwo : FitTogether [⟨x₀, 0, width, height⟩, ⟨x₁, 0, width, height⟩] :=
      hfit.subset (by simp)
    obtain ⟨u, hu, hhull⟩ := htwo.exists_union?
    rw [hu]
    refine (hfit.of_isHull hhull).union?_eq ?_
    obtain ⟨hleft, hright, htop, hbottom⟩ := hhull
    refine ⟨?_, ?_, ?_, ?_⟩ <;> dsimp only at * <;> omega
  · simp only [area, hwhole]
    ring
  · rintro x y ⟨hx, hy⟩
    dsimp only at hx hy
    exact h.existsUnique_column (by omega) (by omega)

end Columns

/-! ### Panels -/

variable {width height : UInt32}

/-- The panel at `i` begins after the `i` panels before it. -/
theorem toInt_panel {i : ℕ} (hi : i < 3) (hw : 3 * width.toNat < 0x80000000) :
    (UInt32.ofNat i * width).toInt32.toInt = i * width.toNat := by
  have hle : i * width.toNat ≤ 2 * width.toNat := Nat.mul_le_mul_right _ (by omega)
  have hnat : (UInt32.ofNat i * width).toNat = i * width.toNat := by
    rw [UInt32.toNat_mul, UInt32.toNat_ofNat_of_lt' (by rw [UInt32.size]; omega),
      Nat.mod_eq_of_lt (by omega)]
  rw [Word.toInt_toInt32 (by omega), hnat, Nat.cast_mul]

/-- The panels tile the rectangle of their height that is three times as wide. -/
theorem panels_tile (hw : 0 < width.toNat) (hfit : 3 * width.toNat < 0x80000000)
    (hh : IsHeight height) :
    ∃ p q s, panels? width height = some [p, q, s] ∧ Tile p q s ⟨0, 0, 3 * width, height⟩ := by
  have hsome : (panels? width height).isSome := isSome_panels? (by omega)
  obtain ⟨places, hplaces⟩ := Option.isSome_iff_exists.1 hsome
  rw [places_of_panels? hplaces] at hplaces
  have hcolumns : Columns width (UInt32.ofNat 0 * width).toInt32
      (UInt32.ofNat 1 * width).toInt32 (UInt32.ofNat 2 * width).toInt32 := by
    refine ⟨?_, ?_, ?_, hw, hfit⟩
    · simp
    · simpa using toInt_panel (i := 1) (by omega) hfit
    · simpa using toInt_panel (i := 2) (by omega) hfit
  exact ⟨_, _, _, hplaces, hcolumns.tile hh⟩

/-- **Rectangles overlap, unite and tile as their pixels do.** Of rectangles with pixels that fit
together, overlaps are common pixels and unions are smallest rectangles, with all laws of such. The
panels of the screen do not overlap, have as many pixels as their union, which is the rectangle of
their height that is three times as wide, and each pixel of that is in one of them. -/
theorem unions_and_panels :
    (∀ a b c : Rect, FitTogether [a, b, c] → a.HasUnionLaws b c) ∧
    ∀ width height : UInt32, 0 < width.toNat → 3 * width.toNat < 0x80000000 → IsHeight height →
      ∃ p q s, panels? width height = some [p, q, s] ∧ Tile p q s ⟨0, 0, 3 * width, height⟩ :=
  ⟨fun _ _ _ ↦ FitTogether.hasUnionLaws, fun _ _ ↦ panels_tile⟩

/-- Three rectangles on both sides of the origin, and panels of a hundred columns. -/
theorem unions_and_panels_hundred :
    (⟨-3, -2, 5, 4⟩ : Rect).HasUnionLaws ⟨0, 0, 2, 9⟩ ⟨7, -5, 1, 1⟩ ∧
    ∃ p q s, panels? 100 50 = some [p, q, s] ∧ Tile p q s ⟨0, 0, 300, 50⟩ :=
  ⟨unions_and_panels.1 _ _ _ (by decide),
    unions_and_panels.2 100 50 (by decide) (by decide) ⟨by decide, by decide⟩⟩

end RenderTargets.App
