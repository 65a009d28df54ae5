import RenderTargets.Proofs.Vulkan.Edges
/-!
# Rectangles together

Overlaps and unions are worked out with signed words, but what they say is about pixels. Rectangles
with pixels overlap exactly if they have one in common, and their union is the smallest rectangle
around both, as long as every edge and every side of the rectangle around all of them is a word
(`Rect.FitTogether`).

Everything about unions is read off the edges: those of a union are the outermost ones of the two
rectangles (`Rect.IsHull`), and a rectangle is known by its edges (`Rect.eq_of_edges`). So the laws
of unions are those of the smaller and the larger of two integers.
-/

namespace RenderTargets.Rect

open Word

variable {a b c u v : Rect}

/-! ### Edges -/

/-- Rectangles with pixels, of which the edges are words, and so are the sides of the rectangle
around all of them: its sides are the longest ways from an edge of one to the far edge of another.
-/
structure FitTogether (rects : List Rect) : Prop where
  /-- Each has a pixel. -/
  hasPixels : ∀ r ∈ rects, r.HasPixels
  /-- The sizes and the far edges of each are words. -/
  fits : ∀ r ∈ rects, r.Fits
  /-- The side in the first direction is a word. -/
  across : ∀ r ∈ rects, ∀ q ∈ rects, r.x.toInt + r.width.toNat - q.x.toInt < 0x80000000
  /-- The side in the second direction is a word. -/
  down : ∀ r ∈ rects, ∀ q ∈ rects, r.y.toInt + r.height.toNat - q.y.toInt < 0x80000000

instance (r : Rect) : Decidable r.HasPixels :=
  decidable_of_iff (0 < r.width.toNat ∧ 0 < r.height.toNat)
    ⟨fun ⟨hwidth, hheight⟩ ↦ ⟨hwidth, hheight⟩, fun h ↦ ⟨h.width, h.height⟩⟩

instance (rects : List Rect) : Decidable (FitTogether rects) :=
  decidable_of_iff ((∀ r ∈ rects, r.HasPixels) ∧ (∀ r ∈ rects, r.Fits) ∧
      (∀ r ∈ rects, ∀ q ∈ rects, r.x.toInt + r.width.toNat - q.x.toInt < 0x80000000) ∧
      ∀ r ∈ rects, ∀ q ∈ rects, r.y.toInt + r.height.toNat - q.y.toInt < 0x80000000)
    ⟨fun ⟨hpixels, hfits, hacross, hdown⟩ ↦ ⟨hpixels, hfits, hacross, hdown⟩,
      fun h ↦ ⟨h.hasPixels, h.fits, h.across, h.down⟩⟩

/-- Some of the rectangles fit together as all of them do. -/
theorem FitTogether.subset {rects part : List Rect} (h : FitTogether rects) (hs : part ⊆ rects) :
    FitTogether part where
  hasPixels r hr := h.hasPixels r (hs hr)
  fits r hr := h.fits r (hs hr)
  across r hr q hq := h.across r (hs hr) q (hs hq)
  down r hr q hq := h.down r (hs hr) q (hs hq)

/-- A rectangle is known by its edges. -/
theorem eq_of_edges (hleft : a.x.toInt = b.x.toInt)
    (hright : a.x.toInt + a.width.toNat = b.x.toInt + b.width.toNat)
    (htop : a.y.toInt = b.y.toInt)
    (hbottom : a.y.toInt + a.height.toNat = b.y.toInt + b.height.toNat) : a = b := by
  have hwidth : a.width = b.width := UInt32.toNat_inj.1 (by omega)
  have hheight : a.height = b.height := UInt32.toNat_inj.1 (by omega)
  rw [Int32.toInt_inj] at hleft htop
  cases a
  cases b
  simp_all only

/-- All pixels of a rectangle with pixels are in another one only if its edges are. -/
theorem isWithin_of_contains (ha : a.HasPixels) (h : ∀ x y, a.Contains x y → b.Contains x y) :
    a.IsWithin b := by
  obtain ⟨hwidth, hheight⟩ := ha
  -- The first and the last pixel.
  have hfirst := h a.x.toInt a.y.toInt ⟨⟨by omega, by omega⟩, by omega, by omega⟩
  have hlast := h (a.x.toInt + a.width.toNat - 1) (a.y.toInt + a.height.toNat - 1)
    ⟨⟨by omega, by omega⟩, by omega, by omega⟩
  obtain ⟨⟨hleft, -⟩, htop, -⟩ := hfirst
  obtain ⟨⟨-, hright⟩, -, hbottom⟩ := hlast
  exact ⟨hleft, by omega, htop, by omega⟩

theorem IsWithin.contains (h : a.IsWithin b) {x y : ℤ} (hxy : a.Contains x y) :
    b.Contains x y := by
  obtain ⟨hleft, hright, htop, hbottom⟩ := h
  obtain ⟨⟨hx, hx'⟩, hy, hy'⟩ := hxy
  exact ⟨⟨by omega, by omega⟩, by omega, by omega⟩

/-! ### Overlaps -/

/-- Rectangles with pixels meet if each begins before the other ends, in each direction. -/
theorem meets_iff_lt (ha : a.HasPixels) (hb : b.HasPixels) :
    a.Meets b ↔
      (a.x.toInt < b.x.toInt + b.width.toNat ∧ b.x.toInt < a.x.toInt + a.width.toNat) ∧
      a.y.toInt < b.y.toInt + b.height.toNat ∧ b.y.toInt < a.y.toInt + a.height.toNat := by
  obtain ⟨hawidth, haheight⟩ := ha
  obtain ⟨hbwidth, hbheight⟩ := hb
  rw [meets_iff]
  omega

/-- Rectangles overlap exactly if they have a pixel in common. -/
theorem overlaps?_eq (ha : a.HasPixels) (hb : b.HasPixels) (hfa : a.Fits) (hfb : b.Fits) :
    a.overlaps? b = some (decide (a.Meets b)) := by
  obtain ⟨aright, har, haright⟩ := hfa.exists_right?
  obtain ⟨abottom, hab, habottom⟩ := hfa.exists_bottom?
  obtain ⟨bright, hbr, hbright⟩ := hfb.exists_right?
  obtain ⟨bbottom, hbb, hbbottom⟩ := hfb.exists_bottom?
  simp only [overlaps?, har, hab, hbr, hbb, Option.bind_eq_bind, Option.bind_some,
    Int32.lt_iff_toInt_lt, haright, habottom, hbright, hbbottom, meets_iff_lt ha hb]
  grind

/-! ### Unions -/

/-- The edges of `u` are the outermost ones of `a` and `b`. -/
structure IsHull (a b u : Rect) : Prop where
  /-- The first edge in the first direction. -/
  left : u.x.toInt = min a.x.toInt b.x.toInt
  /-- The far edge in the first direction. -/
  right : u.x.toInt + u.width.toNat = max (a.x.toInt + a.width.toNat) (b.x.toInt + b.width.toNat)
  /-- The first edge in the second direction. -/
  top : u.y.toInt = min a.y.toInt b.y.toInt
  /-- The far edge in the second direction. -/
  bottom :
    u.y.toInt + u.height.toNat = max (a.y.toInt + a.height.toNat) (b.y.toInt + b.height.toNat)

/-- In one direction: the way from one word to another that is not before it. -/
theorem exists_side (start stop : Int32) (hle : start.toInt ≤ stop.toInt)
    (hlt : stop.toInt - start.toInt < 0x80000000) :
    ∃ w, subSigned? stop start = some w ∧ start.toInt + w.toUInt32.toNat = stop.toInt := by
  obtain ⟨w, hw, hvalue⟩ := exists_signed? (z := stop.toInt - start.toInt) (by omega) hlt
  have hpos : 0 ≤ w := Int32.le_iff_toInt_le.2 (by rw [hvalue]; exact Int.sub_nonneg_of_le hle)
  refine ⟨w, hw, ?_⟩
  rw [Int32.toNat_toUInt32_of_le hpos, Int32.toNatClampNeg, hvalue]
  omega

/-- Rectangles that fit together have a union, with the outermost edges. -/
theorem FitTogether.exists_union? (h : FitTogether [a, b]) :
    ∃ u, a.union? b = some u ∧ a.IsHull b u := by
  have hfa := h.fits a (by simp)
  have hfb := h.fits b (by simp)
  have hacross := h.across
  have hdown := h.down
  simp only [List.mem_cons, List.not_mem_nil, or_false, forall_eq_or_imp, forall_eq]
    at hacross hdown
  obtain ⟨aright, har, haright⟩ := hfa.exists_right?
  obtain ⟨abottom, hab, habottom⟩ := hfa.exists_bottom?
  obtain ⟨bright, hbr, hbright⟩ := hfb.exists_right?
  obtain ⟨bbottom, hbb, hbbottom⟩ := hfb.exists_bottom?
  have hleft := toInt_min (a := a.x) (b := b.x)
  have hright := toInt_max (a := aright) (b := bright)
  have htop := toInt_min (a := a.y) (b := b.y)
  have hbottom := toInt_max (a := abottom) (b := bbottom)
  obtain ⟨width, hw, hwidth⟩ :=
    exists_side (min a.x b.x) (max aright bright) (by omega) (by omega)
  obtain ⟨height, hh, hheight⟩ :=
    exists_side (min a.y b.y) (max abottom bbottom) (by omega) (by omega)
  refine ⟨⟨min a.x b.x, min a.y b.y, width.toUInt32, height.toUInt32⟩, ?_,
    hleft, ?_, htop, ?_⟩
  · simp only [union?, har, hab, hbr, hbb, hw, hh, Option.bind_eq_bind, Option.bind_some,
      Option.pure_def]
  · rw [hwidth, hright, haright, hbright]
  · rw [hheight, hbottom, habottom, hbbottom]

/-- The hull of two rectangles fits together with what fitted together with both. -/
theorem FitTogether.of_isHull (h : FitTogether [a, b, c]) (hu : a.IsHull b u) :
    FitTogether [u, c] := by
  obtain ⟨hpixels, hfits, hacross, hdown⟩ := h
  obtain ⟨hleft, hright, htop, hbottom⟩ := hu
  simp only [List.mem_cons, List.not_mem_nil, or_false, forall_eq_or_imp, forall_eq]
    at hpixels hfits hacross hdown
  obtain ⟨⟨hawidth, haheight⟩, ⟨hbwidth, hbheight⟩, hc⟩ := hpixels
  obtain ⟨⟨-, -, har, hab⟩, ⟨-, -, hbr, hbb⟩, hcfits⟩ := hfits
  refine ⟨?_, ?_, ?_, ?_⟩ <;>
    simp only [List.mem_cons, List.not_mem_nil, or_false, forall_eq_or_imp, forall_eq]
  · exact ⟨⟨by omega, by omega⟩, hc⟩
  · exact ⟨⟨by omega, by omega, by omega, by omega⟩, hcfits⟩
  · omega
  · omega

theorem IsHull.symm (h : a.IsHull b u) : b.IsHull a u :=
  ⟨h.left.trans (Int.min_comm ..), h.right.trans (Int.max_comm ..), h.top.trans (Int.min_comm ..),
    h.bottom.trans (Int.max_comm ..)⟩

/-- There is one hull. -/
theorem IsHull.unique (hu : a.IsHull b u) (hv : a.IsHull b v) : u = v :=
  eq_of_edges (hu.left.trans hv.left.symm) (hu.right.trans hv.right.symm)
    (hu.top.trans hv.top.symm) (hu.bottom.trans hv.bottom.symm)

theorem FitTogether.union?_eq (h : FitTogether [a, b]) (hu : a.IsHull b u) :
    a.union? b = some u := by
  obtain ⟨v, hv, hhull⟩ := h.exists_union?
  rw [hv, hhull.unique hu]

/-- The hull of three rectangles is the same whichever two are taken first. -/
theorem IsHull.assoc {ab bc u v : Rect} (hab : a.IsHull b ab) (hu : ab.IsHull c u)
    (hbc : b.IsHull c bc) (hv : a.IsHull bc v) : u = v := by
  apply eq_of_edges
  · rw [hu.left, hab.left, hv.left, hbc.left, Int.min_assoc]
  · rw [hu.right, hab.right, hv.right, hbc.right, Int.max_assoc]
  · rw [hu.top, hab.top, hv.top, hbc.top, Int.min_assoc]
  · rw [hu.bottom, hab.bottom, hv.bottom, hbc.bottom, Int.max_assoc]

theorem isHull_self (a : Rect) : a.IsHull a a :=
  ⟨(Int.min_self _).symm, (Int.max_self _).symm, (Int.min_self _).symm, (Int.max_self _).symm⟩

/-- The rectangle `u` is the smallest one with all pixels of `a` and `b`. -/
structure IsSmallestAround (a b u : Rect) : Prop where
  /-- It has the pixels of `a`. -/
  left : ∀ x y, a.Contains x y → u.Contains x y
  /-- It has the pixels of `b`. -/
  right : ∀ x y, b.Contains x y → u.Contains x y
  /-- Every rectangle that has them has the pixels of `u`. -/
  least : ∀ r : Rect, (∀ x y, a.Contains x y → r.Contains x y) →
    (∀ x y, b.Contains x y → r.Contains x y) → ∀ x y, u.Contains x y → r.Contains x y

theorem IsHull.isSmallestAround (h : a.IsHull b u) (ha : a.HasPixels) (hb : b.HasPixels) :
    a.IsSmallestAround b u := by
  obtain ⟨hleft, hright, htop, hbottom⟩ := h
  refine ⟨fun x y ↦ IsWithin.contains ?_, fun x y ↦ IsWithin.contains ?_,
    fun r har hbr x y ↦ IsWithin.contains ?_⟩
  · exact ⟨by omega, by omega, by omega, by omega⟩
  · exact ⟨by omega, by omega, by omega, by omega⟩
  · obtain ⟨haleft, haright, hatop, habottom⟩ := isWithin_of_contains ha har
    obtain ⟨hbleft, hbright, hbtop, hbbottom⟩ := isWithin_of_contains hb hbr
    exact ⟨by omega, by omega, by omega, by omega⟩

/-! ### Laws -/

/-- What overlaps and unions of rectangles come to. -/
structure HasUnionLaws (a b c : Rect) : Prop where
  /-- There is an answer to whether two overlap, and it says whether they have a common pixel. -/
  overlaps : ∃ answer, a.overlaps? b = some answer ∧ (answer ↔ a.Meets b)
  /-- The order does not matter for it. -/
  overlaps_comm : b.overlaps? a = a.overlaps? b
  /-- Two have a union, and that is the smallest rectangle around both. -/
  union : ∃ u, a.union? b = some u ∧ a.IsSmallestAround b u
  /-- The order does not matter for it. -/
  union_comm : b.union? a = a.union? b
  /-- Three have a union, and it does not matter which two are taken first. -/
  union_assoc : ∃ u, (a.union? b >>= fun ab ↦ ab.union? c) = some u ∧
    (b.union? c >>= fun bc ↦ a.union? bc) = some u
  /-- With itself each is its union. -/
  union_self : a.union? a = some a

theorem Meets.comm : a.Meets b ↔ b.Meets a :=
  ⟨fun ⟨x, y, ha, hb⟩ ↦ ⟨x, y, hb, ha⟩, fun ⟨x, y, hb, ha⟩ ↦ ⟨x, y, ha, hb⟩⟩

theorem FitTogether.union?_comm (h : FitTogether [a, b]) : b.union? a = a.union? b := by
  obtain ⟨u, hu, hhull⟩ := h.exists_union?
  have hba : FitTogether [b, a] := h.subset (by simp)
  rw [hu, hba.union?_eq hhull.symm]

theorem FitTogether.union?_assoc (h : FitTogether [a, b, c]) :
    ∃ u, (a.union? b >>= fun ab ↦ ab.union? c) = some u ∧
      (b.union? c >>= fun bc ↦ a.union? bc) = some u := by
  have hfirst : FitTogether [a, b] := h.subset (by simp)
  have hlast : FitTogether [b, c] := h.subset (by simp)
  have hturned : FitTogether [b, c, a] := h.subset (by simp)
  obtain ⟨ab, hab, habhull⟩ := hfirst.exists_union?
  obtain ⟨bc, hbc, hbchull⟩ := hlast.exists_union?
  have hrest : FitTogether [a, bc] := (hturned.of_isHull hbchull).subset (by simp)
  obtain ⟨u, hu, huhull⟩ := (h.of_isHull habhull).exists_union?
  obtain ⟨v, hv, hvhull⟩ := hrest.exists_union?
  refine ⟨u, by rw [hab, Option.bind_eq_bind, Option.bind_some, hu], ?_⟩
  rw [hbc, Option.bind_eq_bind, Option.bind_some, hv, habhull.assoc huhull hbchull hvhull]

theorem FitTogether.union?_self (h : FitTogether [a]) : a.union? a = some a := by
  have htwice : FitTogether [a, a] := h.subset (by simp)
  exact htwice.union?_eq a.isHull_self

theorem FitTogether.hasUnionLaws (h : FitTogether [a, b, c]) : a.HasUnionLaws b c := by
  have ha : a ∈ [a, b, c] := by simp
  have hb : b ∈ [a, b, c] := by simp
  have hab : FitTogether [a, b] := h.subset (by simp)
  have hoverlap := overlaps?_eq (h.hasPixels a ha) (h.hasPixels b hb) (h.fits a ha) (h.fits b hb)
  have hoverlap' := overlaps?_eq (h.hasPixels b hb) (h.hasPixels a ha) (h.fits b hb) (h.fits a ha)
  obtain ⟨u, hu, hhull⟩ := hab.exists_union?
  refine ⟨⟨_, hoverlap, decide_eq_true_iff⟩, ?_,
    ⟨u, hu, hhull.isSmallestAround (h.hasPixels a ha) (h.hasPixels b hb)⟩, hab.union?_comm,
    h.union?_assoc, (h.subset (by simp)).union?_self⟩
  rw [hoverlap, hoverlap', decide_eq_decide.2 Meets.comm]

end RenderTargets.Rect
