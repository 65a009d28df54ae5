import RenderTargets.Proofs.Number.Word
import RenderTargets.Proofs.Rect.Pixels
import RenderTargets.Vulkan.Viewport
/-!
# Edges that words hold

The edges of a rectangle are sums of a signed position and an unsigned size, and are worked out with
signed words. If position, size and edge are signed words as integers (`Rect.Fits`), the sum is
exact, and rectangles can be cleared. A viewport that counts from the bottom has its edges counted
from the top of the target as well, and these are to be words too (`Rect.FitsBelow`).

## Clipping

What is cleared are the parts of rectangles in a target (`exists_clearRects?`), which takes that the
rectangles and the target fit. Otherwise a size may be taken for a negative number. Then a rectangle
that covers the target is passed over, or nothing is cleared at all. But whatever is cleared lies in
the target (`clearRects?_within`), and there is a result as long as the sums are words
(`isSome_clearRects?_iff`).
-/

namespace RenderTargets

namespace Rect

open Word

/-- Width and height are signed words, and so are the far edges. -/
structure Fits (r : Rect) : Prop where
  /-- The width is. -/
  width : r.width.toNat < 0x80000000
  /-- The height is. -/
  height : r.height.toNat < 0x80000000
  /-- The edge after the last pixel in the first direction is. -/
  right : r.x.toInt + r.width.toNat < 0x80000000
  /-- The edge after the last pixel in the second direction is. -/
  bottom : r.y.toInt + r.height.toNat < 0x80000000

/-- The edges that are counted from the bottom of a target of some height are signed words when
they are counted from its top. -/
structure FitsBelow (r : Rect) (height : UInt32) : Prop where
  /-- The upper edge is. -/
  top : -0x80000000 ≤ height.toInt32.toInt - (r.y.toInt + r.height.toNat)
  /-- The lower edge is. -/
  lower : height.toInt32.toInt - r.y.toInt < 0x80000000

instance (r : Rect) : Decidable r.Fits :=
  decidable_of_iff (r.width.toNat < 0x80000000 ∧ r.height.toNat < 0x80000000 ∧
      r.x.toInt + r.width.toNat < 0x80000000 ∧ r.y.toInt + r.height.toNat < 0x80000000)
    ⟨fun ⟨w, h, x, y⟩ ↦ ⟨w, h, x, y⟩, fun h ↦ ⟨h.width, h.height, h.right, h.bottom⟩⟩

instance (r : Rect) (height : UInt32) : Decidable (r.FitsBelow height) :=
  decidable_of_iff (-0x80000000 ≤ height.toInt32.toInt - (r.y.toInt + r.height.toNat) ∧
      height.toInt32.toInt - r.y.toInt < 0x80000000)
    ⟨fun ⟨t, l⟩ ↦ ⟨t, l⟩, fun h ↦ ⟨h.top, h.lower⟩⟩

variable {r : Rect} {rects : List Rect} {e : Vulkan.Extent} {height : UInt32}

theorem Fits.exists_right? (h : r.Fits) :
    ∃ w, r.right? = some w ∧ w.toInt = r.x.toInt + r.width.toNat := by
  have hx := Int32.le_toInt r.x
  rw [right?, addSigned?, toInt_toInt32 h.width]
  exact exists_signed? (by omega) h.right

theorem Fits.exists_bottom? (h : r.Fits) :
    ∃ w, r.bottom? = some w ∧ w.toInt = r.y.toInt + r.height.toNat := by
  have hy := Int32.le_toInt r.y
  rw [bottom?, addSigned?, toInt_toInt32 h.height]
  exact exists_signed? (by omega) h.bottom

end Rect

namespace Vulkan

open Word

variable {r : Rect} {rects : List Rect} {e : Extent} {height : UInt32} {topLeft : Bool}

/-- A rectangle that fits is a viewport, counted from the top or, if its edges fit there as well,
from the bottom. -/
theorem isSome_flippedViewport? (h : r.Fits) (hbelow : topLeft = false → r.FitsBelow height) :
    (flippedViewport? r topLeft height).isSome = true := by
  obtain ⟨bottom, hbottom, hvalue⟩ := h.exists_bottom?
  rw [Rect.bottom?] at hbottom
  cases topLeft with
  | true => simp [flippedViewport?, hbottom]
  | false =>
    obtain ⟨htop, hlower⟩ := hbelow rfl
    have hheight := toInt_toInt32 h.height
    obtain ⟨top, hsub, htopValue⟩ : ∃ w, subSigned? height.toInt32 bottom = some w ∧
        w.toInt = height.toInt32.toInt - bottom.toInt :=
      exists_signed? (by rw [hvalue]; exact htop) (by omega)
    obtain ⟨lower, hadd, -⟩ : ∃ w, addSigned? top r.height.toInt32 = some w ∧
        w.toInt = top.toInt + r.height.toInt32.toInt :=
      exists_signed? (by omega) (by omega)
    simp [flippedViewport?, hbottom, hsub, hadd]

/-! ### Clipping -/

section Clipping

variable {q : Rect} {parts : List Rect} {right bottom : Int32}

/-- A target fits if its width and height do. -/
theorem Extent.fits_rect (hwidth : e.width.toNat < 0x80000000)
    (hheight : e.height.toNat < 0x80000000) : e.rect.Fits where
  width := hwidth
  height := hheight
  right := by
    simp only [Extent.rect, Int32.toInt_zero]
    omega
  bottom := by
    simp only [Extent.rect, Int32.toInt_zero]
    omega

/-- In one direction: a position, the edge after it and the length of the target give where the part
in the target begins, where it ends, and that it is not empty. -/
theorem clipped_span {start stop : Int32} {length : UInt32}
    (h : max start 0 < min stop length.toInt32) :
    (max start 0).toInt = max start.toInt 0 ∧
      (max start 0).toInt + (min stop length.toInt32 - max start 0).toUInt32.toNat =
        min stop.toInt length.toInt32.toInt ∧
      0 < (min stop length.toInt32 - max start 0).toUInt32.toNat := by
  have hstart : (max start 0).toInt = max start.toInt 0 := toInt_max
  have hstop : (min stop length.toInt32).toInt = min stop.toInt length.toInt32.toInt := toInt_min
  rw [Int32.lt_iff_toInt_lt] at h
  have hlength := toNat_toUInt32_sub (a := max start 0) (b := min stop length.toInt32)
    (by omega) (by omega)
  exact ⟨hstart, by omega, by omega⟩

/-- The rectangle `q` is cut out of `r`, which ends at some words, by the edges of a target. -/
structure IsCut (e : Extent) (r : Rect) (right bottom : Int32) (q : Rect) : Prop where
  /-- Where it begins in the first direction. -/
  left : q.x.toInt = max r.x.toInt 0
  /-- Where it ends in the first direction. -/
  right : q.x.toInt + q.width.toNat = min right.toInt e.width.toInt32.toInt
  /-- Where it begins in the second direction. -/
  top : q.y.toInt = max r.y.toInt 0
  /-- Where it ends in the second direction. -/
  bottom : q.y.toInt + q.height.toNat = min bottom.toInt e.height.toInt32.toInt
  /-- Something is left. -/
  hasPixels : q.HasPixels

/-- A rectangle whose far edges are worked out is cut, or nothing of it is left. -/
theorem clipRect?_cases (hright : r.right? = some right) (hbottom : r.bottom? = some bottom) :
    (∃ q, clipRect? e r = some (some q) ∧ IsCut e r right bottom q) ∨
      clipRect? e r = some none ∧ ¬(max r.x.toInt 0 < min right.toInt e.width.toInt32.toInt ∧
        max r.y.toInt 0 < min bottom.toInt e.height.toInt32.toInt) := by
  simp only [clipRect?, hright, hbottom, Option.bind_eq_bind, Option.bind_some]
  split
  · next h =>
    obtain ⟨hx, hright, hwidth⟩ := clipped_span h.1
    obtain ⟨hy, hbottom, hheight⟩ := clipped_span h.2
    exact .inl ⟨_, rfl, hx, hright, hy, hbottom, hwidth, hheight⟩
  · next h =>
    refine .inr ⟨rfl, fun ⟨hx, hy⟩ ↦ h ⟨?_, ?_⟩⟩
    · rwa [Int32.lt_iff_toInt_lt, toInt_max, toInt_min]
    · rwa [Int32.lt_iff_toInt_lt, toInt_max, toInt_min]

/-- What is left of a rectangle has a pixel and lies in the target. -/
theorem clipRect?_within (h : clipRect? e r = some (some q)) :
    q.HasPixels ∧ q.IsWithin e.rect := by
  obtain ⟨right, hright, hrest⟩ := Option.bind_eq_some_iff.1 h
  obtain ⟨bottom, hbottom, -⟩ := Option.bind_eq_some_iff.1 hrest
  rcases clipRect?_cases (e := e) hright hbottom with ⟨q', hq', hcut⟩ | ⟨hnone, -⟩
  · obtain rfl : q = q' := Option.some.inj (Option.some.inj (h.symm.trans hq'))
    have hwidth := toInt_toInt32_le e.width
    have hheight := toInt_toInt32_le e.height
    have ⟨hleft, hright, htop, hbottom, hpixels⟩ := hcut
    refine ⟨hpixels, ?_, ?_, ?_, ?_⟩ <;> simp only [Extent.rect, Int32.toInt_zero] <;> omega
  · cases h.symm.trans hnone

/-- A rectangle that fits is clipped to its part in a target that fits, unless they do not meet. -/
theorem clipRect?_of_fits (hr : r.Fits) (he : e.rect.Fits) :
    (e.rect.Meets r ∧ ∃ q, clipRect? e r = some (some q) ∧ e.rect.IsPart r q) ∨
      ¬e.rect.Meets r ∧ clipRect? e r = some none := by
  obtain ⟨right, hright, hrightValue⟩ := hr.exists_right?
  obtain ⟨bottom, hbottom, hbottomValue⟩ := hr.exists_bottom?
  have hwidth : e.width.toInt32.toInt = e.width.toNat := toInt_toInt32 he.width
  have hheight : e.height.toInt32.toInt = e.height.toNat := toInt_toInt32 he.height
  rw [Rect.meets_iff]
  rcases clipRect?_cases (e := e) hright hbottom with ⟨q, hq, hcut⟩ | ⟨hnone, hempty⟩
  · obtain ⟨hpixels, hwithin⟩ := clipRect?_within hq
    have ⟨hleft, hqright, htop, hqbottom, hpos⟩ := hcut
    have ⟨hwide, hhigh⟩ := hpos
    refine .inl ⟨?_, q, hq, hpixels, hwithin, fun x y ↦ ?_⟩
    · simp only [Extent.rect, Int32.toInt_zero]
      omega
    · simp only [Rect.Contains, Extent.rect, Int32.toInt_zero]
      omega
  · refine .inr ⟨fun hmeets ↦ hempty ?_, hnone⟩
    simp only [Extent.rect, Int32.toInt_zero] at hmeets
    omega

/-! ### Lists of rectangles -/

theorem clearRects?_cons :
    clearRects? e (r :: rects) = do
      return (← clipRect? e r).toList ++ (← clearRects? e rects) := by
  simp only [clearRects?, List.mapM_cons]
  cases clipRect? e r with
  | none => rfl
  | some o => cases rects.mapM (clipRect? e) <;> cases o <;> rfl

/-- Rectangles that fit are clipped to their parts in a target that fits. -/
theorem exists_clearRects? (he : e.rect.Fits) (h : ∀ r ∈ rects, r.Fits) :
    ∃ parts, clearRects? e rects = some parts ∧ e.rect.AreParts rects parts := by
  suffices hparts : ∃ parts, clearRects? e rects = some parts ∧
      List.Forall₂ e.rect.IsPart (rects.filter (e.rect.Meets ·)) parts by
    obtain ⟨parts, hclear, hall⟩ := hparts
    exact ⟨parts, hclear, .of_forall₂ hall⟩
  induction rects with
  | nil => exact ⟨[], rfl, .nil⟩
  | cons r rects ih =>
    obtain ⟨hr, hrects⟩ := List.forall_mem_cons.1 h
    obtain ⟨parts, hclear, hall⟩ := ih hrects
    rw [clearRects?_cons, hclear]
    rcases clipRect?_of_fits hr he with ⟨hmeets, q, hq, hpart⟩ | ⟨hapart, hnone⟩
    · have hkeep : (r :: rects).filter (e.rect.Meets ·) = r :: rects.filter (e.rect.Meets ·) :=
        List.filter_cons_of_pos (decide_eq_true hmeets)
      rw [hq, hkeep]
      exact ⟨q :: parts, rfl, .cons hpart hall⟩
    · have hdrop : (r :: rects).filter (e.rect.Meets ·) = rects.filter (e.rect.Meets ·) :=
        List.filter_cons_of_neg (by simpa using hapart)
      rw [hnone, hdrop]
      exact ⟨parts, rfl, hall⟩

/-- Whatever is left of rectangles lies in the target. -/
theorem clearRects?_within (h : clearRects? e rects = some parts) :
    ∀ q ∈ parts, q.HasPixels ∧ q.IsWithin e.rect := by
  induction rects generalizing parts with
  | nil =>
    cases h
    exact List.forall_mem_nil _
  | cons r rects ih =>
    rw [clearRects?_cons] at h
    obtain ⟨o, ho, hrest⟩ := Option.bind_eq_some_iff.1 h
    obtain ⟨rest, hclear, hparts⟩ := Option.bind_eq_some_iff.1 hrest
    cases hparts
    refine List.forall_mem_append.2 ⟨fun q hq ↦ clipRect?_within (r := r) ?_, ih hclear⟩
    rw [ho, Option.mem_toList.1 hq]

/-- There is a result unless a far edge is no word. -/
theorem isSome_clipRect?_iff :
    (clipRect? e r).isSome ↔ r.right?.isSome ∧ r.bottom?.isSome := by
  cases hright : r.right? with
  | none => simp [clipRect?, hright]
  | some right =>
    cases hbottom : r.bottom? with
    | none => simp [clipRect?, hright, hbottom]
    | some bottom =>
      rcases clipRect?_cases (e := e) hright hbottom with ⟨q, hq, -⟩ | ⟨hnone, -⟩
      · simp [hq]
      · simp [hnone]

/-- There is a result unless a far edge of one of the rectangles is no word. -/
theorem isSome_clearRects?_iff :
    (clearRects? e rects).isSome ↔ ∀ r ∈ rects, r.right?.isSome ∧ r.bottom?.isSome := by
  induction rects with
  | nil => exact iff_of_true rfl (List.forall_mem_nil _)
  | cons r rects ih =>
    rw [clearRects?_cons, List.forall_mem_cons, ← ih, ← isSome_clipRect?_iff (e := e)]
    cases clipRect? e r <;> cases clearRects? e rects <;> simp

/-- Rectangles that fit can be cleared. -/
theorem isSome_clearRects? (h : ∀ r ∈ rects, r.Fits) : (clearRects? e rects).isSome = true := by
  refine isSome_clearRects?_iff.2 fun r hr ↦ ?_
  obtain ⟨right, hright, -⟩ := (h r hr).exists_right?
  obtain ⟨bottom, hbottom, -⟩ := (h r hr).exists_bottom?
  exact ⟨hright ▸ rfl, hbottom ▸ rfl⟩

end Clipping

end Vulkan

end RenderTargets
