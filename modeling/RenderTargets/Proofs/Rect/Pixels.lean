import Mathlib.Data.Int.Notation
import RenderTargets.Proofs.Lists
import RenderTargets.Rect
/-!
# The pixels of a rectangle

The position of a pixel is a pair of integers, which no word has to hold. So a rectangle has its
pixels also where its far edges are no signed words.

## Parts

The part of a rectangle in a target is a rectangle again, unless the two have no pixel in common.
Several rectangles have as many parts in a target as there are rectangles that meet it
(`Rect.AreParts`), also where these overlap.
-/

namespace RenderTargets.Rect

/-- The pixel is one of the rectangle. -/
def Contains (r : Rect) (x y : ℤ) : Prop :=
  (r.x.toInt ≤ x ∧ x < r.x.toInt + r.width.toNat) ∧ r.y.toInt ≤ y ∧ y < r.y.toInt + r.height.toNat

instance (r : Rect) (x y : ℤ) : Decidable (r.Contains x y) :=
  inferInstanceAs (Decidable ((_ ∧ _) ∧ _ ∧ _))

variable {r q target : Rect} {rects parts : List Rect}

/-! ### Rectangles that meet -/

/-- The rectangle has a pixel. -/
structure HasPixels (r : Rect) : Prop where
  /-- It is not empty in the first direction. -/
  width : 0 < r.width.toNat
  /-- It is not empty in the second direction. -/
  height : 0 < r.height.toNat

/-- The rectangle lies between the edges of another one. -/
structure IsWithin (q r : Rect) : Prop where
  /-- It begins there in the first direction. -/
  left : r.x.toInt ≤ q.x.toInt
  /-- It ends there in the first direction. -/
  right : q.x.toInt + q.width.toNat ≤ r.x.toInt + r.width.toNat
  /-- It begins there in the second direction. -/
  top : r.y.toInt ≤ q.y.toInt
  /-- It ends there in the second direction. -/
  bottom : q.y.toInt + q.height.toNat ≤ r.y.toInt + r.height.toNat

/-- The rectangles have a pixel in common. -/
def Meets (r q : Rect) : Prop := ∃ x y, r.Contains x y ∧ q.Contains x y

/-- Rectangles meet if they do so in each direction. -/
theorem meets_iff :
    r.Meets q ↔
      max r.x.toInt q.x.toInt < min (r.x.toInt + r.width.toNat) (q.x.toInt + q.width.toNat) ∧
      max r.y.toInt q.y.toInt < min (r.y.toInt + r.height.toNat) (q.y.toInt + q.height.toNat) := by
  constructor
  · rintro ⟨x, y, ⟨hrx, hry⟩, hqx, hqy⟩
    exact ⟨by omega, by omega⟩
  · rintro ⟨hx, hy⟩
    refine ⟨max r.x.toInt q.x.toInt, max r.y.toInt q.y.toInt, ⟨⟨?_, ?_⟩, ?_, ?_⟩,
      ⟨?_, ?_⟩, ?_, ?_⟩ <;> omega

instance : Decidable (r.Meets q) := decidable_of_iff _ meets_iff.symm

/-! ### Parts in a target -/

/-- The rectangle `q` is the part of `r` in the target. -/
structure IsPart (target r q : Rect) : Prop where
  /-- It has a pixel. -/
  hasPixels : q.HasPixels
  /-- It lies in the target. -/
  within : q.IsWithin target
  /-- Its pixels are those of `r` in the target. -/
  contains_iff : ∀ x y, q.Contains x y ↔ target.Contains x y ∧ r.Contains x y

/-- The rectangles are the parts of others in a target. -/
structure AreParts (target : Rect) (rects parts : List Rect) : Prop where
  /-- Each has a pixel, and lies in the target. -/
  proper : ∀ q ∈ parts, q.HasPixels ∧ q.IsWithin target
  /-- There is one for each rectangle that meets the target, in the same order. -/
  inOrder : List.Forall₂ target.IsPart (rects.filter (target.Meets ·)) parts
  /-- Together they have the pixels that all rectangles have in the target. -/
  covers : ∀ x y,
    (∃ q ∈ parts, q.Contains x y) ↔ target.Contains x y ∧ ∃ r ∈ rects, r.Contains x y

theorem AreParts.of_forall₂ (h : List.Forall₂ target.IsPart (rects.filter (target.Meets ·)) parts) :
    target.AreParts rects parts where
  proper q hq := by
    obtain ⟨r, -, hpart⟩ := exists_of_forall₂ h hq
    exact ⟨hpart.hasPixels, hpart.within⟩
  inOrder := h
  covers x y := by
    rw [← exists_mem_iff_of_forall₂ h fun r q hpart ↦ (hpart.contains_iff x y).symm]
    constructor
    · rintro ⟨r, hr, htarget, hrect⟩
      exact ⟨htarget, r, (List.mem_filter.1 hr).1, hrect⟩
    · rintro ⟨htarget, r, hr, hrect⟩
      exact ⟨r, List.mem_filter.2 ⟨hr, decide_eq_true ⟨x, y, htarget, hrect⟩⟩, htarget, hrect⟩

end RenderTargets.Rect
