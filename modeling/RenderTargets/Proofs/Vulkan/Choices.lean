import Mathlib.Data.List.Basic
import RenderTargets.Proofs.Number.Word
import RenderTargets.Vulkan.Swapchain
/-!
# What is taken of an offer

A surface says what it offers, and a device takes a format, a way of showing images, a size and a
number of images of it. `SwapchainInfo.IsAdmissible` says what makes such a request a good one. It
depends on the **occasion** of the request: what is offered, the size of the window, and the
swapchain that there is already.

Requests are admissible if the surface is **consistent** (`SurfaceOffer.IsConsistent`): the ranges
that it gives are not empty, and it offers the way of showing images that every surface has to.

## Formats are asked for once

The format of the images is taken when a device is set up and kept from then on, while everything
else is asked for with each request. So an occasion has the formats of the first offer beside the
offer of the day.
-/

namespace RenderTargets.Vulkan

/-! ### Formats -/

namespace SurfaceFormat

/-- Position among the preferred formats. Those that are not preferred come after all of them. -/
def rank (f : SurfaceFormat) : ℕ := preferredFormats.idxOf f.format

/-- The format is preferred, none offered has a better rank, and it is the first one of its rank. -/
structure IsFirstBest (formats : List SurfaceFormat) (f : SurfaceFormat) : Prop where
  /-- It is a preferred one. -/
  preferred : f.format ∈ preferredFormats
  /-- Those offered before it are worse, and those after it are not better. -/
  first : ∃ before after, formats = before ++ f :: after ∧ (∀ g ∈ before, f.rank < g.rank) ∧
    ∀ g ∈ after, f.rank ≤ g.rank

variable {formats : List SurfaceFormat} {f g : SurfaceFormat}

theorem IsFirstBest.mem (h : f.IsFirstBest formats) : f ∈ formats := by
  obtain ⟨before, after, rfl, -, -⟩ := h.first
  exact List.mem_append_right before List.mem_cons_self

/-- A format that is none of the better ones comes after them. -/
theorem length_le_rank {better : List Code} {c : Code} {worse : List Code}
    (hsplit : preferredFormats = better ++ c :: worse) (hg : g.format ∉ better) :
    better.length ≤ g.rank := by
  rw [rank, hsplit, List.idxOf_append_of_notMem hg]
  exact Nat.le_add_right _ _

end SurfaceFormat

open SurfaceFormat

variable {formats : List SurfaceFormat} {f : SurfaceFormat}

/-- The search through the preferred formats finds the first of the best. -/
theorem isFirstBest_of_chosen (h : chooseSurfaceFormat formats = some f) :
    f.IsFirstBest formats := by
  obtain ⟨better, c, worse, hsplit, hfind, hnone⟩ := List.findSome?_eq_some_iff.1 h
  obtain ⟨hc, before, after, rfl, hbefore⟩ := List.find?_eq_some_iff_append.1 hfind
  have hc : f.format = c := by simpa using hc
  have hbetter {g : SurfaceFormat} (hg : g ∈ before ++ f :: after) : g.format ∉ better := by
    intro hmem
    have hno := List.find?_eq_none.1 (hnone _ hmem) g hg
    simp at hno
  have hrank : f.rank = better.length := by
    have hf : f.format ∉ better := hbetter (List.mem_append_right _ List.mem_cons_self)
    rw [rank, hsplit, List.idxOf_append_of_notMem hf, hc, List.idxOf_cons_self, Nat.add_zero]
  refine ⟨hsplit ▸ hc ▸ List.mem_append_right _ List.mem_cons_self, before, after, rfl, ?_, ?_⟩
  · intro g hg
    have hne : g.format ≠ c := by simpa using hbefore g hg
    have hg' := hbetter (List.mem_append_left _ hg)
    rw [hrank, rank, hsplit, List.idxOf_append_of_notMem hg', List.idxOf_cons_ne _ hne.symm]
    omega
  · intro g hg
    rw [hrank]
    exact length_le_rank hsplit (hbetter (List.mem_append_right _ (List.mem_cons_of_mem f hg)))

/-! ### Ways of showing images -/

/-- Only what is offered is taken, and every image is shown if that is wanted. -/
theorem choosePresentMode_spec (modes : List Code) (vsync : Bool) :
    (choosePresentMode modes vsync = presentFifo ∨ choosePresentMode modes vsync ∈ modes) ∧
      (vsync = true → choosePresentMode modes vsync = presentFifo) := by
  rw [choosePresentMode]
  split
  · next h => exact ⟨.inl rfl, fun _ ↦ rfl⟩
  · next h =>
    refine ⟨?_, fun hv ↦ (h hv).elim⟩
    rcases hfind : [presentMailbox, presentImmediate].find? modes.contains with _ | mode
    · exact .inl rfl
    · exact .inr (List.contains_iff_mem.1 (List.find?_some hfind))

/-! ### Sizes -/

/-- The number `m` is `n` brought into the range from `lo` to `hi`. -/
structure BroughtInto (lo hi n m : UInt32) : Prop where
  /-- It is not below the range. -/
  least : lo ≤ m
  /-- It is not above the range. -/
  most : m ≤ hi
  /-- It is the number itself if that is in the range. -/
  same : lo ≤ n → n ≤ hi → m = n
  /-- It is the lower end if the number is below. -/
  below : n < lo → m = lo
  /-- It is the upper end if the number is above. -/
  above : hi < n → m = hi

theorem broughtInto_of_clamp? {n lo hi m : UInt32} (h : clamp? n lo hi = some m) :
    BroughtInto lo hi n m := by
  rw [clamp?] at h
  split at h
  · next hle =>
    obtain rfl := Option.some.inj h
    constructor <;> grind
  · cases h

namespace SurfaceCapabilities

/-- The surface has no size of its own; it will have that of its images. -/
def IsUnsized (c : SurfaceCapabilities) : Prop := c.currentExtent.width = 0xffffffff

instance (c : SurfaceCapabilities) : Decidable c.IsUnsized :=
  inferInstanceAs (Decidable (c.currentExtent.width = 0xffffffff))

/-- The size is right for a window of some size. -/
structure Takes (c : SurfaceCapabilities) (size extent : Extent) : Prop where
  /-- It is the size of the surface if that has one. -/
  sized : ¬c.IsUnsized → extent = c.currentExtent
  /-- If not, it is as wide as the window, if the surface allows that. -/
  width : c.IsUnsized → BroughtInto c.minExtent.width c.maxExtent.width size.width extent.width
  /-- It is as high as the window, if the surface allows that. -/
  height :
    c.IsUnsized → BroughtInto c.minExtent.height c.maxExtent.height size.height extent.height

variable {c : SurfaceCapabilities} {size extent : Extent} {count : UInt32}

theorem takes_of_chosen (h : chooseExtent? c size.width size.height = some extent) :
    c.Takes size extent := by
  rw [chooseExtent?] at h
  split at h
  · next hsized =>
    obtain rfl := Option.some.inj h
    exact ⟨fun _ ↦ rfl, fun hun ↦ (hsized hun).elim, fun hun ↦ (hsized hun).elim⟩
  · next hun =>
    obtain ⟨width, hwidth, h⟩ := Option.bind_eq_some_iff.1 h
    obtain ⟨height, hheight, h⟩ := Option.bind_eq_some_iff.1 h
    obtain rfl := Option.some.inj h
    exact ⟨fun hsized ↦ (hun hsized).elim, fun _ ↦ broughtInto_of_clamp? hwidth,
      fun _ ↦ broughtInto_of_clamp? hheight⟩

/-! ### Numbers of images -/

/-- The surface allows so many images. -/
structure Counts (c : SurfaceCapabilities) (count : UInt32) : Prop where
  /-- There are enough. -/
  least : c.minImages ≤ count
  /-- There are not too many, if there can be. -/
  most : c.maxImages ≠ 0 → count ≤ c.maxImages

/-- One more than the fewest is allowed, or it is the most that are. -/
theorem counts_of_chosen (h : chooseImageCount? c = some count)
    (hc : c.maxImages = 0 ∨ c.minImages ≤ c.maxImages) : c.Counts count := by
  obtain ⟨more, hmore, h⟩ := Option.bind_eq_some_iff.1 h
  have hless : c.minImages ≤ more := by
    have hmore : more.toNat = c.minImages.toNat + 1 := Word.unsigned?_eq_some_iff.1 hmore
    exact UInt32.le_iff_toNat_le.2 (by omega)
  by_cases hmax : c.maxImages = 0
  · rw [if_neg (by simp [hmax])] at h
    obtain rfl := Option.some.inj h
    exact ⟨hless, fun hne ↦ (hne hmax).elim⟩
  · rw [if_pos (UInt32.pos_iff_ne_zero.2 hmax)] at h
    obtain rfl := Option.some.inj h
    have hmin : min more c.maxImages = if more ≤ c.maxImages then more else c.maxImages := rfl
    rw [hmin]
    split
    · next hle => exact ⟨hless, fun _ ↦ hle⟩
    · exact ⟨hc.resolve_left hmax, fun _ ↦ UInt32.le_refl _⟩

end SurfaceCapabilities

/-! ### Requests -/

/-- What the surface says of itself makes sense. -/
structure SurfaceOffer.IsConsistent (o : SurfaceOffer) : Prop where
  /-- The least width is not above the largest. -/
  width : o.capabilities.minExtent.width ≤ o.capabilities.maxExtent.width
  /-- The least height is not above the largest. -/
  height : o.capabilities.minExtent.height ≤ o.capabilities.maxExtent.height
  /-- The fewest images are not above the most, if there is a most. -/
  images : o.capabilities.maxImages = 0 ∨ o.capabilities.minImages ≤ o.capabilities.maxImages
  /-- There can be one image more than the fewest. -/
  oneMore : o.capabilities.minImages < 0xffffffff
  /-- Every image can be shown. -/
  fifo : presentFifo ∈ o.modes

instance (o : SurfaceOffer) : Decidable o.IsConsistent :=
  decidable_of_iff (o.capabilities.minExtent.width ≤ o.capabilities.maxExtent.width ∧
      o.capabilities.minExtent.height ≤ o.capabilities.maxExtent.height ∧
      (o.capabilities.maxImages = 0 ∨ o.capabilities.minImages ≤ o.capabilities.maxImages) ∧
      o.capabilities.minImages < 0xffffffff ∧ presentFifo ∈ o.modes)
    ⟨fun ⟨w, h, i, m, f⟩ ↦ ⟨w, h, i, m, f⟩,
      fun h ↦ ⟨h.width, h.height, h.images, h.oneMore, h.fifo⟩⟩

/-- When a swapchain is asked for. -/
structure Occasion where
  /-- The formats offered when the device was set up. -/
  formats : List SurfaceFormat
  /-- Images are to be shown in step with the screen. -/
  vsync : Bool
  /-- What the surface offers. -/
  offer : SurfaceOffer
  /-- Size of the window. -/
  size : Extent
  /-- The swapchain there is; null if there is none. -/
  current : Object .swapchain

/-- The request is a good one on the occasion. -/
structure SwapchainInfo.IsAdmissible (o : Occasion) (info : SwapchainInfo) : Prop where
  /-- The format was offered, and is the first of the best. -/
  format : info.format.IsFirstBest o.formats
  /-- The way of showing images is offered. -/
  mode : info.mode ∈ o.offer.modes
  /-- Every image is shown if they are shown in step with the screen. -/
  vsync : o.vsync = true → info.mode = presentFifo
  /-- There may be so many images. -/
  images : o.offer.capabilities.Counts info.minImages
  /-- The size is the right one. -/
  extent : o.offer.capabilities.Takes o.size info.extent
  /-- The images have pixels. -/
  pixels : info.extent.width ≠ 0 ∧ info.extent.height ≠ 0
  /-- The swapchain there is will be replaced. -/
  old : info.old = o.current

namespace Swapchain

/-- The screen is one that gets to the occasion. -/
structure StandsAt (o : Occasion) (s : Swapchain) : Prop where
  /-- Its format is the first of the best. -/
  format : s.surfaceFormat.IsFirstBest o.formats
  /-- It shows images as wanted. -/
  vsync : s.vsync = o.vsync
  /-- It has the swapchain there is. -/
  current : s.swapchain = o.current

variable {s : Swapchain} {o : Occasion} {modes : List Code} {extent : Extent}
  {info : SwapchainInfo}

/-- What a screen asks for is admissible, also if it could not find out in which ways images can be
shown. -/
theorem StandsAt.isAdmissible (hs : s.StandsAt o) (ho : o.offer.IsConsistent)
    (hmodes : modes = o.offer.modes ∨ modes = [])
    (hextent : chooseExtent? o.offer.capabilities o.size.width o.size.height = some extent)
    (hpixels : ¬(extent.width = 0 ∨ extent.height = 0))
    (h : s.infoOf o.offer.capabilities modes extent = some info) : info.IsAdmissible o := by
  obtain ⟨count, hcount, h⟩ := Option.bind_eq_some_iff.1 h
  obtain rfl := Option.some.inj h
  obtain ⟨hmode, hfifo⟩ := choosePresentMode_spec modes s.vsync
  exact {
    format := hs.format
    mode := by
      rcases hmode with hmode | hmode
      · exact hmode ▸ ho.fifo
      · rcases hmodes with rfl | rfl
        · exact hmode
        · cases hmode
    vsync := fun hv ↦ hfifo (hs.vsync.trans hv)
    images := SurfaceCapabilities.counts_of_chosen hcount ho.images
    extent := SurfaceCapabilities.takes_of_chosen hextent
    pixels := not_or.1 hpixels
    old := hs.current }

end Swapchain

end RenderTargets.Vulkan
