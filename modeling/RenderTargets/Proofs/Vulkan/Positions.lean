import RenderTargets.Proofs.Device.Attachments
/-!
# The positions in a pass

Three lists belong to a pass, and the driver reads them side by side: the attachments of its shape,
the views of its framebuffer, and the values that the attachments are cleared to. They are made
apart from each other, in sections for color, resolving and depth, of which the last two may be
missing. `Pass.LinesUp` says what stands at each position, and `Pass.create_linesUp` that every new
pass lines up.

References are positions as words of 32 bits. Their order is known without a bound, but only a pass
with no more attachments than words has one reference to each attachment.
-/

namespace RenderTargets.Vulkan

open StepWith Run

variable {α : Type}

/-! ### Lists in sections -/

theorem getElem?_second {as bs cs : List α} {i : ℕ} (hi : i < bs.length) :
    (as ++ bs ++ cs)[as.length + i]? = bs[i]? := by
  rw [List.append_assoc, List.getElem?_append_right (Nat.le_add_right _ _), Nat.add_sub_cancel_left,
    List.getElem?_append_left hi]

theorem getElem?_first {as bs cs : List α} {i : ℕ} (hi : i < as.length) :
    (as ++ bs ++ cs)[i]? = as[i]? := by
  rw [List.append_assoc, List.getElem?_append_left hi]

theorem getElem?_last {as bs : List α} {a : α} :
    (as ++ bs ++ [a])[as.length + bs.length]? = some a := by
  rw [← List.length_append, List.getElem?_concat_length]

/-! ### References -/

/-- All references of a pass, in the order of the attachments. -/
def AttachmentSet.references (s : AttachmentSet) : List AttachmentRef :=
  s.colors ++ s.resolves ++ s.depth.toList

namespace PassLayout

variable (l : PassLayout)

@[simp] theorem length_refs {start n : ℕ} {layout : Code} : (refs start n layout).length = n := by
  simp [refs]

theorem getElem?_refs {start n i : ℕ} {layout : Code} (hi : i < n) :
    (refs start n layout)[i]? = some ⟨.ofNat (start + i), layout⟩ := by
  simp [refs, hi]

theorem index_refs {start n : ℕ} {layout : Code} :
    (refs start n layout).map (·.index) = ((List.range n).map (start + ·)).map UInt32.ofNat := by
  simp [refs, Function.comp_def]

@[simp] theorem length_colorAttachments : l.colorAttachments.length = l.colors.length := by
  simp [colorAttachments]

@[simp] theorem length_resolveAttachments :
    l.resolveAttachments.length = if l.resolve then l.colors.length else 0 := by
  rw [resolveAttachments]
  split <;> simp

/-- The attachments are referred to one after the other. -/
theorem index_references : l.attachmentSet.references.map (·.index) =
    (List.range l.attachmentSet.attachments.length).map UInt32.ofNat := by
  simp only [AttachmentSet.references, attachmentSet, List.map_append, index_refs,
    List.length_append, List.range_add, Nat.zero_add, List.map_id']
  congr 1
  cases l.depthFormat <;> simp

end PassLayout

/-- Words that count up from zero without an overflow are all different. -/
theorem count_ofNat_range {n i : ℕ} (hn : n ≤ UInt32.size) (hi : i < n) :
    (((List.range n).map UInt32.ofNat).map UInt32.toNat).count i = 1 := by
  have hself : ((List.range n).map UInt32.ofNat).map UInt32.toNat = List.range n := by
    rw [List.map_map]
    refine (List.map_congr_left fun k hk ↦ ?_).trans (List.map_id _)
    exact UInt32.toNat_ofNat_of_lt' ((List.mem_range.1 hk).trans_le hn)
  rw [hself]
  exact List.count_eq_one_of_mem List.nodup_range (List.mem_range.2 hi)

/-! ### Parts in their order -/

namespace Pass

variable {ctx : Context} {d : PassDesc} {m : TextureMap} {parts : Parts} {ids : List TextureId}

/-- The textures to render into, in the order of the description. -/
theorem forall₂_of_colorTextures {i : ℕ} {ts : List Texture} (h : colorTextures m i ids = .ok ts) :
    List.Forall₂ (fun id t ↦ m.get? id = some t) ids ts := by
  induction ids generalizing i ts with
  | nil =>
    cases h
    exact .nil
  | cons id ids ih =>
    rw [colorTextures] at h
    split at h
    · cases h
    · next t ht =>
      split at h
      · cases h
      · obtain ⟨rest, hrest, h⟩ := exists_ok_of_bind h
        cases h
        exact .cons ht (ih hrest)

/-- Every image to resolve into is there. -/
theorem map_resolve_of_partsOf (h : partsOf d m = .ok parts) (hr : parts.resolves = true) :
    (parts.colors.filterMap fun t ↦ t.resolve.map (·.view)).map some =
      parts.colors.map fun t ↦ t.resolve.map (·.view) := by
  have hsome := (full_of_partsOf h).2 hr
  generalize parts.colors = ts at hsome
  induction ts with
  | nil => rfl
  | cons t ts ih =>
    obtain ⟨i, hi⟩ := Option.isSome_iff_exists.1 (hsome t List.mem_cons_self)
    have htail := ih fun u hu ↦ hsome u (List.mem_cons_of_mem t hu)
    simp [hi, htail]

/-! ### What stands at a position -/

/-- A reference points at a position, a view is there, and it is cleared to some value. -/
structure HasAt (p : Pass) (views : List (Object .view)) (position : ℕ) (ref : Option AttachmentRef)
    (layout : Code) (view : Object .view) (clear : PassAction → Option ClearValue) : Prop where
  /-- The reference. -/
  ref : ref = some ⟨.ofNat position, layout⟩
  /-- The view. -/
  view : views[position]? = some view
  /-- What it is cleared to. -/
  clear : ∀ a, (p.clearValues a)[position]? = clear a

/-- The attachments of the pass, its views and the values that it clears to line up. -/
structure LinesUp (d : PassDesc) (m : TextureMap) (set : AttachmentSet)
    (views : List (Object .view))
    (p : Pass) : Prop where
  /-- The attachments come in three sections. -/
  length : set.attachments.length = d.colors.length + (if p.resolves then d.colors.length else 0) +
    if d.depth.isSome then 1 else 0
  /-- There is a view for each. -/
  length_views : views.length = set.attachments.length
  /-- There is a value for each. -/
  length_clears (a : PassAction) : (p.clearValues a).length = set.attachments.length
  /-- References are there for what is rendered into. -/
  length_colors : set.colors.length = d.colors.length
  /-- References are there for what is resolved into. -/
  length_resolves : set.resolves.length = if p.resolves then d.colors.length else 0
  /-- A reference is there for the depth buffer. -/
  isSome_depth : set.depth.isSome = d.depth.isSome
  /-- The references count up. -/
  order : set.references.map (·.index) = (List.range set.attachments.length).map UInt32.ofNat
  /-- An attachment is referred to once. -/
  once : set.attachments.length ≤ UInt32.size → ∀ i < set.attachments.length,
    (set.references.map (·.index.toNat)).count i = 1
  /-- At first there are the images rendered into, cleared to the colors of the pass or the action.
  -/
  color : ∀ i c, d.colors[i]? = some c → ∃ t, m.get? c.texture = some t ∧
    p.HasAt views i set.colors[i]? layoutColorAttachment t.color.view
      fun a ↦ (d.clearColors a)[i]?.map .color
  /-- Then there are the images resolved into, of one sample. -/
  resolve : p.resolves → ∀ i c, d.colors[i]? = some c →
    ∃ t image, m.get? c.texture = some t ∧ t.resolve = some image ∧
      (set.attachments[d.colors.length + i]?).map (·.samples) = some 1 ∧
      p.HasAt views (d.colors.length + i) set.resolves[i]? layoutColorAttachment image.view
        fun _ ↦ some (.color (.splat .zero))
  /-- In the end there is the depth buffer. -/
  depth : ∀ x, d.depth = some x → ∃ t view, m.get? x = some t ∧ t.depthView? = some view ∧
    p.HasAt views (set.attachments.length - 1) set.depth layoutDepthAttachment view
      fun a ↦ some (.depthStencil (a.depth.getD d.clearDepth) (a.stencil.getD d.clearStencil))

/-- The pass clears to what the description says. -/
structure ClearsTo (d : PassDesc) (p : Pass) : Prop where
  /-- The colors. -/
  colors : p.clearColors = d.colors.map (·.clearColor)
  /-- The depth. -/
  depth : p.clearDepth = d.clearDepth
  /-- The stencil bits. -/
  stencil : p.clearStencil = d.clearStencil

section Parts

variable {p : Pass} (hparts : partsOf d m = .ok parts)
include hparts

theorem length_colors_of_partsOf : parts.colors.length = d.colors.length := by
  have h := (forall₂_of_colorTextures (fit_of_partsOf hparts).colors).length_eq
  rw [← h, PassDesc.textures, List.length_map]

/-- The texture of a color attachment. -/
theorem exists_color_of_partsOf {i : ℕ} {c : ColorAttachment} (hc : d.colors[i]? = some c) :
    ∃ t, parts.colors[i]? = some t ∧ m.get? c.texture = some t := by
  have h := forall₂_of_colorTextures (fit_of_partsOf hparts).colors
  obtain ⟨hi, rfl⟩ := List.getElem?_eq_some_iff.1 hc
  have hi' : i < parts.colors.length := (length_colors_of_partsOf hparts).symm ▸ hi
  refine ⟨parts.colors[i], List.getElem?_eq_getElem hi', ?_⟩
  have := h.get (i := i) (by simpa [PassDesc.textures] using hi) hi'
  simpa [PassDesc.textures] using this

/-- The texture whose depth buffer is used. -/
theorem depth_of_partsOf : (d.depth = none ∧ parts.depth = none) ∨
    ∃ x t f i, d.depth = some x ∧ parts.depth = some t ∧ m.get? x = some t ∧
      t.depth = some (f, i) := by
  rcases depthTexture_eq_ok (fit_of_partsOf hparts).depth with h | ⟨x, t, hx, ht, hfound, hdepth, -⟩
  · exact .inl h
  · obtain ⟨⟨f, i⟩, hi⟩ := Option.isSome_iff_exists.1 hdepth
    exact .inr ⟨x, t, f, i, hx, ht, hfound, hi⟩

theorem isSome_depthFormat_of_partsOf :
    (parts.depth.bind (·.depthFormat?)).isSome = d.depth.isSome := by
  rcases depth_of_partsOf hparts with ⟨hd, ht⟩ | ⟨x, t, f, i, hd, ht, -, hi⟩
  · rw [hd, ht]
    rfl
  · rw [hd, ht, Option.bind_some, Texture.depthFormat?, hi]
    rfl

theorem isSome_depthView_of_partsOf :
    (parts.depth.bind (·.depthView?)).isSome = d.depth.isSome := by
  rcases depth_of_partsOf hparts with ⟨hd, ht⟩ | ⟨x, t, f, i, hd, ht, -, hi⟩
  · rw [hd, ht]
    rfl
  · rw [hd, ht, Option.bind_some, Texture.depthView?, hi]
    rfl

/-- The number of images to resolve into. -/
theorem length_resolveViews_of_partsOf :
    (if parts.resolves then parts.colors.filterMap fun t ↦ t.resolve.map (·.view) else []).length =
      if parts.resolves then d.colors.length else 0 := by
  by_cases hr : parts.resolves
  · have h := congrArg List.length (map_resolve_of_partsOf hparts hr)
    rw [List.length_map, List.length_map, length_colors_of_partsOf hparts] at h
    rw [if_pos hr, if_pos hr, h]
  · rw [if_neg hr, if_neg hr]
    rfl

theorem length_attachments_of_partsOf : (layoutOf ctx d parts).attachmentSet.attachments.length =
    d.colors.length + (if parts.resolves then d.colors.length else 0) +
      if d.depth.isSome then 1 else 0 := by
  have hcolors : (layoutOf ctx d parts).colors.length = d.colors.length := by
    rw [layoutOf, List.length_map, length_colors_of_partsOf hparts]
  have hdepth : (layoutOf ctx d parts).depthFormat.isSome = d.depth.isSome := by
    rw [layoutOf, Option.isSome_map, isSome_depthFormat_of_partsOf hparts]
  have hresolve : (layoutOf ctx d parts).resolve = parts.resolves := rfl
  simp only [PassLayout.attachmentSet, List.length_append, PassLayout.length_colorAttachments,
    PassLayout.length_resolveAttachments, Option.length_toList, Option.isSome_map, hcolors,
    hresolve, hdepth]

theorem length_viewsOf : (viewsOf parts).length =
    d.colors.length + (if parts.resolves then d.colors.length else 0) +
      if d.depth.isSome then 1 else 0 := by
  rw [viewsOf, List.length_append, List.length_append, List.length_map,
    length_colors_of_partsOf hparts, length_resolveViews_of_partsOf hparts, Option.length_toList,
    isSome_depthView_of_partsOf hparts]

theorem length_clearValues (hp : p.IsOf d parts) (hclears : p.ClearsTo d) (a : PassAction) :
    (p.clearValues a).length = d.colors.length + (if parts.resolves then d.colors.length else 0) +
      if d.depth.isSome then 1 else 0 := by
  have hdepth : p.signature.depthFormat.isSome = d.depth.isSome := by
    rw [hp.signature, isSome_depthFormat_of_partsOf hparts]
  simp only [clearValues, hclears.colors, hp.resolves, hdepth, List.length_append, List.length_map]
  split <;> split <;> simp

/-- What is rendered into comes first. -/
theorem hasAt_color (hclears : p.ClearsTo d) {i : ℕ} {c : ColorAttachment}
    (hc : d.colors[i]? = some c) : ∃ t, m.get? c.texture = some t ∧
      p.HasAt (viewsOf parts) i (layoutOf ctx d parts).attachmentSet.colors[i]?
        layoutColorAttachment t.color.view fun a ↦ (d.clearColors a)[i]?.map .color := by
  obtain ⟨t, ht, hfound⟩ := exists_color_of_partsOf hparts hc
  have hi : i < parts.colors.length := (List.getElem?_eq_some_iff.1 ht).1
  have hid : i < d.colors.length := length_colors_of_partsOf hparts ▸ hi
  refine ⟨t, hfound, ?_, ?_, fun a ↦ ?_⟩
  · have hcolors : i < (layoutOf ctx d parts).colors.length := by rwa [layoutOf, List.length_map]
    rw [PassLayout.attachmentSet, PassLayout.length_colorAttachments,
      PassLayout.getElem?_refs hcolors, Nat.zero_add]
  · rw [viewsOf, getElem?_first (by rwa [List.length_map]), List.getElem?_map, ht, Option.map_some]
  · rw [clearValues, getElem?_first (by rwa [hclears.colors, List.length_map, List.length_map]),
      hclears.colors, PassDesc.clearColors]
    simp [hc]

/-- A pass that resolves has a reference to an image of each texture that it renders into, and that
image is the one to resolve into. -/
theorem exists_resolve_of_partsOf (ctx : Context) (hr : parts.resolves) {i : ℕ}
    {c : ColorAttachment}
    (hc : d.colors[i]? = some c) :
    ∃ t image, m.get? c.texture = some t ∧ t.resolve = some image ∧
      parts.colors[i]? = some t ∧
      (layoutOf ctx d parts).attachmentSet.resolves[i]? =
        some ⟨.ofNat (d.colors.length + i), layoutColorAttachment⟩ ∧
      (viewsOf parts)[d.colors.length + i]? = some image.view := by
  obtain ⟨t, ht, hfound⟩ := exists_color_of_partsOf hparts hc
  have hi : i < parts.colors.length := (List.getElem?_eq_some_iff.1 ht).1
  have hlength := length_colors_of_partsOf hparts
  have hcolors : (layoutOf ctx d parts).colors.length = parts.colors.length := by
    rw [layoutOf, List.length_map]
  have hresolves : (layoutOf ctx d parts).resolveAttachments.length = parts.colors.length := by
    rw [PassLayout.length_resolveAttachments, hcolors, if_pos (show (layoutOf ctx d parts).resolve
      from hr)]
  obtain ⟨image, himage⟩ := Option.isSome_iff_exists.1
    ((full_of_partsOf hparts).2 hr t (List.mem_of_getElem? ht))
  refine ⟨t, image, hfound, himage, ht, ?_, ?_⟩
  · rw [PassLayout.attachmentSet, hresolves, PassLayout.getElem?_refs hi,
      PassLayout.length_colorAttachments, hcolors, hlength]
  · have hposition : d.colors.length + i = (parts.colors.map (·.color.view)).length + i := by
      rw [List.length_map, hlength]
    have hviews := map_resolve_of_partsOf hparts hr
    have hview : (parts.colors.filterMap fun t ↦ t.resolve.map (·.view))[i]? = some image.view := by
      have h := congrArg (·[i]?) hviews
      simpa [ht, himage] using h
    rw [hposition, viewsOf, if_pos hr, getElem?_second (List.getElem?_eq_some_iff.1 hview).1, hview]

/-- What is resolved into comes then. -/
theorem hasAt_resolve (hp : p.IsOf d parts) (hclears : p.ClearsTo d) (hr : parts.resolves) {i : ℕ}
    {c : ColorAttachment} (hc : d.colors[i]? = some c) :
    ∃ t image, m.get? c.texture = some t ∧ t.resolve = some image ∧
      ((layoutOf ctx d parts).attachmentSet.attachments[d.colors.length + i]?).map (·.samples) =
        some 1 ∧
      p.HasAt (viewsOf parts) (d.colors.length + i)
        (layoutOf ctx d parts).attachmentSet.resolves[i]? layoutColorAttachment image.view
        fun _ ↦ some (.color (.splat .zero)) := by
  obtain ⟨t, image, hfound, himage, ht, href, hview⟩ :=
    exists_resolve_of_partsOf hparts ctx hr hc
  have hi : i < parts.colors.length := (List.getElem?_eq_some_iff.1 ht).1
  have hlength := length_colors_of_partsOf hparts
  have hcolors : (layoutOf ctx d parts).colors.length = parts.colors.length := by
    rw [layoutOf, List.length_map]
  have hresolves : (layoutOf ctx d parts).resolveAttachments.length = parts.colors.length := by
    rw [PassLayout.length_resolveAttachments, hcolors, if_pos (show (layoutOf ctx d parts).resolve
      from hr)]
  refine ⟨t, image, hfound, himage, ?_, href, hview, fun a ↦ ?_⟩
  · have hposition : d.colors.length + i = (layoutOf ctx d parts).colorAttachments.length + i := by
      rw [PassLayout.length_colorAttachments, hcolors, hlength]
    rw [hposition, PassLayout.attachmentSet, getElem?_second (hresolves ▸ hi),
      PassLayout.resolveAttachments, if_pos (show (layoutOf ctx d parts).resolve from hr), layoutOf]
    simp [ht]
  · have hposition : d.colors.length + i =
        (p.clearColors.map fun c ↦ ClearValue.color (a.color.getD c)).length + i := by
      rw [List.length_map, hclears.colors, List.length_map]
    rw [hposition, clearValues, if_pos (hp.resolves ▸ hr),
      getElem?_second (by rwa [hclears.colors, List.length_map, List.length_map, ← hlength]),
      hclears.colors]
    simp [hc]

/-- The depth buffer comes last. -/
theorem hasAt_depth (hp : p.IsOf d parts) (hclears : p.ClearsTo d) {x : TextureId}
    (hx : d.depth = some x) : ∃ t view, m.get? x = some t ∧ t.depthView? = some view ∧
      p.HasAt (viewsOf parts) ((layoutOf ctx d parts).attachmentSet.attachments.length - 1)
        (layoutOf ctx d parts).attachmentSet.depth layoutDepthAttachment view fun a ↦
        some (.depthStencil (a.depth.getD d.clearDepth) (a.stencil.getD d.clearStencil)) := by
  rcases depth_of_partsOf hparts with ⟨hnone, -⟩ | ⟨y, t, f, i, hy, ht, hfound, hi⟩
  · cases hnone.symm.trans hx
  obtain rfl := Option.some.inj (hy.symm.trans hx)
  have hview : t.depthView? = some i.view := by rw [Texture.depthView?, hi, Option.map_some]
  have hformat : parts.depth.bind (·.depthFormat?) = some f := by
    rw [ht, Option.bind_some, Texture.depthFormat?, hi, Option.map_some]
  refine ⟨t, i.view, hfound, hview, ?_, ?_, fun a ↦ ?_⟩
  · have hdepth : (layoutOf ctx d parts).depthFormat = some (ctx.formatCode f) := by
      rw [layoutOf, hformat, Option.map_some]
    simp [PassLayout.attachmentSet, hdepth]
  · rw [length_attachments_of_partsOf hparts, ← length_viewsOf hparts, viewsOf, ht,
      Option.bind_some, hview, Option.toList_some, List.length_append, List.length_singleton,
      Nat.add_sub_cancel, List.getElem?_concat_length]
  · rw [length_attachments_of_partsOf hparts, ← length_clearValues hparts hp hclears a, clearValues,
      hp.signature, hformat, Option.isSome_some, if_pos rfl, List.length_append,
      List.length_singleton, Nat.add_sub_cancel, List.getElem?_concat_length, hclears.depth,
      hclears.stencil]

/-- A pass that is made of parts lines up. -/
theorem linesUp_of_partsOf (hp : p.IsOf d parts) (hclears : p.ClearsTo d) :
    p.LinesUp d m (layoutOf ctx d parts).attachmentSet (viewsOf parts) := by
  have hlength : (layoutOf ctx d parts).attachmentSet.attachments.length = _ :=
    length_attachments_of_partsOf hparts
  have hcolors : (layoutOf ctx d parts).colors.length = d.colors.length := by
    rw [layoutOf, List.length_map, length_colors_of_partsOf hparts]
  have horder := (layoutOf ctx d parts).index_references
  refine
    { length := by rw [hlength, hp.resolves]
      length_views := by rw [hlength, length_viewsOf hparts]
      length_clears := fun a ↦ by rw [hlength, length_clearValues hparts hp hclears a]
      length_colors := by rw [PassLayout.attachmentSet, PassLayout.length_refs,
        PassLayout.length_colorAttachments, hcolors]
      length_resolves := by rw [PassLayout.attachmentSet, PassLayout.length_refs,
        PassLayout.length_resolveAttachments, hcolors, hp.resolves]; rfl
      isSome_depth := by rw [PassLayout.attachmentSet, Option.isSome_map, layoutOf,
        Option.isSome_map, isSome_depthFormat_of_partsOf hparts]
      order := horder
      once := fun hsize i hi ↦ ?_
      color := fun i c hc ↦ hasAt_color hparts hclears hc
      resolve := fun hr i c hc ↦ hasAt_resolve hparts hp hclears (hp.resolves ▸ hr) hc
      depth := fun x hx ↦ hasAt_depth hparts hp hclears hx }
  have hindices := congrArg (List.map UInt32.toNat) horder
  rw [List.map_map] at hindices
  rw [show (fun r : AttachmentRef ↦ r.index.toNat) = UInt32.toNat ∘ (·.index) from rfl, hindices]
  exact count_ofNat_range hsize hi

end Parts

/-! ### New passes -/

/-- Making a pass is two calls, for its shape and for its images. -/
theorem meets_create_calls {limit : UInt32} {calls : List Call} :
    Meets (fun h ↦ h.driver.calls = calls) (create ctx d m limit)
      (fun p h ↦ ∃ parts, partsOf d m = .ok parts ∧ p.IsOf d parts ∧ p.ClearsTo d ∧
        h.driver.calls =
          .createFramebuffer p.framebuffer ⟨p.renderPass, viewsOf parts, p.extent⟩ ::
          .createRenderPass p.renderPass (layoutOf ctx d parts).attachmentSet :: calls)
      fun _ _ ↦ True := by
  have hmade {kind : ObjectKind} {action : String} {name : CallName} {f : Object kind → Call}
      {base : List Call} : Meets (fun h ↦ h.driver.calls = base)
        (Run.work action (Driver.create name f)) (fun o h ↦ h.driver.calls = f o :: base)
        fun _ _ ↦ True :=
    meets_work (S := fun _ ↦ True) (fun h o e hh he ↦ by
      obtain ⟨-, rfl⟩ := Driver.create_ok he
      rw [Driver.push, ← hh]
      rfl) (fun _ _ _ _ _ ↦ trivial) fun _ _ _ ↦ trivial
  refine .bind (Keeps.ofChecked).lax fun _ ↦ ?_
  split
  · exact .refuse fun _ _ _ ↦ trivial
  · next parts hparts =>
    refine .bind hmade fun pass ↦ .bind (.undoingOnError hmade fun _ ↦ .any) fun framebuffer ↦ ?_
    refine .bind (Q := fun _ h ↦ h.driver.calls = _) (.update fun _ hh ↦ hh) fun _ ↦
      .pure fun _ hh ↦ ?_
    exact ⟨parts, hparts, ⟨rfl, rfl, rfl⟩, ⟨rfl, rfl, rfl⟩, hh⟩

/-- A recorder writes down what the first attachments are cleared to. -/
theorem ClearsTo.recorded {p : Pass} (hclears : p.ClearsTo d) {q : PassId} {a : PassAction}
    {t u : Recorder × Log.Journal} (hd : t.1.passes.get? q = some d)
    (hbegin : GraphicsDevice.beginPass (some q) a t = .ok () u) :
    ∃ colors, u.1.commands = t.1.commands ++ [.beginPass (some q) colors] ∧
      (p.clearValues a).take d.colors.length = colors.map .color := by
  obtain ⟨r, hr, rfl⟩ := Recorder.answer_ok_iff.1 (GraphicsDevice.answer_beginPass hbegin)
  cases hr with
  | beginPass _ hbegins =>
    obtain ⟨d', _, _, _, hd', -, -, hactive⟩ := Recorder.beginOffscreen_eq_ok_iff.1 hbegins
    cases hactive
    obtain rfl := Option.some.inj (hd.symm.trans hd')
    refine ⟨_, rfl, ?_⟩
    have hlength : d.colors.length =
        (p.clearColors.map fun c ↦ ClearValue.color (a.color.getD c)).length := by
      rw [List.length_map, hclears.colors, List.length_map]
    rw [clearValues, List.append_assoc, hlength, List.take_left, hclears.colors,
      PassDesc.clearColors]
    simp [Function.comp_def]

/-- **A new pass lines up.** The attachments of its shape, the views of its framebuffer and what it
clears to are equally long, and at each position there is one texture of the description. A recorder
with the same pass writes down the same colors. -/
theorem create_linesUp {limit : UInt32} {h h' : Host} {p : Pass}
    (hp : create ctx d m limit h = .ok p h') :
    ∃ set views, h'.driver.calls =
        .createFramebuffer p.framebuffer ⟨p.renderPass, views, p.extent⟩ ::
        .createRenderPass p.renderPass set :: h.driver.calls ∧
      p.LinesUp d m set views ∧
      ∀ (t u : Recorder × Log.Journal) (q : PassId) (a : PassAction), t.1.passes.get? q = some d →
        GraphicsDevice.beginPass (some q) a t = .ok () u →
          ∃ colors, u.1.commands = t.1.commands ++ [.beginPass (some q) colors] ∧
            (p.clearValues a).take d.colors.length = colors.map .color := by
  obtain ⟨parts, hparts, hof, hclears, hcalls⟩ := meets_create_calls.ok rfl hp
  exact ⟨_, _, hcalls, linesUp_of_partsOf hparts hof hclears,
    fun _ _ _ _ hd hbegin ↦ hclears.recorded hd hbegin⟩

/-- A pass of two textures that are resolved and a depth buffer. -/
def resolvingPass : PassDesc :=
  ⟨"pass", [⟨⟨1, 1⟩, .black⟩, ⟨⟨2, 1⟩, .black⟩], some ⟨2, 1⟩, .one, 0, .resolve⟩

/-- Such a pass has five attachments. -/
theorem create_linesUp_resolvingPass :
    ∃ (s : Device × Host) (p : Pass) (h : Host) (set : AttachmentSet) (views : _),
      create s.1.context resolvingPass s.1.textures 2 s.2 = .ok p h ∧
      p.LinesUp resolvingPass s.1.textures set views ∧ set.attachments.length = 5 := by
  let texture (name : String) : GraphicsDevice.Command :=
    .createTexture ⟨name, 4, 4, .rgba8Unorm, .sampledAndRenderTarget, 4, some .depth24Stencil8⟩
  obtain ⟨s, -, hcheck⟩ := Device.exists_new Device.plainSurface []
    (fun s ↦ (settleAll ([texture "first", texture "second"].map (·.answer)) s).any fun t ↦
      match create t.1.context resolvingPass t.1.textures 2 t.2 with
      | .ok p _ => p.resolves
      | .error _ _ => false) (by decide +kernel)
  obtain ⟨t, -, hcheck⟩ := (Option.any_eq_true _ _).1 hcheck
  split at hcheck
  · next p h hp =>
    obtain ⟨set, views, -, hlines, -⟩ := create_linesUp hp
    refine ⟨t, p, h, set, views, hp, hlines, ?_⟩
    rw [hlines.length, hcheck]
    rfl
  · cases hcheck

end Pass

end RenderTargets.Vulkan
