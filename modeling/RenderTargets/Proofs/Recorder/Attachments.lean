import RenderTargets.Proofs.Slot.Twins
import RenderTargets.Proofs.Step.Triple
import RenderTargets.Recorder.Resources
/-!
# Attachments of the recorder

The recorder compares every attachment of a new pass with the one before it, and asks of the texture
for depth only that it is alive and has a depth buffer. So the attachments of a pass are alive and
alike, all of them (`checkAttachments_eq_ok_iff`), but **depth may come from a texture of another
size** (`checkDepth_eq_ok_iff`).

Textures may be released while a pass of theirs is kept. What stays of the check is `Fitted`: the
attachments were known to the store, and those that are left are alike.
-/

namespace RenderTargets

/-- The textures have one size and one sample count. -/
structure TextureDesc.Alike (t u : TextureDesc) : Prop where
  /-- They are equally wide. -/
  width : t.width = u.width
  /-- They are equally high. -/
  height : t.height = u.height
  /-- They have equally many samples. -/
  samples : t.samples = u.samples

namespace TextureDesc.Alike

variable {t u v : TextureDesc}

theorem refl (t : TextureDesc) : t.Alike t := ⟨rfl, rfl, rfl⟩

theorem symm (h : t.Alike u) : u.Alike t := ⟨h.width.symm, h.height.symm, h.samples.symm⟩

theorem trans (h : t.Alike u) (h' : u.Alike v) : t.Alike v :=
  ⟨h.width.trans h'.width, h.height.trans h'.height, h.samples.trans h'.samples⟩

end TextureDesc.Alike

theorem TextureDesc.not_alike_iff {t u : TextureDesc} :
    ¬t.Alike u ↔ t.width ≠ u.width ∨ t.height ≠ u.height ∨ t.samples ≠ u.samples := by
  refine ⟨fun h ↦ ?_, ?_⟩
  · by_contra! hall
    exact h ⟨hall.1, hall.2.1, hall.2.2⟩
  · rintro (h | h | h) hall
    · exact h hall.width
    · exact h hall.height
    · exact h hall.samples

/-- A pass that passes the checks has an attachment, and no more than the limit. -/
theorem PassDesc.length_of_validate {d : PassDesc} {limit : UInt32}
    (h : d.validate limit = .ok ()) : d.colors ≠ [] ∧ d.colors.length ≤ limit.toNat := by
  rw [validate, throw_bind_eq_ok_iff, throw_bind_eq_ok_iff] at h
  obtain ⟨hempty, hlength, -⟩ := h
  exact ⟨fun hnil ↦ hempty (List.isEmpty_iff.2 hnil), Nat.le_of_not_gt hlength⟩

namespace Recorder

variable {r : Recorder} {ids : List TextureId} {id : TextureId} {before : TextureDesc}

/-! ### The checks of a new pass -/

/-- Every texture is like the one before the first. -/
theorem checkAttachments_some_eq_ok_iff : r.checkAttachments (some before) ids = .ok () ↔
    ∀ id ∈ ids, ∃ t, r.textures.get? id = some t ∧ t.Alike before := by
  induction ids generalizing before with
  | nil => exact iff_of_true rfl (by simp)
  | cons id rest ih =>
    rw [checkAttachments, List.forall_mem_cons]
    rcases ht : r.textures.get? id with _ | t
    · simp [throw, throwThe, MonadExceptOf.throw]
    by_cases hlike : t.Alike before
    · have hno : ¬(t.width ≠ before.width ∨ t.height ≠ before.height ∨
          t.samples ≠ before.samples) := fun h ↦ TextureDesc.not_alike_iff.2 h hlike
      have hgo : r.checkAttachments (some t) rest = .ok () ↔
          ∀ id ∈ rest, ∃ u, r.textures.get? id = some u ∧ u.Alike before :=
        ih.trans <| forall₂_congr fun _ _ ↦ exists_congr fun _ ↦
          and_congr_right fun _ ↦ ⟨fun h ↦ h.trans hlike, fun h ↦ h.trans hlike.symm⟩
      simpa [hno, hlike] using hgo
    · have hyes := TextureDesc.not_alike_iff.1 hlike
      simp [hyes, hlike, throw, throwThe, MonadExceptOf.throw, bind, Except.bind]

/-- Every texture is alive, and all of them are alike. -/
theorem checkAttachments_eq_ok_iff : r.checkAttachments none ids = .ok () ↔
    ∃ first, ∀ id ∈ ids, ∃ t, r.textures.get? id = some t ∧ t.Alike first := by
  rcases ids with _ | ⟨id, rest⟩
  · exact iff_of_true rfl ⟨default, by simp⟩
  rw [checkAttachments]
  rcases ht : r.textures.get? id with _ | t
  · simp [ht, throw, throwThe, MonadExceptOf.throw]
  refine checkAttachments_some_eq_ok_iff.trans ⟨fun h ↦ ⟨t, ?_⟩, ?_⟩
  · exact List.forall_mem_cons.2 ⟨⟨t, ht, .refl t⟩, h⟩
  · rintro ⟨first, hfirst⟩ id' hid'
    obtain ⟨u, hu, hlike⟩ := hfirst id' (List.mem_cons_of_mem _ hid')
    obtain ⟨_, ht', hhead⟩ := hfirst id (List.mem_cons_self ..)
    obtain rfl := Option.some.inj (ht.symm.trans ht')
    exact ⟨u, hu, hlike.trans hhead.symm⟩

/-- The texture for depth is alive and has a depth buffer. -/
theorem checkDepth_eq_ok_iff : r.checkDepth (some id) = .ok () ↔
    ∃ t, r.textures.get? id = some t ∧ t.depth.isSome := by
  rw [checkDepth]
  rcases ht : r.textures.get? id with _ | t
  · simp [throw, throwThe, MonadExceptOf.throw]
  · rcases hd : t.depth with _ | f <;>
      simp [hd, throw, throwThe, MonadExceptOf.throw, pure, Except.pure]

/-! ### What stays of the checks -/

/-- The attachments were textures of the store, and those that still are, are alike. -/
structure Fitted (m : Slot.Map ResourceKind.texture TextureDesc) (d : PassDesc) : Prop where
  /-- There are not too many to be counted. -/
  length_lt : d.colors.length < UInt32.size
  /-- Each was alive once. -/
  knows : ∀ id ∈ d.textures, m.Knows id
  /-- Those alive are alike. -/
  alike : ∀ id ∈ d.textures, ∀ id' ∈ d.textures, ∀ t t', m.get? id = some t →
    m.get? id' = some t' → t.Alike t'

theorem Fitted.of_checks {d : PassDesc} (valid : d.validate r.maxColors = .ok ())
    (attachments : r.checkAttachments none d.textures = .ok ()) : Fitted r.textures d := by
  obtain ⟨first, hfirst⟩ := checkAttachments_eq_ok_iff.1 attachments
  refine ⟨?_, fun id hid ↦ ?_, fun id hid id' hid' t t' ht ht' ↦ ?_⟩
  · exact Nat.lt_of_le_of_lt (PassDesc.length_of_validate valid).2 r.maxColors.toNat_lt_size
  · obtain ⟨t, ht, -⟩ := hfirst id hid
    exact Slot.Map.knows_of_get? ht
  · obtain ⟨_, hu, hlike⟩ := hfirst id hid
    obtain ⟨_, hu', hlike'⟩ := hfirst id' hid'
    obtain rfl := Option.some.inj (ht.symm.trans hu)
    obtain rfl := Option.some.inj (ht'.symm.trans hu')
    exact hlike.trans hlike'.symm

theorem Fitted.of_precedes {m m' : Slot.Map ResourceKind.texture TextureDesc} {d : PassDesc}
    (h : Fitted m d) (hm : m.Precedes m') : Fitted m' d where
  length_lt := h.length_lt
  knows id hid := hm.knows (h.knows id hid)
  alike id hid id' hid' t t' ht ht' :=
    h.alike id hid id' hid' t t' (hm.found (h.knows id hid) ht) (hm.found (h.knows id' hid') ht')

end Recorder

end RenderTargets
