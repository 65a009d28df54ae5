import RenderTargets.Proofs.Device.Reached
import RenderTargets.Proofs.Recorder.Accepts
import RenderTargets.Proofs.Recorder.Attachments
/-!
# Moments of a recorder

What a handle means now is what it meant before, as long as no version starts over. The versions of
the recorder are bounded by the number of resources that it **released** (`Settled`), so for that
number below half the versions every command leaves a later moment (`Accepts.settled`): handles
stay known, and what a known handle finds it found before.

## What a recorder says of the attachments of its passes

When a pass is made, the recorder compares its attachments with each other and looks the texture for
depth up. When it begins, only the pass itself and its **first** attachment are looked up. So of all
others a pass that begins knows just what holds of any pass: they are alive or were released since
the pass was made (`Reached.attached`).
-/

namespace RenderTargets.Recorder

variable {r r' r'' : Recorder} {c : GraphicsDevice.Command} {answer : Option ResourceId}

/-- `r'` is a later moment of `r`. -/
structure Precedes (r r' : Recorder) : Prop where
  /-- Textures keep their handles. -/
  textures : r.textures.Precedes r'.textures
  /-- Passes keep their handles. -/
  passes : r.passes.Precedes r'.passes

theorem Precedes.trans (h : r.Precedes r') (h' : r'.Precedes r'') : r.Precedes r'' :=
  ⟨h.textures.trans h'.textures, h.passes.trans h'.passes⟩

/-- Versions are bounded by the number of releases, and passes are of textures that were there. -/
structure Settled (r : Recorder) : Prop where
  /-- Of textures. -/
  textures : r.textures.Worn r.destroyed.total
  /-- Of passes. -/
  passes : r.passes.Worn r.destroyed.total
  /-- The attachments of a pass fit. -/
  fitted : ∀ q d, r.passes.get? q = some d → Fitted r.textures d

theorem settled_fresh (features : Features) (maxColors : UInt32) (display : Display)
    (failAt : Option (ResourceKind × Nat)) (quitAfter : Option Nat) :
    (fresh features maxColors display failAt quitAfter).Settled where
  textures := .empty
  passes := .empty
  fitted q d hd := by cases Slot.Map.get?_empty.symm.trans hd

/-- Only the stores and the number of releases count. -/
theorem Settled.congr (h : r.Settled) (textures : r'.textures = r.textures)
    (passes : r'.passes = r.passes) (destroyed : r'.destroyed = r.destroyed) : r'.Settled where
  textures := by rw [textures, destroyed]; exact h.textures
  passes := by rw [passes, destroyed]; exact h.passes
  fitted := by rw [textures, passes]; exact h.fitted

theorem Precedes.of_eq (textures : r'.textures = r.textures) (passes : r'.passes = r.passes) :
    r.Precedes r' where
  textures := textures ▸ .refl _
  passes := passes ▸ .refl _

/-- Releasing a resource leaves a later moment. -/
theorem Settled.remove? (h : r.Settled) {id : ResourceId} (hr : r.remove? id = some r')
    (hlt : 2 * (r.destroyed.total + 1) < UInt32.size) :
    r.Precedes r' ∧ r'.textures.Worn (r.destroyed.total + 1) ∧
      r'.passes.Worn (r.destroyed.total + 1) := by
  have htextures := h.textures.mono (Nat.le_succ _)
  have hpasses := h.passes.mono (Nat.le_succ _)
  cases id with
  | texture x =>
    obtain ⟨⟨t, textures⟩, hx, rfl⟩ := Option.map_eq_some_iff.1 hr
    exact ⟨⟨.remove h.textures hlt hx, .refl _⟩, h.textures.remove hlt hx, hpasses⟩
  | pass q =>
    obtain ⟨⟨d, passes⟩, hq, rfl⟩ := Option.map_eq_some_iff.1 hr
    exact ⟨⟨.refl _, .remove h.passes hlt hq⟩, htextures, h.passes.remove hlt hq⟩
  | mesh _ | shader _ | pipeline _ =>
    obtain ⟨_, -, rfl⟩ := Option.map_eq_some_iff.1 hr
    exact ⟨.of_eq rfl rfl, htextures, hpasses⟩

/-- Passes that are left were there. -/
theorem passes_of_remove? {id : ResourceId} (hr : r.remove? id = some r') {q : PassId}
    {d : PassDesc} (hd : r'.passes.get? q = some d) : r.passes.get? q = some d := by
  cases id <;> obtain ⟨⟨_, _⟩, hx, rfl⟩ := Option.map_eq_some_iff.1 hr
  case pass => exact Slot.Map.get?_of_remove hx hd
  all_goals exact hd

/-- The number of releases does not go down. -/
theorem Accepts.destroyed_le (h : r.Accepts c answer r') :
    r.destroyed.total ≤ r'.destroyed.total := by
  cases h with
  | destroy hr =>
    rw [remove?_frame hr]
    simp
  | _ => exact Nat.le_refl _

/-- A command leaves a later moment, as long as no version starts over. -/
theorem Accepts.settled (h : r.Accepts c answer r') (hs : r.Settled)
    (hlt : 2 * r'.destroyed.total < UInt32.size) : r'.Settled ∧ r.Precedes r' := by
  cases h with
  | createTexture _ _ hi =>
    have hm : r.textures.Precedes _ := .insert? hi
    exact ⟨⟨hs.textures.insert? hi, hs.passes, fun q d hd ↦ (hs.fitted q d hd).of_precedes hm⟩,
      hm, .refl _⟩
  | @createPass d q _ hvalid hattachments _ _ hi =>
    refine ⟨⟨hs.textures, hs.passes.insert? hi, fun q' d' hd' ↦ ?_⟩, .refl _, .insert? hi⟩
    by_cases hq : q' = q
    · subst hq
      obtain rfl := Option.some.inj ((Slot.Map.get?_insert?_self hi).symm.trans hd')
      exact Fitted.of_checks (r := r) hvalid hattachments
    · exact hs.fitted q' d' ((Slot.Map.get?_insert?_of_ne hi hq).symm.trans hd')
  | @destroy id r₁ hr =>
    have htotal : (r₁.destroyed.bump id.kind).total = r.destroyed.total + 1 := by
      rw [remove?_frame hr, Tally.total_bump]
    obtain ⟨hm, htextures, hpasses⟩ := hs.remove? hr (htotal ▸ hlt)
    refine ⟨⟨htotal ▸ htextures, htotal ▸ hpasses, fun q d hd ↦ ?_⟩, hm.textures, hm.passes⟩
    exact (hs.fitted q d (passes_of_remove? hr hd)).of_precedes hm.textures
  | createMesh | createShader | createPipeline | beginPass | applyViewport | applyDrawState
  | applyUniforms | draw | fillRects | endPass | commitFrame | requestQuit =>
    exact ⟨hs.congr rfl rfl rfl, .of_eq rfl rfl⟩

/-- A pass that is there after a command was there before it, or is what the command made. -/
theorem Accepts.passes_cases (h : r.Accepts c answer r') {q : PassId} {d : PassDesc}
    (hd : r'.passes.get? q = some d) :
    r.passes.get? q = some d ∨ c = .createPass d ∧ answer = some (.pass q) := by
  cases h with
  | @createPass d' q' _ _ _ _ _ hi =>
    by_cases hq : q = q'
    · subst hq
      obtain rfl := Option.some.inj ((Slot.Map.get?_insert?_self hi).symm.trans hd)
      exact .inr ⟨rfl, rfl⟩
    · exact .inl ((Slot.Map.get?_insert?_of_ne hi hq).symm.trans hd)
  | destroy hr => exact .inl (passes_of_remove? hr hd)
  | createTexture | createMesh | createShader | createPipeline | beginPass | applyViewport
  | applyDrawState | applyUniforms | draw | fillRects | endPass | commitFrame | requestQuit =>
    exact .inl hd

end RenderTargets.Recorder

/-! ### Attachments of passes -/

namespace RenderTargets.Recorder

open Log GraphicsDevice

/-- A new recorder, whatever it was set to. -/
def IsFresh (s : Recorder × Journal) : Prop :=
  ∃ features maxColors display failAt quitAfter,
    s.1 = fresh features maxColors display failAt quitAfter

/-- The commands recorded so far are taken away. -/
def Drains (s t : Recorder × Journal) : Prop := t = (s.1.takeCommands.2, s.2)

/-- What a new recorder gets to. -/
abbrev Reached : List (GraphicsDevice.Command × Option ResourceId) → Recorder × Journal → Prop :=
  GraphicsDevice.Reached IsFresh Drains

variable {l : List (GraphicsDevice.Command × Option ResourceId)} {r r' : Recorder}
  {s u : Recorder × Journal} {c : GraphicsDevice.Command} {a : Option ResourceId} {q : PassId}
  {d : PassDesc} {x : TextureId}

/-- The textures of a new pass are alive. -/
theorem contains_of_checks (hcolors : r.checkAttachments none d.textures = .ok ())
    (hdepth : r.checkDepth d.depth = .ok ()) (hx : d.Attaches x) : r.textures.contains x := by
  rcases hx with hx | hx
  · obtain ⟨first, hfirst⟩ := checkAttachments_eq_ok_iff.1 hcolors
    obtain ⟨t, ht, -⟩ := hfirst x hx
    exact Option.isSome_of_eq_some ht
  · rw [hx] at hdepth
    obtain ⟨t, ht, -⟩ := checkDepth_eq_ok_iff.1 hdepth
    exact Option.isSome_of_eq_some ht

/-- A texture is alive until it is released. -/
theorem Accepts.contains (h : r.Accepts c a r') (hx : r.textures.contains x) :
    r'.textures.contains x ∨ c = .destroy (.texture x) ∧ a = none ∧ ¬r'.textures.contains x := by
  cases h with
  | createTexture _ _ hi => exact .inl ((Slot.Map.contains_insert? hi).2 (.inr hx))
  | @destroy id r₁ hr =>
    cases id with
    | texture y =>
      obtain ⟨⟨t, textures⟩, ht, rfl⟩ := Option.map_eq_some_iff.1 hr
      by_cases hy : x = y
      · exact .inr ⟨hy ▸ rfl, rfl, fun hlive ↦ ((Slot.Map.contains_remove ht).1 hlive).1 hy⟩
      · exact .inl ((Slot.Map.contains_remove ht).2 ⟨hy, hx⟩)
    | mesh _ | shader _ | pipeline _ | pass _ =>
      obtain ⟨_, -, rfl⟩ := Option.map_eq_some_iff.1 hr
      exact .inl hx
  | createMesh | createShader | createPipeline | createPass | beginPass | applyViewport
  | applyDrawState | applyUniforms | draw | fillRects | endPass | commitFrame | requestQuit =>
    exact .inl hx

/-- A texture that is alive was so before, or was just made. -/
theorem Accepts.of_contains (h : r.Accepts c a r') (hx : r'.textures.contains x) :
    r.textures.contains x ∨ ∃ t, c = .createTexture t ∧ a = some (.texture x) := by
  cases h with
  | createTexture _ _ hi =>
    rcases (Slot.Map.contains_insert? hi).1 hx with rfl | hx
    · exact .inr ⟨_, rfl, rfl⟩
    · exact .inl hx
  | @destroy id r₁ hr =>
    cases id <;> obtain ⟨⟨_, m⟩, hm, rfl⟩ := Option.map_eq_some_iff.1 hr
    case texture => exact .inl ((Slot.Map.contains_remove hm).1 hx).2
    all_goals exact .inl hx
  | createMesh | createShader | createPipeline | createPass | beginPass | applyViewport
  | applyDrawState | applyUniforms | draw | fillRects | endPass | commitFrame | requestQuit =>
    exact .inl hx

/-- A pass that is there after a command was just made, or was there and is not the answer. -/
theorem Accepts.pass (h : r.Accepts c a r') (hd : r'.passes.get? q = some d) :
    (r.passes.get? q = some d ∧ a ≠ some (.pass q)) ∨
      c = .createPass d ∧ a = some (.pass q) ∧
        ∀ x, d.Attaches x → r'.textures.contains x := by
  cases h with
  | @createPass d' q' _ _ hcolors hdepth _ hi =>
    by_cases hq : q = q'
    · subst hq
      obtain rfl := Option.some.inj ((Slot.Map.get?_insert?_self hi).symm.trans hd)
      exact .inr ⟨rfl, rfl, fun x hx ↦ contains_of_checks (r := r) hcolors hdepth hx⟩
    · refine .inl ⟨(Slot.Map.get?_insert?_of_ne hi hq).symm.trans hd, fun ha ↦ hq ?_⟩
      cases ha
      rfl
  | destroy hr => exact .inl ⟨passes_of_remove? hr hd, by simp⟩
  | createTexture | createMesh | createShader | createPipeline | beginPass | applyViewport
  | applyDrawState | applyUniforms | draw | fillRects | endPass | commitFrame | requestQuit =>
    exact .inl ⟨hd, by simp⟩

/-- The textures of a pass are alive, but for those that were released since it was made. -/
theorem Reached.attached (h : Reached l s) (hd : s.1.passes.get? q = some d) :
    Attached l q d (fun x ↦ s.1.textures.contains x) fun x ↦ s.1.textures.contains x := by
  induction h generalizing d with
  | start h =>
    obtain ⟨_, _, _, _, _, hs⟩ := h
    rw [hs] at hd
    cases Slot.Map.get?_empty.symm.trans hd
  | taken _ took ih =>
    obtain ⟨r', hr, rfl⟩ := answer_ok_iff.1 took
    rcases hr.pass hd with ⟨hd, ha⟩ | ⟨rfl, rfl, hx⟩
    · exact (ih hd).append ha (fun x ↦ hr.contains) fun x ↦ hr.of_contains
    · exact .made hx
  | refused _ hrefused ih =>
    rw [answer_error hrefused] at hd ⊢
    exact ih hd
  | between _ done ih =>
    cases done
    exact ih hd

end RenderTargets.Recorder
