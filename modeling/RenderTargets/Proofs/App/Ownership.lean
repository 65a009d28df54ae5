import RenderTargets.App.Application
import RenderTargets.Proofs.Device.Ledger
/-!
# What the application owns

On any device with a ledger, the arena of the application **is** the list of the live resources of
the device, before and after everything the application does, also when that fails.

The arena grows at its end and is released from its end, so the contract of the ledger about the
latest resource is all that is used: releasing is only ever asked for what is alive, answers how
many resources there were, and never fails. Drawing makes and releases nothing.
-/

namespace RenderTargets.App

open Log StepWith

variable {σ : Type} [GraphicsDevice σ] {Live : List ResourceId → σ → Prop}

/-- The arena lists the live resources of the device beside it. -/
def Owns (Live : List ResourceId → σ → Prop) (s : Arena × σ) : Prop := Live s.1 s.2

namespace Arena

theorem meets_track (L : Ledger Live) (id : ResourceId) (E : EngineError → Arena × σ → Prop) :
    Meets (fun s ↦ Live (s.1 ++ [id]) s.2) (track id) (fun _ ↦ Owns Live) E := by
  rw [track]
  refine (Meets.note fun s j hs ↦ ?_).bind fun _ ↦ .update fun _ hs ↦ hs
  exact L.journal (s.1 ++ [id]) s.2 j hs

/-- The latest resources, from the last one on, are all released. -/
theorem meets_releaseEach (L : Ledger Live) (l ids : List ResourceId) (n : Nat) :
    Meets (Live (l ++ ids.reverse)) (releaseEach ids n none)
      (fun k s ↦ k = n + ids.length ∧ Live l s) fun _ _ ↦ False := by
  induction ids generalizing n with
  | nil => exact .pure fun s hs ↦ ⟨rfl, by simpa using hs⟩
  | cons id rest ih =>
    have hsplit : l ++ (id :: rest).reverse = l ++ rest.reverse ++ [id] := by simp
    rw [releaseEach, hsplit]
    refine (Meets.attempt (R := fun r s ↦ r = .ok () ∧ Live (l ++ rest.reverse) s)
      ((L.destroy _ id).mono (fun _ hs ↦ hs) (fun _ _ hs ↦ ⟨rfl, hs⟩) fun _ _ hs ↦ hs.elim)).bind
      fun r ↦ ?_
    rintro s ⟨rfl, hs⟩
    refine (ih (n + 1) s hs).mono (fun k t hk ↦ ⟨?_, hk.2⟩) fun _ _ he ↦ he
    rw [hk.1, List.length_cons]
    omega

/-- What was tracked last is released and counted, and the arena says so. -/
theorem meets_rollbackTo (L : Ledger Live) (mark : Nat) (owned : Arena) :
    Meets (fun s ↦ s.1 = owned ∧ Owns Live s) (rollbackTo mark)
      (fun n s ↦ n = owned.length - mark ∧ s.1 = owned.take mark ∧ Owns Live s)
      fun _ _ ↦ False := by
  rw [rollbackTo]
  refine (Meets.get (Q := fun a s ↦ a.1 = owned ∧ Live owned s.2) fun s hs ↦
    ⟨hs.1, hs.1 ▸ hs.2⟩).bind fun a ↦ ?_
  refine (Meets.update (Q := fun _ s ↦ a.1 = owned ∧ s.1 = owned.take mark ∧ Live owned s.2)
    fun s hs ↦ ⟨hs.1, by rw [← hs.1], hs.2⟩).bind fun _ ↦ .snd fun arena ↦ ?_
  have h := meets_releaseEach L (owned.take mark) (owned.drop mark).reverse 0
  rw [List.reverse_reverse, List.take_append_drop] at h
  rintro s ⟨hown, hmark, hs⟩
  rw [hown]
  refine (h s hs).mono (fun n t hn ↦ ⟨?_, hmark, ?_⟩) fun _ _ he ↦ he
  · rw [hn.1, List.length_reverse, List.length_drop, Nat.zero_add]
  · rw [Owns, hmark]
    exact hn.2

/-- Everything is released and counted, and nothing is left in the arena. -/
theorem meets_releaseAll (L : Ledger Live) (owned : Arena) :
    Meets (fun s ↦ s.1 = owned ∧ Owns Live s) releaseAll
      (fun n s ↦ n = owned.length ∧ s.1 = [] ∧ Owns Live s) fun _ _ ↦ False :=
  (meets_rollbackTo L 0 owned).post fun _ _ h ↦ h

theorem keeps_rollbackTo (L : Ledger Live) (mark : Nat) :
    Meets (Owns Live) (rollbackTo mark) (fun _ ↦ Owns Live) fun _ _ ↦ False :=
  fun s hs ↦ ((meets_rollbackTo L mark s.1) s ⟨rfl, hs⟩).mono (fun _ _ h ↦ h.2.2) fun _ _ h ↦ h

end Arena

omit [GraphicsDevice σ] in
/-- What keeps the live resources of the device keeps the ownership of them. -/
theorem keeps_snd {β : Type} {x : Step σ β} (hx : ∀ l, Keeps (Live l) x) :
    Keeps (Owns Live) (StepWith.within .snd x) :=
  Meets.snd hx

/-! ### Making -/

/-- The question whether the scene can be shown is always answered. -/
theorem meets_canShowScene (L : Ledger Live) (l : List ResourceId) :
    Meets (Live l) (canShowScene (σ := σ)) (fun _ ↦ Live l) fun _ _ ↦ False := by
  rw [canShowScene]
  refine .get_bind fun s ↦ ?_
  refine .ite (fun _ ↦ ?_) fun _ ↦ .ite (fun _ ↦ ?_) fun _ ↦ ?_
  all_goals exact (Meets.note fun _ j hs ↦ L.journal l _ j hs).bind fun _ ↦ .pure fun _ hs ↦ hs

theorem keeps_effectiveSamples (L : Ledger Live) (l : List ResourceId) (requested : UInt32) :
    Keeps (Live l) (effectiveSamples (σ := σ) requested) := by
  rw [effectiveSamples]
  refine .get_bind fun s ↦ .ite (fun _ ↦ ?_) fun _ ↦ ?_
  · exact (Meets.note fun _ j hs ↦ L.journal l _ j hs).bind fun _ ↦ .pure fun _ hs ↦ hs
  · exact .pure fun _ hs ↦ hs

/-- A resource is made and tracked, or the arena is as it was. -/
theorem keeps_make {κ : ResourceKind} {β : Type} (L : Ledger Live) {x : Step σ (Slot.Handle κ)}
    {wrap : Slot.Handle κ → ResourceId} {f : Slot.Handle κ → Step (Arena × σ) β}
    (hx : ∀ l, Meets (Live l) x (fun id ↦ Live (l ++ [wrap id])) fun _ ↦ Live l)
    (hf : ∀ id, Keeps (Owns Live) (f id)) :
    Keeps (Owns Live)
      (StepWith.within .snd x >>= fun id ↦ Arena.track (wrap id) >>= fun _ ↦ f id) :=
  (Meets.snd fun l ↦ hx l).bind fun id ↦ (Arena.meets_track L (wrap id) _).bind fun _ ↦ hf id

theorem keeps_createSurface (L : Ledger Live) (b : TargetsBuilder) (i : Nat) :
    Keeps (Owns Live) (b.createSurface (σ := σ) i) :=
  keeps_make L (fun l ↦ L.createTexture l _) fun _ ↦ .pure fun _ hs ↦ hs

theorem keeps_createTargets (L : Ledger Live) (b : TargetsBuilder) :
    Keeps (Owns Live) (b.create (σ := σ)) := by
  refine (keeps_createSurface L b 0).bind fun _ ↦ ?_
  refine (keeps_createSurface L b 1).bind fun _ ↦ ?_
  refine (keeps_createSurface L b 2).bind fun _ ↦ ?_
  exact keeps_make L (fun l ↦ L.createPass l _) fun _ ↦ .pure fun _ hs ↦ hs

/-- An attempt at releasing ends well. -/
theorem keeps_attempt_rollback {β : Type} (L : Ledger Live) (mark : Nat)
    {f : Except EngineError Nat → Step (Arena × σ) β} (hf : ∀ n, Keeps (Owns Live) (f (.ok n))) :
    Keeps (Owns Live) (StepWith.attempt (Arena.rollbackTo mark) >>= f) := by
  refine (Meets.attempt (R := fun r s ↦ (∃ n, r = .ok n) ∧ Owns Live s)
    ((Arena.keeps_rollbackTo L mark).mono (fun _ hs ↦ hs) (fun n _ hs ↦ ⟨⟨n, rfl⟩, hs⟩)
      fun _ _ hs ↦ hs.elim)).bind fun r ↦ ?_
  rintro s ⟨⟨n, rfl⟩, hs⟩
  exact hf n s hs

theorem keeps_buildTargets (L : Ledger Live) (b : TargetsBuilder) :
    Keeps (Owns Live) (b.build (σ := σ)) := by
  rw [TargetsBuilder.build]
  refine .get_bind fun s ↦ ?_
  refine .ite (fun _ ↦ .fail_bind fun _ hs ↦ hs) fun _ ↦ ?_
  refine .get_bind fun s ↦ ?_
  refine (Meets.attempt (R := fun _ ↦ Owns Live) (keeps_createTargets L b)).bind fun r ↦ ?_
  cases r with
  | ok targets =>
    exact (Meets.note fun s j hs ↦ L.journal s.1 s.2 j hs).bind fun _ ↦ .pure fun _ hs ↦ hs
  | error e =>
    refine keeps_attempt_rollback L _ fun n ↦ ?_
    exact .pure_bind (.fail fun _ hs ↦ hs)

theorem keeps_createOffscreen (L : Ledger Live) (shader : ShaderDesc) (targets : Targets)
    (config : Config) : Keeps (Owns Live) (Offscreen.create (σ := σ) shader targets config) := by
  rw [Offscreen.create]
  refine (Meets.ofChecked (fun _ _ _ hs ↦ hs) fun _ _ _ hs ↦ hs).bind fun cube ↦ ?_
  refine keeps_make L (fun l ↦ L.createMesh l _) fun mesh ↦ ?_
  refine keeps_make L (fun l ↦ L.createShader l _) fun shader ↦ ?_
  refine keeps_make L (fun l ↦ L.createPipeline l _) fun pipeline ↦ ?_
  exact .pure fun _ hs ↦ hs

theorem keeps_createComposite (L : Ledger Live) (shader : ShaderDesc) (targets : Targets)
    (config : Config) : Keeps (Owns Live) (Composite.create (σ := σ) shader targets config) := by
  rw [Composite.create]
  refine keeps_make L (fun l ↦ L.createMesh l _) fun mesh ↦ ?_
  refine keeps_make L (fun l ↦ L.createShader l _) fun shader ↦ ?_
  refine .get_bind fun s ↦ ?_
  refine keeps_make L (fun l ↦ L.createPipeline l _) fun pipeline ↦ ?_
  exact (Meets.orTrap fun _ _ _ hs ↦ hs).bind fun _ ↦ .pure fun _ hs ↦ hs

theorem keeps_createScene (L : Ledger Live) (a : Application) :
    Keeps (Owns Live) (a.createScene (σ := σ)) := by
  rw [Application.createScene]
  refine (keeps_snd fun l ↦ keeps_effectiveSamples L l _).bind fun samples ↦ ?_
  refine (keeps_buildTargets L _).bind fun targets ↦ ?_
  refine (keeps_createOffscreen L _ _ _).bind fun offscreen ↦ ?_
  refine (keeps_createComposite L _ _ _).bind fun composite ↦ ?_
  exact .pure fun _ hs ↦ hs

/-! ### Drawing -/

theorem keeps_drawOffscreen (L : Ledger Live) (l : List ResourceId) (o : Offscreen)
    (targets : Targets) : Keeps (Live l) (o.draw (σ := σ) targets) := by
  refine (L.beginPass l _ _).bind fun _ ↦ ?_
  refine (L.applyDrawState l _).bind fun _ ↦ ?_
  exact (L.applyUniforms l _ _).bind fun _ ↦ (L.draw l _).bind fun _ ↦ L.endPass l

theorem keeps_drawPanels (L : Ledger Live) (l : List ResourceId) (c : Composite)
    (panels : List (TextureId × Rect)) : Keeps (Live l) (c.drawPanels (σ := σ) panels) := by
  induction panels with
  | nil => exact .pure fun _ hs ↦ hs
  | cons panel rest ih =>
    refine (L.applyViewport l _ _).bind fun _ ↦ ?_
    exact (L.applyDrawState l _).bind fun _ ↦ (L.draw l _).bind fun _ ↦ ih

theorem keeps_drawComposite (L : Ledger Live) (l : List ResourceId) (c : Composite) :
    Keeps (Live l) (c.draw (σ := σ)) :=
  (L.beginPass l _ _).bind fun _ ↦ (keeps_drawPanels L l c _).bind fun _ ↦ L.endPass l

theorem keeps_fillBatches (L : Ledger Live) (l : List ResourceId) (batches : List Text.Batch) :
    Keeps (Live l) (DebugText.fillBatches (σ := σ) batches) := by
  induction batches with
  | nil => exact .pure fun _ hs ↦ hs
  | cons b rest ih => exact (L.fillRects l _ _).bind fun _ ↦ ih

theorem keeps_flush (L : Ledger Live) (l : List ResourceId) :
    Keeps (fun s : DebugText × σ ↦ Live l s.2) DebugText.flush := by
  rw [DebugText.flush]
  refine .get_bind fun s ↦ ?_
  refine (Meets.orTrap fun _ _ _ hs ↦ hs).bind fun batches ↦ ?_
  refine (keeps_fillBatches L l batches).snd.bind fun _ ↦ ?_
  exact .update fun _ hs ↦ hs

theorem keeps_drawFallback (L : Ledger Live) (l : List ResourceId) :
    Keeps (fun s : Fallback × σ ↦ Live l s.2) Fallback.draw := by
  have hflush : Keeps (fun s : Fallback × σ ↦ Live l s.2)
      (StepWith.within Fallback.textLens DebugText.flush) :=
    Meets.within fun s hs ↦ (keeps_flush L l).pre fun _ ht ↦ ht ▸ hs
  rw [Fallback.draw]
  refine .get_bind fun s ↦ ?_
  refine .orTrap_bind fun place _ ↦ ?_
  refine (L.beginPass l _ _).snd.bind fun _ ↦ ?_
  refine .orTrap_bind fun text _ ↦ ?_
  refine Meets.bind (Q := fun _ (t : Fallback × σ) ↦ Live l t.2)
    (Meets.update fun _ hs ↦ hs) fun _ ↦ ?_
  exact hflush.bind fun _ ↦ (L.endPass l).snd

end RenderTargets.App
