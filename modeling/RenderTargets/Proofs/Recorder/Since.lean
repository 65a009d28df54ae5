import RenderTargets.Proofs.Recorder.Inventory
/-!
# What was made since

A recorder at some time and the same recorder later: `Recorder.Since base l r` says that `r` has
what `base` had and besides it exactly the resources `l`, made in this order, and that what was made
and released in between balances. With `l` empty the two find the same under every handle, so this
is also what a recorder looks like after everything made since was released.

Nothing is asked of `base`. It may hold any resources, and its tallies may say what they like.
-/

namespace RenderTargets.Recorder

open Log StepWith GraphicsDevice

/-- The description of a resource. -/
inductive Description where
  /-- Of a texture. -/
  | texture (d : TextureDesc)
  /-- Of a mesh. -/
  | mesh (d : MeshDesc)
  /-- Of a shader. -/
  | shader (d : ShaderDesc)
  /-- Of a pipeline. -/
  | pipeline (d : PipelineDesc)
  /-- Of a pass. -/
  | pass (d : PassDesc)

/-- What is found under a handle. -/
def found? (r : Recorder) : ResourceId → Option Description
  | .texture h => (r.textures.get? h).map .texture
  | .mesh h => (r.meshes.get? h).map .mesh
  | .shader h => (r.shaders.get? h).map .shader
  | .pipeline h => (r.pipelines.get? h).map .pipeline
  | .pass h => (r.passes.get? h).map .pass

variable {base r r' : Recorder} {l : List ResourceId} {id k : ResourceId}
  {c : GraphicsDevice.Command} {a : Option ResourceId}

/-- Alive is what is found. -/
theorem isSome_found? (r : Recorder) (id : ResourceId) : (r.found? id).isSome = r.isLive id := by
  cases id <;> exact Option.isSome_map

theorem found?_eq_none : r.found? id = none ↔ r.isLive id = false := by
  rw [← isSome_found?, Option.isSome_eq_false_iff, Option.isNone_iff_eq_none]

/-- A command changes what is found under no handle but that of the resource it makes or
releases. -/
theorem Accepts.found?_of_ne (h : r.Accepts c a r') (ha : a ≠ some k) (hc : releases c ≠ some k) :
    r'.found? k = r.found? k := by
  cases h with
  | createTexture _ _ hi =>
    cases k with
    | texture h =>
      exact congrArg (Option.map _) (Slot.Map.get?_insert?_of_ne hi fun he ↦ ha (he ▸ rfl))
    | _ => rfl
  | createMesh _ _ hi =>
    cases k with
    | mesh h =>
      exact congrArg (Option.map _) (Slot.Map.get?_insert?_of_ne hi fun he ↦ ha (he ▸ rfl))
    | _ => rfl
  | createShader _ _ hi =>
    cases k with
    | shader h =>
      exact congrArg (Option.map _) (Slot.Map.get?_insert?_of_ne hi fun he ↦ ha (he ▸ rfl))
    | _ => rfl
  | createPipeline _ _ _ hi =>
    cases k with
    | pipeline h =>
      exact congrArg (Option.map _) (Slot.Map.get?_insert?_of_ne hi fun he ↦ ha (he ▸ rfl))
    | _ => rfl
  | createPass _ _ _ _ hi =>
    cases k with
    | pass h =>
      exact congrArg (Option.map _) (Slot.Map.get?_insert?_of_ne hi fun he ↦ ha (he ▸ rfl))
    | _ => rfl
  | @destroy id _ hr =>
    have hne : k ≠ id := fun he ↦ hc (he ▸ rfl)
    cases id <;> obtain ⟨p, hp, rfl⟩ := Option.map_eq_some_iff.1 hr <;> cases k <;>
      first
        | rfl
        | exact congrArg (Option.map _) (Slot.Map.get?_remove_of_ne hp fun he ↦ hne (he ▸ rfl))
  | beginPass | applyViewport | applyDrawState | applyUniforms | draw | fillRects | endPass
  | commitFrame | requestQuit => cases k <;> rfl

/-- The description that a command makes a resource of. -/
def describes : GraphicsDevice.Command → Option Description
  | .createTexture d => some (.texture d)
  | .createMesh d => some (.mesh d)
  | .createShader d => some (.shader d)
  | .createPipeline d => some (.pipeline d)
  | .createPass d => some (.pass d)
  | _ => none

/-- What is made is found with the description it was made of. -/
theorem Accepts.found?_self (h : r.Accepts c (some id) r') : r'.found? id = describes c := by
  cases h with
  | createTexture _ _ hi => exact congrArg (Option.map _) (Slot.Map.get?_insert?_self hi)
  | createMesh _ _ hi => exact congrArg (Option.map _) (Slot.Map.get?_insert?_self hi)
  | createShader _ _ hi => exact congrArg (Option.map _) (Slot.Map.get?_insert?_self hi)
  | createPipeline _ _ _ hi => exact congrArg (Option.map _) (Slot.Map.get?_insert?_self hi)
  | createPass _ _ _ _ hi => exact congrArg (Option.map _) (Slot.Map.get?_insert?_self hi)

theorem found?_texture {h : TextureId} {d : TextureDesc} :
    r.found? (.texture h) = some (.texture d) ↔ r.textures.get? h = some d := by
  simp [found?]

theorem found?_pass {h : PassId} {d : PassDesc} :
    r.found? (.pass h) = some (.pass d) ↔ r.passes.get? h = some d := by
  simp [found?]

/-- Since `base` exactly the resources `l` were made and are still there, and nothing else
changed. -/
structure Since (base : Recorder) (l : List ResourceId) (r : Recorder) : Prop where
  /-- The handles differ. -/
  nodup : l.Nodup
  /-- They were dead. -/
  new : ∀ id ∈ l, base.isLive id = false
  /-- They are alive. -/
  alive : ∀ id ∈ l, r.isLive id
  /-- Under other handles the same is found. -/
  found : ∀ id ∉ l, r.found? id = base.found? id
  /-- What was made was released, but for them. -/
  balance : r.created.total + base.destroyed.total =
    base.created.total + r.destroyed.total + l.length

namespace Since

theorem refl (r : Recorder) : r.Since [] r where
  nodup := .nil
  new := nofun
  alive := nofun
  found _ _ := rfl
  balance := by simp

/-- What was there is found as it was. -/
theorem found_of_isLive (h : base.Since l r) (hid : base.isLive id) :
    r.found? id = base.found? id :=
  h.found id fun hmem ↦ by simp [h.new id hmem] at hid

theorem made (h : base.Since l r) (hr : r.Accepts c (some id) r') : base.Since (l ++ [id]) r' := by
  cases hr.changes with
  | loses | stays => contradiction
  | gains id' answers keeps gains =>
    obtain rfl : id = id' := Option.some.inj answers
    have hdead : r.isLive id = false :=
      Bool.eq_false_iff.2 fun hlive ↦ (gains.known id (knows_of_isLive hlive)).2 rfl
    have hnew : id ∉ l := fun hmem ↦ by simp [h.alive id hmem] at hdead
    refine ⟨?_, fun k hk ↦ ?_, fun k hk ↦ (gains.live k).2 ?_, fun k hk ↦ ?_, ?_⟩
    · exact h.nodup.append (List.nodup_singleton id) (by simpa using hnew)
    · rcases List.mem_append.1 hk with hk | hk
      · exact h.new k hk
      · rw [List.mem_singleton.1 hk, ← found?_eq_none, ← h.found id hnew, found?_eq_none]
        exact hdead
    · rcases List.mem_append.1 hk with hk | hk
      · exact .inr (h.alive k hk)
      · exact .inl (List.mem_singleton.1 hk)
    · rw [List.mem_append, List.mem_singleton, not_or] at hk
      rw [hr.found?_of_ne (fun he ↦ hk.2 (Option.some.inj he).symm) (by simp [keeps])]
      exact h.found k hk.1
    · have hbalance := h.balance
      rw [gains.created, gains.destroyed, Tally.total_bump, List.length_append,
        List.length_singleton]
      omega

theorem released (h : base.Since (l ++ [id]) r) (hr : r.Accepts (.destroy id) none r') :
    base.Since l r' := by
  obtain ⟨hnodup, -, hdisjoint⟩ := List.nodup_append.1 h.nodup
  have hid : id ∉ l := fun hmem ↦ hdisjoint id hmem id (List.mem_singleton_self id) rfl
  cases hr.changes with
  | gains | stays => contradiction
  | loses id' answers drops loses =>
    obtain rfl : id = id' := Option.some.inj drops
    have hmem : ∀ k ∈ l, k ∈ l ++ [id] := fun k hk ↦ List.mem_append_left _ hk
    refine ⟨hnodup, fun k hk ↦ h.new k (hmem k hk), fun k hk ↦ ?_, fun k hk ↦ ?_, ?_⟩
    · exact (loses.live k).2 ⟨fun he ↦ hid (he ▸ hk), h.alive k (hmem k hk)⟩
    · by_cases he : k = id
      · subst he
        have hgone : r'.isLive k = false :=
          Bool.eq_false_iff.2 fun hlive ↦ ((loses.live k).1 hlive).1 rfl
        rw [found?_eq_none.2 hgone, found?_eq_none.2]
        exact h.new k (List.mem_append_right _ (List.mem_singleton_self k))
      · rw [hr.found?_of_ne nofun fun hd ↦ he (Option.some.inj hd).symm]
        exact h.found k (by simp [hk, he])
    · have hbalance := h.balance
      rw [List.length_append, List.length_singleton] at hbalance
      rw [loses.created, loses.destroyed, Tally.total_bump]
      omega

theorem other (h : base.Since l r) (hr : r.Accepts c none r') (hc : releases c = none) :
    base.Since l r' := by
  cases hr.changes with
  | gains _ answers => cases answers
  | loses _ _ drops => cases drops.symm.trans hc
  | stays _ _ stays =>
    refine ⟨h.nodup, h.new, fun k hk ↦ (stays.live k).2 (h.alive k hk), fun k hk ↦ ?_, ?_⟩
    · rw [hr.found?_of_ne nofun (by simp [hc])]
      exact h.found k hk
    · rw [stays.created, stays.destroyed]
      exact h.balance

end Since

/-! ### A ledger of its own -/

/-- A step that makes a resource does what `Accepts` says of its command. -/
theorem meets_make {α : Type} {x : Recording α} {wrap : α → ResourceId}
    {P : Recorder × Journal → Prop} {Q : α → Recorder × Journal → Prop}
    {E : EngineError → Recorder × Journal → Prop} (hx : c.answer = (some ∘ wrap) <$> x)
    (hok : ∀ r j a r', P (r, j) → r.Accepts c (some (wrap a)) r' → Q a (r', j))
    (herr : ∀ r j e j', P (r, j) → E e (r, j')) : Meets P x Q E := by
  intro s hs
  rcases hr : x s with ⟨a, t⟩ | ⟨e | _, ⟨r', j'⟩⟩
  · have hans : c.answer s = .ok (some (wrap a)) t := by
      rw [hx]
      simp only [Functor.map, EStateM.map, hr, Function.comp]
    obtain ⟨r', hr', rfl⟩ := answer_ok_iff.1 hans
    exact hok s.1 s.2 a r' hs hr'
  · have hans : c.answer s = .error (.error e) (r', j') := by
      rw [hx]
      exact map_error hr
    obtain rfl : r' = s.1 := answer_error hans
    exact herr s.1 s.2 e j' hs
  · trivial

namespace Since

/-- What was made since is kept by whoever owns it as the latest, whatever else is alive. -/
theorem ledger (base : Recorder) :
    Ledger fun l (s : Recorder × Journal) ↦ base.Since l s.1 := by
  have hmake {α : Type} {x : Recording α} {wrap : α → ResourceId} {c : GraphicsDevice.Command}
      (hx : c.answer = (some ∘ wrap) <$> x) (l : List ResourceId) :
      Meets (fun s ↦ base.Since l s.1) x (fun a s ↦ base.Since (l ++ [wrap a]) s.1)
        fun _ s ↦ base.Since l s.1 :=
    meets_make hx (fun _ _ _ _ h hr ↦ h.made hr) fun _ _ _ _ h ↦ h
  have hother (c : GraphicsDevice.Command) (hc : releases c = none)
      (hnone : ∀ (r : Recorder) a r', r.Accepts c a r' → a = none) (l : List ResourceId) :
      Keeps (fun s : Recorder × Journal ↦ base.Since l s.1) c.perform :=
    meets_perform (fun _ _ a _ h hr ↦ by
      obtain rfl := hnone _ a _ hr
      exact h.other hr hc) fun _ _ _ _ h ↦ h
  exact {
    journal := fun _ _ _ h ↦ h
    createTexture := fun l d ↦ hmake (c := .createTexture d) rfl l
    createMesh := fun l d ↦ hmake (c := .createMesh d) rfl l
    createShader := fun l d ↦ hmake (c := .createShader d) rfl l
    createPipeline := fun l d ↦ hmake (c := .createPipeline d) rfl l
    createPass := fun l d ↦ hmake (c := .createPass d) rfl l
    destroy := fun l id ↦ by
      show Meets _ (destroy id) _ _
      rw [destroy]
      refine meets_current' fun r ↦ ?_
      cases hr : r.remove? id with
      | none =>
        refine .fail fun s hs ↦ ?_
        have hlive := hs.1.alive id (List.mem_append_right _ (List.mem_singleton_self id))
        rw [hs.2, ← isSome_remove?, hr] at hlive
        cases hlive
      | some r' => exact meets_change fun s hs ↦ hs.1.released (.destroy (hs.2 ▸ hr))
    beginPass := fun l p a ↦ hother (.beginPass p a) rfl (fun _ _ _ h ↦ by cases h; rfl) l
    applyViewport := fun l r b ↦ hother (.applyViewport r b) rfl (fun _ _ _ h ↦ by cases h; rfl) l
    applyDrawState := fun l d ↦ hother (.applyDrawState d) rfl (fun _ _ _ h ↦ by cases h; rfl) l
    applyUniforms := fun l t d ↦ hother (.applyUniforms t d) rfl (fun _ _ _ h ↦ by cases h; rfl) l
    draw := fun l g ↦ hother (.draw g) rfl (fun _ _ _ h ↦ by cases h; rfl) l
    fillRects := fun l c r ↦ hother (.fillRects c r) rfl (fun _ _ _ h ↦ by cases h; rfl) l
    endPass := fun l ↦ hother .endPass rfl (fun _ _ _ h ↦ by cases h; rfl) l
    commitFrame := fun l ↦ hother .commitFrame rfl (fun _ _ _ h ↦ by cases h; rfl) l
    requestQuit := fun l ↦ hother .requestQuit rfl (fun _ _ _ h ↦ by cases h; rfl) l }

end Since

end RenderTargets.Recorder
