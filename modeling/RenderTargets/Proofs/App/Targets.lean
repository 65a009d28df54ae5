import RenderTargets.Proofs.App.Ownership
import RenderTargets.Proofs.App.Scene
import RenderTargets.Proofs.Recorder.Room
import RenderTargets.Proofs.Recorder.Since
/-!
# All surfaces and their pass, or nothing

On any recorder, with anything else alive on it, the surfaces of a builder and their pass are made
and tracked together or not at all.

What the builder has done by the time something fails is a suffix `l` of the arena with
`Recorder.Since r l`: these are the resources made since `r`, and nothing else changed. Rolling back
to the mark releases exactly `l`, which leaves `Recorder.Since r []`. If nothing fails, the four
resources were made one after the other, `TargetsBuilder.Creates`, and their descriptions are those
of the builder.

Neither says anything of traps. The recorder has none where its stores have room.
-/

namespace RenderTargets.App

open Log StepWith Recorder

variable {base r r' : Recorder} {arena : Arena} {l : List ResourceId} {b : TargetsBuilder}

/-- The four resources in the order of making. -/
def Targets.resources (t : Targets) : List ResourceId :=
  [.texture t.first, .texture t.second, .texture t.third, .pass t.pass]

/-! ### Making one after the other -/

/-- The recorder made the surfaces of the builder and their pass, one after the other. -/
def TargetsBuilder.Creates (b : TargetsBuilder) (r : Recorder) (t : Targets) (r' : Recorder) :
    Prop :=
  t.samples = b.samples ∧ ∃ r₁ r₂ r₃,
    r.Accepts (.createTexture (b.surfaceDesc 0)) (some (.texture t.first)) r₁ ∧
    r₁.Accepts (.createTexture (b.surfaceDesc 1)) (some (.texture t.second)) r₂ ∧
    r₂.Accepts (.createTexture (b.surfaceDesc 2)) (some (.texture t.third)) r₃ ∧
    r₃.Accepts (.createPass (b.passDesc t.first t.second t.third)) (some (.pass t.pass)) r'

/-- Since `base` some resources were made, and the arena ends with them. -/
def Partly (arena : Arena) (base : Recorder) (s : Arena × Recorder × Journal) : Prop :=
  ∃ l, s.1 = arena ++ l ∧ base.Since l s.2.1

/-- The next resource is made and tracked, or there are no more than before. -/
theorem meets_makeNext {α β : Type} {x : Recording α} {wrap : α → ResourceId}
    {c : GraphicsDevice.Command} {f : α → Step (Arena × Recorder × Journal) β}
    {Q : β → Arena × Recorder × Journal → Prop} (h : base.Since l r)
    (hx : c.answer = (some ∘ wrap) <$> x)
    (hf : ∀ id r', r.Accepts c (some (wrap id)) r' → base.Since (l ++ [wrap id]) r' →
      Meets (fun s ↦ s.1 = arena ++ (l ++ [wrap id]) ∧ s.2.1 = r') (f id) Q
        fun _ ↦ Partly arena base) :
    Meets (fun s ↦ s.1 = arena ++ l ∧ s.2.1 = r)
      (StepWith.within .snd x >>= fun id ↦ Arena.track (wrap id) >>= fun _ ↦ f id) Q
      fun _ ↦ Partly arena base := by
  refine Meets.bind (Q := fun id s ↦ s.1 = arena ++ l ∧ r.Accepts c (some (wrap id)) s.2.1)
    (.snd fun a ↦ .assume (p := a = arena ++ l) (P := fun t : Recorder × Journal ↦ t.1 = r) ?_)
    fun id ↦ ?_
  · rintro rfl
    exact meets_make hx (fun _ _ _ _ hs hr ↦ ⟨rfl, hs ▸ hr⟩) fun _ _ _ _ hs ↦ ⟨l, rfl, hs ▸ h⟩
  · rintro s ⟨hs, hr⟩
    refine Meets.bind (P := (· = s)) (Q := fun _ t ↦ t.1 = arena ++ (l ++ [wrap id]) ∧
      t.2.1 = s.2.1) ?_ (fun _ ↦ hf id s.2.1 hr (h.made hr)) s rfl
    rw [Arena.track]
    refine Meets.bind (Q := fun _ t ↦ t.1 = arena ++ l ∧ t.2.1 = s.2.1)
      (.note fun t j ht ↦ ?_) fun _ ↦ .update fun t ht ↦ ⟨?_, ht.2⟩
    · subst ht
      exact ⟨hs, rfl⟩
    · simp [ht.1]

/-- The surfaces and their pass are made and tracked, or some of them. -/
theorem meets_createTargets (b : TargetsBuilder) (arena : Arena) (r : Recorder) :
    Meets (fun s ↦ s.1 = arena ∧ s.2.1 = r) (b.create : Step (Arena × Recorder × Journal) Targets)
      (fun t s ↦ s.1 = arena ++ t.resources ∧ b.Creates r t s.2.1) fun _ ↦ Partly arena r := by
  simp only [TargetsBuilder.create, TargetsBuilder.createSurface, bind_assoc, pure_bind]
  refine (meets_makeNext (c := .createTexture _) (.refl r) rfl
    fun first r₁ h₁ hs₁ ↦
    meets_makeNext (c := .createTexture _) hs₁ rfl fun second r₂ h₂ hs₂ ↦
    meets_makeNext (c := .createTexture _) hs₂ rfl fun third r₃ h₃ hs₃ ↦
    meets_makeNext (c := .createPass _) hs₃ rfl fun pass r₄ h₄ _ ↦ .pure fun s hs ↦ ?_).pre
    fun s hs ↦ by simpa using hs
  refine ⟨by simpa [Targets.resources] using hs.1, rfl, r₁, r₂, r₃, h₁, h₂, h₃, ?_⟩
  rw [hs.2]
  exact h₄

/-! ### Rolling back -/

/-- What was made since the mark is released. -/
theorem meets_rollback (arena : Arena) (base : Recorder) :
    Meets (Partly arena base) (Arena.rollbackTo arena.length)
      (fun _ s ↦ s.1 = arena ∧ base.Since [] s.2.1) fun _ _ ↦ False := by
  rintro s ⟨l, harena, hsince⟩
  have htake : s.1.take arena.length = arena := by rw [harena, List.take_left]
  have hdrop : s.1.drop arena.length = l := by rw [harena, List.drop_left]
  have hrelease := Arena.meets_releaseEach (Since.ledger base) [] l.reverse 0
  rw [List.reverse_reverse, List.nil_append] at hrelease
  rw [Arena.rollbackTo]
  refine Meets.get_bind_eq (P := (· = s)) (fun t ht ↦ ?_) s rfl
  subst ht
  simp only [htake, hdrop]
  refine Meets.bind (Q := fun _ u ↦ u.1 = arena ∧ base.Since l u.2.1)
    (.update fun u hu ↦ ?_) fun _ ↦ ?_
  · subst hu
    exact ⟨rfl, hsince⟩
  · refine .snd fun a ↦ ?_
    refine .assume (p := a = arena) (P := fun u : Recorder × Journal ↦ base.Since l u.1) fun ha ↦ ?_
    exact hrelease.post fun _ _ hu ↦ ⟨ha, hu.2⟩

/-- Everything is made, or everything is as it was but for the tallies and the journal. With too few
attachments not even these change. -/
theorem meets_buildTargets (b : TargetsBuilder) (arena : Arena) (r : Recorder) :
    Meets (fun s ↦ s.1 = arena ∧ s.2.1 = r) (b.build : Step (Arena × Recorder × Journal) Targets)
      (fun t s ↦ s.1 = arena ++ t.resources ∧ b.Creates r t s.2.1)
      fun _ s ↦ s.1 = arena ∧ r.Since [] s.2.1 ∧ (r.maxColors.toNat < targetCount → s.2.1 = r) := by
  rw [TargetsBuilder.build]
  refine .get_bind_eq fun s hs ↦ ?_
  obtain ⟨rfl, rfl⟩ := hs
  have hlimit : GraphicsDevice.maxColors s.2 = s.2.1.maxColors := rfl
  rw [hlimit]
  refine .ite (fun _ ↦ .fail_bind fun t ht ↦ ?_) fun hfew ↦ .get_bind_eq fun t ht ↦ ?_
  · subst ht
    exact ⟨rfl, .refl _, fun _ ↦ rfl⟩
  subst ht
  refine Meets.bind (.attempt (R := fun c u ↦
    (∀ t', c = .ok t' → u.1 = t.1 ++ t'.resources ∧ b.Creates t.2.1 t' u.2.1) ∧
      ∀ e, c = .error e → Partly t.1 t.2.1 u)
    ((meets_createTargets b t.1 t.2.1).mono ?_ ?_ ?_)) fun c ↦ ?_
  · rintro _ rfl
    exact ⟨rfl, rfl⟩
  · rintro t' u hu
    exact ⟨fun _ h ↦ Except.ok.inj h ▸ hu, fun _ h ↦ by cases h⟩
  · rintro e u hu
    exact ⟨fun _ h ↦ (by cases h), fun _ _ ↦ hu⟩
  cases c with
  | ok t' =>
    exact Meets.bind (Q := fun _ u ↦ u.1 = t.1 ++ t'.resources ∧ b.Creates t.2.1 t' u.2.1)
      (.note fun _ _ h ↦ h.1 t' rfl) fun _ ↦ .pure fun _ h ↦ h
  | error e =>
    refine Meets.bind (Q := fun c u ↦ (∃ n, c = .ok n) ∧ u.1 = t.1 ∧ t.2.1.Since [] u.2.1)
      (.attempt <| (meets_rollback t.1 t.2.1).mono (fun _ h ↦ h.2 e rfl) (fun n _ h ↦ ⟨⟨n, rfl⟩, h⟩)
        fun _ _ he ↦ he.elim) fun c ↦ .assume ?_
    rintro ⟨n, rfl⟩
    exact .pure_bind (.fail fun _ h ↦ ⟨h.1, h.2, fun h ↦ (hfew h).elim⟩)

/-! ### What was made -/

namespace TargetsBuilder.Creates

variable {t : Targets}

theorem since (h : b.Creates r t r') : r.Since t.resources r' := by
  obtain ⟨-, r₁, r₂, r₃, h₁, h₂, h₃, h₄⟩ := h
  exact ((((Since.refl r).made h₁).made h₂).made h₃).made h₄

/-- Each resource is found with the description of the builder. -/
theorem made (h : b.Creates r t r') : t.Made b r' := by
  obtain ⟨hsamples, r₁, r₂, r₃, h₁, h₂, h₃, h₄⟩ := h
  have hs₁ := (((Since.refl r₁).made h₂).made h₃).made h₄
  have hs₂ := ((Since.refl r₂).made h₃).made h₄
  have hs₃ := (Since.refl r₃).made h₄
  have hlive {r r' : Recorder} {c : GraphicsDevice.Command} {id : ResourceId}
      (hr : r.Accepts c (some id) r') (hc : (describes c).isSome) : r'.isLive id := by
    rw [← isSome_found?, hr.found?_self, hc]
  refine ⟨?_, ?_, ?_, ?_, hsamples⟩
  · rw [← found?_texture, hs₁.found_of_isLive (hlive h₁ rfl), h₁.found?_self]
    rfl
  · rw [← found?_texture, hs₂.found_of_isLive (hlive h₂ rfl), h₂.found?_self]
    rfl
  · rw [← found?_texture, hs₃.found_of_isLive (hlive h₃ rfl), h₃.found?_self]
    rfl
  · rw [← found?_pass, h₄.found?_self]
    rfl

/-- A recorder with its books in order never handed the handles out before. -/
theorem inventory {m d : List ResourceId} (h : b.Creates r t r') (hr : r.Inventory m d) :
    r'.Inventory (m ++ t.resources) d := by
  obtain ⟨-, r₁, r₂, r₃, h₁, h₂, h₃, h₄⟩ := h
  have hgains {r r' : Recorder} {c : GraphicsDevice.Command} {id : ResourceId}
      {m : List ResourceId} (hc : r.Accepts c (some id) r') (hr : r.Inventory m d) :
      r'.Inventory (m ++ [id]) d := by
    cases hc.changes with
    | gains _ answers _ gains => exact Option.some.inj answers ▸ hr.gains gains
    | loses | stays => contradiction
  simpa [Targets.resources] using hgains h₄ (hgains h₃ (hgains h₂ (hgains h₁ hr)))

end TargetsBuilder.Creates

/-! ### Traps -/

variable {n : Nat}

/-- The step uses up `n` slots of each store at most, and does not trap where there are as many. -/
structure Spends {α : Type} (n : Nat) (x : Step (Arena × Recorder × Journal) α) : Prop where
  /-- What is left when it answers. -/
  leaves : ∀ m, Meets (fun s ↦ s.2.1.HasRoom (m + n)) x (fun _ s ↦ s.2.1.HasRoom m)
    fun _ _ ↦ True
  /-- It answers or fails. -/
  safe : Safe (fun s ↦ s.2.1.HasRoom n) x

namespace Spends

variable {α β : Type} {m : Nat} {x : Step (Arena × Recorder × Journal) α}
  {f : α → Step (Arena × Recorder × Journal) β}

/-- A step that keeps any room and does not trap spends nothing. -/
theorem nothing (hx : ∀ n, Meets (fun s ↦ s.2.1.HasRoom n) x (fun _ s ↦ s.2.1.HasRoom n)
    fun _ _ ↦ True) (hsafe : Safe (fun _ ↦ True) x) : Spends 0 x :=
  ⟨fun m ↦ hx m, hsafe.pre fun _ _ ↦ trivial⟩

theorem pure {a : α} : Spends 0 (Pure.pure a) := .nothing (fun _ ↦ .pure fun _ h ↦ h) .pure

theorem bind (hx : Spends n x) (hf : ∀ a, Spends m (f a)) : Spends (m + n) (x >>= f) where
  leaves k := Meets.bind ((Nat.add_assoc k m n).symm ▸ hx.leaves (k + m)) fun a ↦ (hf a).leaves k
  safe := (hx.safe.pre fun _ h ↦ h.mono (Nat.le_add_left n m)).bind (hx.leaves m)
    fun a ↦ (hf a).safe

/-- Making and tracking a resource spends one slot. -/
theorem made {x : Recording α} {wrap : α → ResourceId} {c : GraphicsDevice.Command}
    (hx : c.answer = (some ∘ wrap) <$> x) (hsafe : Safe (fun s ↦ s.1.HasRoom (0 + 1)) x)
    (hf : ∀ id, Spends n (f id)) :
    Spends (n + 1)
      (StepWith.within .snd x >>= fun id ↦ Arena.track (wrap id) >>= fun _ ↦ f id) := by
  refine .bind (n := 1) ⟨fun m ↦ .snd fun _ ↦ ?_, .snd fun _ ↦ hsafe⟩ fun id ↦
    .bind (n := 0) (m := n) (.nothing (fun m ↦ ?_) ?_) fun _ ↦ hf id
  · exact meets_make hx (fun _ _ _ _ h hr ↦ h.accepts hr) fun _ _ _ _ _ ↦ trivial
  · rw [Arena.track]
    exact Meets.bind (Q := fun _ s ↦ s.2.1.HasRoom m) (.note fun _ _ h ↦ h) fun _ ↦
      .update fun _ h ↦ h
  · rw [Arena.track]
    exact .bind_any .note fun _ ↦ .update

end Spends

theorem safe_releaseEach {P : Recorder × Journal → Prop} (ids : List ResourceId) (n : Nat)
    (e : Option EngineError) : Safe P (Arena.releaseEach ids n e : Recording Nat) := by
  induction ids generalizing P n e with
  | nil =>
    cases e with
    | none => exact .pure
    | some e => exact .fail
  | cons id rest ih =>
    rw [Arena.releaseEach]
    refine TrapsIn.bind_any (.attempt (safe_destroy id)) fun c ↦ ?_
    cases c with
    | ok _ => exact ih (n + 1) e
    | error _ => exact TrapsIn.bind_any .note fun _ ↦ ih n _

theorem safe_rollbackTo {P : Arena × Recorder × Journal → Prop} (mark : Nat) :
    Safe P (Arena.rollbackTo mark) := by
  rw [Arena.rollbackTo]
  exact .get_bind fun _ ↦ .bind_any .update fun _ ↦ .snd fun _ ↦ safe_releaseEach _ _ _

theorem spends_buildTargets (b : TargetsBuilder) :
    Spends 4 (b.build : Step (Arena × Recorder × Journal) Targets) := by
  have hcreate : Spends 4 (b.create : Step (Arena × Recorder × Journal) Targets) := by
    simp only [TargetsBuilder.create, TargetsBuilder.createSurface, bind_assoc, pure_bind]
    refine .made (c := .createTexture _) rfl (safe_createTexture _) fun _ ↦ ?_
    refine .made (c := .createTexture _) rfl (safe_createTexture _) fun _ ↦ ?_
    refine .made (c := .createTexture _) rfl (safe_createTexture _) fun _ ↦ ?_
    exact .made (c := .createPass _) rfl (safe_createPass _) fun _ ↦ .pure
  refine ⟨fun m ↦ ?_, ?_⟩
  · rw [TargetsBuilder.build]
    refine .get_bind fun _ ↦ ?_
    refine .ite (fun _ ↦ .fail_bind fun _ _ ↦ trivial) fun _ ↦ ?_
    refine .get_bind fun _ ↦ ?_
    refine Meets.bind (.attempt (R := fun c s ↦ ∀ t, c = .ok t → s.2.1.HasRoom m)
      ((hcreate.leaves m).mono (fun _ h ↦ h) (fun _ _ h _ _ ↦ h) ?_)) fun c ↦ ?_
    · rintro _ _ _ _ ⟨⟩
    cases c with
    | ok t =>
      exact Meets.bind (Q := fun _ s ↦ s.2.1.HasRoom m) (.note fun _ _ h ↦ h t rfl) fun _ ↦
        .pure fun _ h ↦ h
    | error _ =>
      refine Meets.bind (Q := fun _ _ ↦ True) .any fun c ↦ ?_
      cases c with
      | ok _ => exact .fail fun _ _ ↦ trivial
      | error _ => exact Meets.bind (Q := fun _ _ ↦ True) .any fun _ ↦ .fail fun _ _ ↦ trivial
  · rw [TargetsBuilder.build]
    refine .get_bind fun _ ↦ ?_
    refine .ite (fun _ ↦ .fail_bind) fun _ ↦ ?_
    refine .get_bind fun _ ↦ .bind_any (.attempt hcreate.safe) fun c ↦ ?_
    cases c with
    | ok _ => exact .bind_any .note fun _ ↦ .pure
    | error _ =>
      refine .bind_any (.attempt (safe_rollbackTo _)) fun c ↦ ?_
      cases c with
      | ok _ => exact .pure_bind .fail
      | error _ => exact .bind_any .note fun _ ↦ .fail

/-! ### All or nothing -/

/-- What a failed build leaves: nothing. -/
structure Unbuilt (arena : Arena) (r : Recorder) (s : Arena × Recorder × Journal) : Prop where
  /-- The arena is the same. -/
  arena : s.1 = arena
  /-- Under every handle the same is found. -/
  found : ∀ id, s.2.1.found? id = r.found? id
  /-- As many resources were made as were released. -/
  balance : (s.2.1.created.total : Int) - s.2.1.destroyed.total =
    r.created.total - r.destroyed.total
  /-- With too few attachments nothing was tried. -/
  untried : r.maxColors.toNat < targetCount → s.2.1 = r

/-- What a build makes of a size, samples and colors. -/
structure Built (width height samples : UInt32) (colors : List Vec4) (arena : Arena) (r : Recorder)
    (t : Targets) (s : Arena × Recorder × Journal) : Prop where
  /-- The arena got the surfaces and the pass, in this order. -/
  arena : s.1 = arena ++ [.texture t.first, .texture t.second, .texture t.third, .pass t.pass]
  /-- Their handles differ. -/
  nodup : t.resources.Nodup
  /-- They were dead and are alive. -/
  new : ∀ id ∈ t.resources, r.isLive id = false ∧ s.2.1.isLive id
  /-- None of them was handed out before, if the recorder has its books in order. -/
  unused : ∀ m d, r.Inventory m d → ∀ id ∈ t.resources, id ∉ m
  /-- Under other handles the same is found. -/
  others : ∀ id ∉ t.resources, s.2.1.found? id = r.found? id
  /-- The surfaces are alike, but only the first one has a depth buffer. -/
  surfaces : ∀ i x, t.surfaces[i]? = some x → ∃ d, s.2.1.textures.get? x = some d ∧
    d.width = width ∧ d.height = height ∧ d.samples = max samples 1 ∧ (d.depth.isSome ↔ i = 0)
  /-- The pass renders into them in order, with the depth buffer of the first one and a color for
  each, and resolves them if they have several samples. -/
  pass : ∃ d, s.2.1.passes.get? t.pass = some d ∧ d.textures = t.surfaces ∧
    d.depth = some t.first ∧ d.colors.map (·.clearColor) = colors ∧
    (d.store = .resolve ↔ max samples 1 > 1)

theorem TargetsBuilder.Creates.built {width height samples : UInt32} {c₀ c₁ c₂ : Vec4}
    {t : Targets} {s : Arena × Recorder × Journal} (hs : s.1 = arena ++ t.resources)
    (h : TargetsBuilder.Creates
      { TargetsBuilder.ofSize width height samples with clearColors := [c₀, c₁, c₂] } r t s.2.1) :
    Built width height samples [c₀, c₁, c₂] arena r t s := by
  have hsince := h.since
  have hmade := h.made
  refine ⟨hs, hsince.nodup, fun id hid ↦ ⟨hsince.new id hid, hsince.alive id hid⟩,
    fun m d hm id hid hold ↦ ?_, hsince.found, fun i x hx ↦ ?_, _, hmade.pass, rfl, rfl, rfl, ?_⟩
  · exact (List.nodup_append.1 (h.inventory hm).nodup).2.2 id hold id hid rfl
  · match i, hx with
    | 0, hx => exact Option.some.inj hx ▸ ⟨_, hmade.first, rfl, rfl, rfl, by simp [surfaceDesc]⟩
    | 1, hx => exact Option.some.inj hx ▸ ⟨_, hmade.second, rfl, rfl, rfl, by simp [surfaceDesc]⟩
    | 2, hx => exact Option.some.inj hx ▸ ⟨_, hmade.third, rfl, rfl, rfl, by simp [surfaceDesc]⟩
  · show (if max samples 1 > 1 then StoreAction.resolve else .store) = .resolve ↔ max samples 1 > 1
    refine ⟨fun hstore ↦ by_contra fun hone ↦ ?_, fun hmany ↦ if_pos hmany⟩
    simp [if_neg hone] at hstore

/-- **Targets are built as a whole or not at all.** On any recorder and beside any arena, a build
that fails leaves the arena and everything that is found as they were, with as many resources made
as released, and with too few attachments for the surfaces it does not change the recorder at all. A
build that answers adds three surfaces and their pass to the arena, new ones and as they were asked
for, and changes nothing else. It does one or the other as long as the stores have four slots to
spare. -/
theorem build_wholeOrNothing (width height samples : UInt32) (c₀ c₁ c₂ : Vec4) (arena : Arena)
    (r : Recorder) (j : Journal) :
    match ({ TargetsBuilder.ofSize width height samples with clearColors := [c₀, c₁, c₂] } :
        TargetsBuilder).build (arena, r, j) with
    | .ok t s => Built width height samples [c₀, c₁, c₂] arena r t s
    | .error (.error _) s => Unbuilt arena r s
    | .error .trap _ => ¬r.HasRoom 4 := by
  have hmeets := meets_buildTargets
    { TargetsBuilder.ofSize width height samples with clearColors := [c₀, c₁, c₂] } arena r
    (arena, r, j) ⟨rfl, rfl⟩
  split
  · next t s hrun =>
    rw [hrun] at hmeets
    exact hmeets.2.built hmeets.1
  · next e s hrun =>
    rw [hrun] at hmeets
    obtain ⟨harena, hsince, hfew⟩ := hmeets
    refine ⟨harena, fun id ↦ hsince.found id List.not_mem_nil, ?_, hfew⟩
    have hbalance := hsince.balance
    rw [List.length_nil] at hbalance
    omega
  · next t hrun => exact fun hroom ↦ (spends_buildTargets _).safe _ hroom t hrun

end RenderTargets.App
