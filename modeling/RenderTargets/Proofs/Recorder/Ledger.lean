import Mathlib.Data.List.Dedup
import RenderTargets.Proofs.Device.Ledger
import RenderTargets.Proofs.Slot.Lookup
import RenderTargets.Recorder.Commands
/-!
# The ledger of the recorder

The recorder never forgets a handle that it handed out, so the live resources in the order of making
can be read off it: `Recorder.liveInOrder` is the order of handles without the dead ones. A handle
is handed out again once the versions of its slot have started over, which is why a handle counts
where it was handed out **last**.

`Recorder.Holds l` says that `l` is that list, that nothing else is alive, and that the tallies of
made and released resources agree with it. Between counting a resource and storing it the recorder
is one ahead of its stores; `Recorder.Ahead` is this state.
-/

namespace RenderTargets.Recorder

open Log StepWith

/-- The live resources, the oldest first. -/
def liveInOrder (r : Recorder) : List ResourceId := (r.order.filter r.isLive).dedup

/-- The recorder without resources. -/
def fresh (features : Features) (maxColors : UInt32) (display : Display)
    (failAt : Option (ResourceKind × Nat)) (quitAfter : Option Nat) : Recorder :=
  { features, maxColors, display, failAt, quitAfter }

/-- The live resources are those of a list, and the tallies say so. -/
structure Holds (r : Recorder) (l : List ResourceId) : Prop where
  /-- The list is that of the live resources in order. -/
  order : r.liveInOrder = l
  /-- Every live resource was handed out. -/
  mem_order : ∀ id, r.isLive id → id ∈ r.order
  /-- The stores have as many. -/
  count : r.liveCount = l.length
  /-- What was made was released or is alive. -/
  balance : r.created.total = r.destroyed.total + r.liveCount

variable {r r' : Recorder} {l : List ResourceId} {id : ResourceId}

theorem Holds.mem_iff (h : r.Holds l) (id : ResourceId) : id ∈ l ↔ r.isLive id := by
  rw [← h.order, liveInOrder, List.mem_dedup, List.mem_filter]
  exact ⟨And.right, fun hl ↦ ⟨h.mem_order id hl, hl⟩⟩

theorem Holds.nodup (h : r.Holds l) : l.Nodup := h.order ▸ List.nodup_dedup _

/-- Of a recorder only its stores, its order and its tallies matter. -/
theorem Holds.congr (h : r.Holds l) (hlive : r'.isLive = r.isLive)
    (hcount : r'.liveCount = r.liveCount) (horder : r'.order = r.order)
    (hcreated : r'.created = r.created) (hdestroyed : r'.destroyed = r.destroyed) :
    r'.Holds l where
  order := by rw [liveInOrder, hlive, horder, ← h.order, liveInOrder]
  mem_order := by rw [hlive, horder]; exact h.mem_order
  count := hcount.trans h.count
  balance := by rw [hcreated, hdestroyed, hcount]; exact h.balance

@[simp] theorem Tally.total_bump (t : Tally) (kind : ResourceKind) :
    (t.bump kind).total = t.total + 1 := by
  cases kind <;> simp [Tally.bump, Tally.total, Tally.toList, ResourceKind.all, Tally.count] <;>
    omega

theorem holds_fresh (features : Features) (maxColors : UInt32) (display : Display)
    (failAt : Option (ResourceKind × Nat)) (quitAfter : Option Nat) :
    (fresh features maxColors display failAt quitAfter).Holds [] where
  order := rfl
  mem_order id h := by
    have hnone : (fresh features maxColors display failAt quitAfter).isLive id = false := by
      cases id <;> exact Slot.Map.contains_empty
    simp [hnone] at h
  count := rfl
  balance := rfl

/-! ### Lists in which the last occurrence counts -/

theorem dedup_append_singleton (xs : List ResourceId) (id : ResourceId) :
    (xs ++ [id]).dedup = (xs.filter (· ≠ id)).dedup ++ [id] := by
  induction xs with
  | nil => rfl
  | cons x xs ih =>
    by_cases hx : x = id
    · rw [List.cons_append, List.dedup_cons_of_mem (by simp [hx]), ih]
      simp [hx]
    · have hkeep : (x :: xs).filter (· ≠ id) = x :: xs.filter (· ≠ id) := by simp [hx]
      rw [List.cons_append, List.dedup_cons, hkeep, List.dedup_cons, ih]
      by_cases hm : x ∈ xs <;> simp [hm, hx]

theorem dedup_filter (p : ResourceId → Bool) (xs : List ResourceId) :
    (xs.filter p).dedup = xs.dedup.filter p := by
  induction xs with
  | nil => rfl
  | cons x xs ih =>
    by_cases hp : p x = true
    · rw [List.filter_cons_of_pos hp, List.dedup_cons, List.dedup_cons, ih]
      by_cases hm : x ∈ xs <;> simp [hm, hp]
    · rw [List.filter_cons_of_neg hp, List.dedup_cons, ih]
      by_cases hm : x ∈ xs <;> simp [hm, hp]

/-! ### One resource more or less -/

/-- A resource was counted but is not in a store yet. -/
def Ahead (r : Recorder) (l : List ResourceId) : Prop :=
  ∃ kind created, r.created = created.bump kind ∧ { r with created }.Holds l

/-- A resource that was dead is now the latest one. -/
theorem Ahead.store (h : r.Ahead l) (hdead : r.isLive id = false)
    (hlive : ∀ k, r'.isLive k ↔ k = id ∨ r.isLive k) (hcount : r'.liveCount = r.liveCount + 1)
    (horder : r'.order = r.order ++ [id]) (hcreated : r'.created = r.created)
    (hdestroyed : r'.destroyed = r.destroyed) : r'.Holds (l ++ [id]) := by
  obtain ⟨kind, created, hbump, hr⟩ := h
  have hself : r'.isLive id = true := (hlive id).2 (.inl rfl)
  have hfilter : (r.order.filter r'.isLive).filter (· ≠ id) = r.order.filter r.isLive := by
    rw [List.filter_filter]
    refine List.filter_congr fun k _ ↦ ?_
    by_cases hk : k = id
    · simp [hk, hdead]
    · have hkl : r'.isLive k ↔ r.isLive k := by simp [hlive k, hk]
      simp [hk, Bool.eq_iff_iff.2 hkl]
  refine ⟨?_, fun k hk ↦ ?_, ?_, ?_⟩
  · have hl := hr.order
    rw [liveInOrder] at hl ⊢
    rw [horder, List.filter_append, List.filter_cons_of_pos hself, List.filter_nil,
      dedup_append_singleton, hfilter]
    exact congrArg (· ++ [id]) hl
  · rw [horder, List.mem_append, List.mem_singleton]
    rcases (hlive k).1 hk with rfl | hk
    · exact .inr rfl
    · exact .inl (hr.mem_order k hk)
  · rw [hcount, List.length_append, List.length_singleton]
    exact congrArg (· + 1) hr.count
  · have hb := hr.balance
    rw [hcreated, hbump, Tally.total_bump, hdestroyed, hcount]
    simp only at hb
    exact (congrArg (· + 1) hb).trans (Nat.add_assoc _ _ 1)

/-- The latest resource is gone. -/
theorem Holds.release (h : r.Holds (l ++ [id]))
    (hlive : ∀ k, r'.isLive k ↔ k ≠ id ∧ r.isLive k) (hcount : r.liveCount = r'.liveCount + 1)
    (horder : r'.order = r.order) (hcreated : r'.created = r.created)
    (hdestroyed : r'.destroyed.total = r.destroyed.total + 1) : r'.Holds l := by
  refine ⟨?_, fun k hk ↦ ?_, ?_, ?_⟩
  · have hmem : id ∉ l := fun hm ↦ by
      have := h.nodup
      simp only [List.nodup_append, List.mem_singleton, forall_eq] at this
      exact this.2.2 id hm rfl
    have hfilter : r.order.filter r'.isLive = (r.order.filter r.isLive).filter (· ≠ id) := by
      rw [List.filter_filter]
      refine List.filter_congr fun k _ ↦ ?_
      rw [Bool.eq_iff_iff, hlive k]
      simp
    have ho := h.order
    rw [liveInOrder] at ho ⊢
    rw [horder, hfilter, dedup_filter, ho, List.filter_append,
      List.filter_eq_self.2 fun k hk ↦ by simpa using fun he : k = id ↦ hmem (he ▸ hk)]
    simp
  · exact horder ▸ h.mem_order k ((hlive k).1 hk).2
  · have := h.count
    simp only [List.length_append, List.length_singleton] at this
    omega
  · have := h.balance
    rw [hcreated, hdestroyed]
    omega

/-! ### Steps of a recorder -/

/-- The ledger of a recorder with a journal. -/
def HoldsIn (l : List ResourceId) (s : Recorder × Journal) : Prop := s.1.Holds l

section Steps

variable {α : Type} {P : Recorder × Journal → Prop} {E : EngineError → Recorder × Journal → Prop}

theorem meets_current {Q : Recorder → Recorder × Journal → Prop} (h : ∀ s, P s → Q s.1 s) :
    Meets P current Q E :=
  h

theorem meets_change {Q : Unit → Recorder × Journal → Prop} {f : Recorder → Recorder}
    (h : ∀ s, P s → Q () (f s.1, s.2)) : Meets P (change f) Q E :=
  h

/-- Looking at the recorder keeps what is known of it. -/
theorem meets_current' {Q : α → Recorder × Journal → Prop} {f : Recorder → Recording α}
    (h : ∀ r, Meets (fun s ↦ P s ∧ s.1 = r) (f r) Q E) : Meets P (current >>= f) Q E :=
  (meets_current fun _ hs ↦ ⟨hs, rfl⟩).bind h

end Steps

theorem keeps_record (l : List ResourceId) (c : Command) : Keeps (HoldsIn l) (record c) :=
  meets_change fun _ hs ↦ hs.congr rfl rfl rfl rfl rfl

theorem keeps_accept {ε : Type} (l : List ResourceId) (cause : ε → InvalidCause)
    (check : Except ε Unit) : Keeps (HoldsIn l) (accept cause check) :=
  .ofChecked

/-! ### Making and releasing -/

theorem meets_enroll (l : List ResourceId) (kind : ResourceKind) :
    Meets (HoldsIn l) (enroll kind) (fun _ s ↦ s.1.Ahead l) fun _ ↦ HoldsIn l := by
  rw [enroll]
  refine meets_current' fun r ↦ .ite (fun _ ↦ .refuse_bind fun _ _ hs ↦ hs.1) fun _ ↦ ?_
  exact meets_change fun s hs ↦ ⟨kind, s.1.created, rfl, hs.1⟩

/-- After it was counted, a resource is stored and added to the order. -/
theorem meets_store {β : Type} {kind : ResourceKind} {E : EngineError → Recorder × Journal → Prop}
    {l : List ResourceId} {put : Recorder → Option (Slot.Handle kind × β)}
    {wrap : Slot.Handle kind → ResourceId} {f : Slot.Handle kind × β → Recorder → Recorder}
    (h : ∀ r p, put r = some p → r.Ahead l → (f p r).Holds (l ++ [wrap p.1])) :
    Meets (fun s ↦ s.1.Ahead l)
      (current >>= fun r ↦ StepWith.orTrap (put r) >>= fun p ↦ change (f p) >>= fun _ ↦ pure p.1)
      (fun id ↦ HoldsIn (l ++ [wrap id])) E := by
  refine meets_current' fun r ↦ ?_
  refine .orTrap_bind fun p hp ↦ ?_
  refine Meets.bind (meets_change fun s hs ↦ ?_) fun _ ↦ .pure fun _ hs ↦ hs
  obtain ⟨ha, rfl⟩ := hs
  exact h _ p hp ha

theorem meets_createTexture (l : List ResourceId) (d : TextureDesc) :
    Meets (HoldsIn l) (createTexture d) (fun id ↦ HoldsIn (l ++ [.texture id]))
      fun _ ↦ HoldsIn l := by
  rw [createTexture]
  refine (keeps_accept l _ _).bind fun _ ↦ ?_
  refine (meets_enroll l _).bind fun _ ↦ meets_store fun r p hi ha ↦ ?_
  refine ha.store (Slot.Map.not_contains_of_insert? hi) (fun k ↦ ?_) ?_ rfl rfl rfl
  · cases k <;> simp [isLive, Slot.Map.contains_insert? hi]
  · simp only [liveCount, Slot.Map.size_insert? hi]
    omega

theorem meets_createMesh (l : List ResourceId) (d : MeshDesc) :
    Meets (HoldsIn l) (createMesh d) (fun id ↦ HoldsIn (l ++ [.mesh id])) fun _ ↦ HoldsIn l := by
  rw [createMesh]
  refine (Meets.ofChecked (fun _ _ _ hs ↦ hs) fun _ _ _ hs ↦ hs).bind fun _ ↦ ?_
  refine (meets_enroll l _).bind fun _ ↦ meets_store fun r p hi ha ↦ ?_
  refine ha.store (Slot.Map.not_contains_of_insert? hi) (fun k ↦ ?_) ?_ rfl rfl rfl
  · cases k <;> simp [isLive, Slot.Map.contains_insert? hi]
  · simp only [liveCount, Slot.Map.size_insert? hi]
    omega

theorem meets_createShader (l : List ResourceId) (d : ShaderDesc) :
    Meets (HoldsIn l) (createShader d) (fun id ↦ HoldsIn (l ++ [.shader id]))
      fun _ ↦ HoldsIn l := by
  rw [createShader]
  refine (keeps_accept l _ _).bind fun _ ↦ ?_
  refine (meets_enroll l _).bind fun _ ↦ meets_store fun r p hi ha ↦ ?_
  refine ha.store (Slot.Map.not_contains_of_insert? hi) (fun k ↦ ?_) ?_ rfl rfl rfl
  · cases k <;> simp [isLive, Slot.Map.contains_insert? hi]
  · simp only [liveCount, Slot.Map.size_insert? hi]
    omega

theorem meets_createPipeline (l : List ResourceId) (d : PipelineDesc) :
    Meets (HoldsIn l) (createPipeline d) (fun id ↦ HoldsIn (l ++ [.pipeline id]))
      fun _ ↦ HoldsIn l := by
  rw [createPipeline]
  refine (keeps_accept l _ _).bind fun _ ↦ meets_current' fun r ↦
    .ite (fun _ ↦ .fail_bind fun _ hs ↦ hs.1) fun _ ↦ ?_
  refine ((meets_enroll l _).pre fun _ hs ↦ hs.1).bind fun _ ↦
    meets_store fun r p hi ha ↦ ?_
  refine ha.store (Slot.Map.not_contains_of_insert? hi) (fun k ↦ ?_) ?_ rfl rfl rfl
  · cases k <;> simp [isLive, Slot.Map.contains_insert? hi]
  · simp only [liveCount, Slot.Map.size_insert? hi]
    omega

theorem meets_createPass (l : List ResourceId) (d : PassDesc) :
    Meets (HoldsIn l) (createPass d) (fun id ↦ HoldsIn (l ++ [.pass id])) fun _ ↦ HoldsIn l := by
  rw [createPass]
  refine meets_current' fun r ↦ Meets.pre ?_ fun _ hs ↦ hs.1
  refine (keeps_accept l _ _).bind fun _ ↦ ?_
  refine (keeps_accept l _ _).bind fun _ ↦ ?_
  refine (keeps_accept l _ _).bind fun _ ↦ ?_
  refine (meets_enroll l _).bind fun _ ↦ meets_store fun r p hi ha ↦ ?_
  refine ha.store (Slot.Map.not_contains_of_insert? hi) (fun k ↦ ?_) ?_ rfl rfl rfl
  · cases k <;> simp [isLive, Slot.Map.contains_insert? hi]
  · simp only [liveCount, Slot.Map.size_insert? hi]
    omega

/-- What can be released is what is alive. -/
theorem isSome_remove? (r : Recorder) (id : ResourceId) : (r.remove? id).isSome = r.isLive id := by
  cases id <;> simp [remove?, isLive, Slot.Map.isSome_remove]

/-- Of the latest resource, nothing is left. -/
theorem Holds.remove? (h : r.Holds (l ++ [id])) (hr : r.remove? id = some r') :
    { r' with destroyed := r'.destroyed.bump id.kind }.Holds l := by
  cases id <;>
  · obtain ⟨⟨a, m⟩, hm, rfl⟩ := Option.map_eq_some_iff.1 hr
    refine h.release (fun k ↦ ?_) ?_ rfl rfl (Tally.total_bump _ _)
    · cases k <;> simp [isLive, Slot.Map.contains_remove hm]
    · simp only [liveCount, Slot.Map.size_remove hm]
      omega

theorem meets_destroy (l : List ResourceId) (id : ResourceId) :
    Meets (HoldsIn (l ++ [id])) (destroy id) (fun _ ↦ HoldsIn l) fun _ _ ↦ False := by
  rw [destroy]
  refine meets_current' fun r ↦ ?_
  cases hr : r.remove? id with
  | none =>
    refine .fail fun s hs ↦ ?_
    have hlive := (hs.1.mem_iff id).1 (by simp)
    rw [hs.2, ← isSome_remove?, hr] at hlive
    cases hlive
  | some r' => exact meets_change fun s hs ↦ hs.1.remove? (hs.2 ▸ hr)

/-! ### Commands -/

theorem keeps_activePass (l : List ResourceId) (command : String) :
    Keeps (HoldsIn l) (activePass command) := by
  rw [activePass]
  refine meets_current' fun r ↦ ?_
  split
  · exact .pure fun _ hs ↦ hs.1
  · exact .refuse fun _ _ hs ↦ hs.1

theorem keeps_beginPass (l : List ResourceId) (pass : Option PassId) (action : PassAction) :
    Keeps (HoldsIn l) (beginPass pass action) := by
  have hrest : ∀ p : ActivePass × List Vec4, Keeps (HoldsIn l) (do
      change fun r ↦ { r with active := some p.1 }
      record (.beginPass pass p.2)) :=
    fun p ↦ (meets_change fun _ hs ↦ hs.congr rfl rfl rfl rfl rfl).bind fun _ ↦ keeps_record l _
  rw [beginPass]
  refine meets_current' fun r ↦ .ite (fun _ ↦ .refuse_bind fun _ _ hs ↦ hs.1) fun _ ↦ ?_
  cases pass with
  | some id => exact (Meets.ofChecked (fun _ _ _ hs ↦ hs.1) fun _ _ _ hs ↦ hs.1).bind hrest
  | none => exact (Meets.pure fun _ hs ↦ hs.1).bind hrest

theorem keeps_applyViewport (l : List ResourceId) (rect : Rect) (topLeft : Bool) :
    Keeps (HoldsIn l) (applyViewport rect topLeft) :=
  (keeps_activePass l _).bind fun _ ↦ keeps_record l _

theorem keeps_checkSampled (l : List ResourceId) (ids : List TextureId) :
    Keeps (HoldsIn l) (checkSampled ids) := by
  induction ids with
  | nil => exact .pure fun _ hs ↦ hs
  | cons id rest ih =>
    rw [checkSampled]
    refine meets_current' fun r ↦ ?_
    split
    · exact .fail fun _ hs ↦ hs.1
    · refine .ite (fun _ ↦ .refuse_bind fun _ _ hs ↦ hs.1) fun _ ↦ ?_
      exact Meets.pre ih fun _ hs ↦ hs.1

theorem keeps_applyDrawState (l : List ResourceId) (state : DrawState) :
    Keeps (HoldsIn l) (applyDrawState state) := by
  rw [applyDrawState]
  refine meets_current' fun r ↦ (Meets.orFail (fun _ _ _ hs ↦ hs.1) fun _ _ hs ↦ hs.1).bind
    fun pipeline ↦ .ite (fun _ ↦ .fail_bind fun _ hs ↦ hs) fun _ ↦ ?_
  refine (keeps_checkSampled l _).bind fun _ ↦ ?_
  refine (keeps_activePass l _).bind fun active ↦ ?_
  refine .ite (fun _ ↦ .refuse_bind fun _ _ hs ↦ hs) fun _ ↦ ?_
  refine .ite (fun _ ↦ .refuse_bind fun _ _ hs ↦ hs) fun _ ↦ ?_
  exact (meets_change fun _ hs ↦ hs.congr rfl rfl rfl rfl rfl).bind fun _ ↦ keeps_record l _

theorem keeps_applyUniforms (l : List ResourceId) (stage : ShaderStage) (data : List UInt8) :
    Keeps (HoldsIn l) (applyUniforms stage data) := by
  rw [applyUniforms]
  refine (keeps_activePass l _).bind fun _ ↦ ?_
  exact .ite (fun _ ↦ .refuse_bind fun _ _ hs ↦ hs) fun _ ↦ keeps_record l _

theorem keeps_draw (l : List ResourceId) (group : Nat) : Keeps (HoldsIn l) (draw group) := by
  rw [draw]
  refine (keeps_activePass l _).bind fun active ↦ ?_
  split
  · exact .refuse fun _ _ hs ↦ hs
  · refine meets_current' fun r ↦ .ite (fun _ ↦ .refuse_bind fun _ _ hs ↦ hs.1) fun _ ↦ ?_
    exact Meets.pre (keeps_record l _) fun _ hs ↦ hs.1

theorem keeps_fillRects (l : List ResourceId) (color : Vec4) (rects : List Rect) :
    Keeps (HoldsIn l) (fillRects color rects) :=
  (keeps_activePass l _).bind fun _ ↦ keeps_record l _

theorem keeps_endPass (l : List ResourceId) : Keeps (HoldsIn l) endPass := by
  rw [endPass]
  refine meets_current' fun r ↦ ?_
  split
  · exact .refuse fun _ _ hs ↦ hs.1
  · exact (meets_change fun _ hs ↦ hs.1.congr rfl rfl rfl rfl rfl).bind fun _ ↦ keeps_record l _

theorem keeps_commitFrame (l : List ResourceId) : Keeps (HoldsIn l) commitFrame := by
  rw [commitFrame]
  refine meets_current' fun r ↦ .ite (fun _ ↦ .refuse_bind fun _ _ hs ↦ hs.1) fun _ ↦ ?_
  exact (meets_change fun _ hs ↦ hs.1.congr rfl rfl rfl rfl rfl).bind fun _ ↦ keeps_record l _

theorem keeps_requestQuit (l : List ResourceId) : Keeps (HoldsIn l) requestQuit :=
  meets_change fun _ hs ↦ hs.congr rfl rfl rfl rfl rfl

/-- The recorder keeps its ledger. -/
theorem ledger : Ledger HoldsIn where
  journal _ _ _ hs := hs
  createTexture := meets_createTexture
  createMesh := meets_createMesh
  createShader := meets_createShader
  createPipeline := meets_createPipeline
  createPass := meets_createPass
  destroy := meets_destroy
  beginPass := keeps_beginPass
  applyViewport := keeps_applyViewport
  applyDrawState := keeps_applyDrawState
  applyUniforms := keeps_applyUniforms
  draw := keeps_draw
  fillRects := keeps_fillRects
  endPass := keeps_endPass
  commitFrame := keeps_commitFrame
  requestQuit := keeps_requestQuit

end RenderTargets.Recorder
