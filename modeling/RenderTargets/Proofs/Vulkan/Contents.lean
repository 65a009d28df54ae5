import RenderTargets.Proofs.Vulkan.OutsideFrames
/-!
# What command buffers hold

A trace says at any time what was recorded into a command buffer since it was reset or begun, its
`contents`, and which commands were handed over to the GPU, `executed`. Both are lists of commands
with the latest one first, as traces are, and a command that is recorded goes to the front. A buffer
that is never handed over counts for nothing in `executed`.

What a draw finds bound is read off such a list: the render pass instance it is in, the pipeline,
and the descriptor set. A set is the pipeline's **own** if it was bound after the pipeline was.

## Outside frames

Uploads have buffers of their own. So what is done outside frames leaves the contents of other
buffers alone, records no draw and binds nothing (`OutsideFrames.contents_eq`,
`OutsideFrames.lacksSet_iff`).
-/

namespace RenderTargets.Vulkan

/-! ### Buffers -/

/-- What a buffer holds after a call. -/
def Call.contents (b : Object .commandBuffer) (held : List Recorded) : Call → List Recorded
  | record b' r => if b' = b then r :: held else held
  | resetCommandBuffer b' | beginCommandBuffer b' => if b' = b then [] else held
  | _ => held

/-- What was recorded into the buffer since it was reset or begun, the latest command first. -/
def contents (b : Object .commandBuffer) : List Call → List Recorded
  | [] => []
  | c :: past => c.contents b (contents b past)

/-- The commands that were handed over to the GPU, the latest first. -/
def executed : List Call → List Recorded
  | [] => []
  | .submit _ work _ :: past => contents work.commands past ++ executed past
  | _ :: past => executed past

/-! ### What is bound -/

/-- The render pass instance that the commands end in. -/
def passOf : List Recorded → Option PassBegin
  | [] => none
  | .beginPass info :: _ => some info
  | .endPass :: _ => none
  | _ :: past => passOf past

/-- The pipeline that was bound last. -/
def pipelineOf : List Recorded → Option (Object .pipeline)
  | [] => none
  | .bindPipeline p :: _ => some p
  | _ :: past => pipelineOf past

/-- The descriptor set that was bound last, and for which layout. -/
def setOf : List Recorded → Option (Object .pipelineLayout × Object .descriptorSet)
  | [] => none
  | .bindSet layout set :: _ => some (layout, set)
  | _ :: past => setOf past

/-- The descriptor set that was bound after the last pipeline was, and for which layout. -/
def ownSetOf : List Recorded → Option (Object .pipelineLayout × Object .descriptorSet)
  | [] => none
  | .bindSet layout set :: _ => some (layout, set)
  | .bindPipeline _ :: _ => none
  | _ :: past => ownSetOf past

/-- What failed, if the call did. -/
def Call.failedName? : Call → Option CallName
  | failed name _ _ => some name
  | _ => none

/-- What was asked for with the call, whether it was done or not. -/
def Call.asked : Call → Call
  | failed _ wanted _ => wanted.asked
  | c => c

/-- Since a pipeline was bound for the last time, a descriptor set could not be made. -/
def LacksSet : List Call → Prop
  | [] => False
  | .failed .allocateDescriptorSets _ _ :: _ => True
  | .record _ (.bindPipeline _) :: _ | .record _ (.beginPass _) :: _ => False
  | _ :: past => LacksSet past

variable {uploads : Object .commandPool} {n : ℕ} {b : Object .commandBuffer} {c : Call}
  {l calls past : List Call} {r : Recorded} {held pre post rs : List Recorded}

/-- A set that is the pipeline's own is the one that is bound. -/
theorem setOf_of_ownSetOf {x : Object .pipelineLayout × Object .descriptorSet}
    (h : ownSetOf rs = some x) : setOf rs = some x := by
  fun_induction ownSetOf rs with
  | case1 => cases h
  | case2 => exact h
  | case3 => cases h
  | case4 r past hset hpipeline ih =>
    cases r with
    | bindSet layout set => exact (hset layout set rfl).elim
    | bindPipeline p => exact (hpipeline p rfl).elim
    | _ => exact ih h

/-! ### Traces that grow -/

@[simp] theorem contents_record_self :
    contents b (.record b r :: calls) = r :: contents b calls := by
  rw [contents, Call.contents, if_pos rfl]

/-- Commands that are recorded one after the other go to the front. -/
theorem contents_records (rs : List Recorded) :
    contents b (rs.map (.record b) ++ calls) = rs ++ contents b calls := by
  induction rs with
  | nil => rfl
  | cons r rs ih =>
    show contents b (.record b r :: (rs.map (.record b) ++ calls)) = r :: (rs ++ contents b calls)
    rw [contents_record_self, ih]

/-- A command that a buffer holds was recorded into it, at a time when the buffer held what was
recorded before. -/
theorem exists_record_of_contents (h : contents b calls = post ++ r :: pre) :
    ∃ later past, calls = later ++ .record b r :: past ∧ contents b past = pre := by
  induction calls generalizing post with
  | nil => simp [contents] at h
  | cons c calls ih =>
    have hskip {post : List Recorded} (h : contents b calls = post ++ r :: pre) :
        ∃ later past, c :: calls = later ++ .record b r :: past ∧ contents b past = pre := by
      obtain ⟨later, past, hcalls, hpast⟩ := ih h
      exact ⟨c :: later, past, congrArg (c :: ·) hcalls, hpast⟩
    cases c with
    | record b' r' =>
      rw [contents, Call.contents] at h
      split at h
      · next hb =>
        -- The command is the one just recorded, or one that was there before.
        subst hb
        cases post with
        | nil =>
          obtain ⟨rfl, hpre⟩ := List.cons.inj h
          exact ⟨[], calls, rfl, hpre⟩
        | cons x post => exact hskip (List.cons.inj h).2
      · exact hskip h
    | resetCommandBuffer b' | beginCommandBuffer b' =>
      rw [contents, Call.contents] at h
      split at h
      · simp at h
      · exact hskip h
    | _ => exact hskip h

theorem mem_of_mem_contents (h : r ∈ contents b calls) : .record b r ∈ calls := by
  obtain ⟨post, pre, hsplit⟩ := List.append_of_mem h
  obtain ⟨later, past, rfl, -⟩ := exists_record_of_contents hsplit
  simp

/-- What was handed over stays so. -/
theorem executed_suffix (l calls : List Call) : executed calls <:+ executed (l ++ calls) := by
  induction l with
  | nil => exact List.suffix_refl _
  | cons c l ih =>
    cases c with
    | submit queue work fence => exact ih.trans (List.suffix_append _ _)
    | _ => exact ih

theorem exists_record_of_executed (h : r ∈ executed calls) : ∃ b, .record b r ∈ calls := by
  induction calls with
  | nil => cases h
  | cons c calls ih =>
    have hpast : r ∈ executed calls → ∃ b, .record b r ∈ c :: calls := by
      intro h
      obtain ⟨b, hb⟩ := ih h
      exact ⟨b, List.mem_cons_of_mem c hb⟩
    cases c with
    | submit queue work fence =>
      rcases List.mem_append.1 h with h | h
      · exact ⟨work.commands, List.mem_cons_of_mem _ (mem_of_mem_contents h)⟩
      · exact hpast h
    | _ => exact hpast h

/-! ### Outside frames -/

/-- The call neither changes what the buffer holds nor binds anything. -/
structure Call.Passes (b : Object .commandBuffer) (c : Call) : Prop where
  /-- The contents are the same. -/
  contents : ∀ held, c.contents b held = held
  /-- No set was asked for, and no pipeline bound. -/
  lacksSet : ∀ past, LacksSet (c :: past) ↔ LacksSet past
  /-- No set was written. -/
  updates : ∀ writes, c ≠ .updateSets writes

namespace Call

theorem IsOutsideFrames.passes (h : c.IsOutsideFrames uploads) : c.Passes b := by
  cases c with
  | failed name wanted code =>
    refine ⟨fun _ ↦ rfl, fun past ↦ ?_, nofun⟩
    cases name with
    | allocateDescriptorSets => cases h
    | _ => exact Iff.rfl
  | freeCommandBuffer | waitForFence | resetCommandBuffer | beginCommandBuffer | endCommandBuffer
  | submit | allocateDescriptorSet | updateSets | record => exact h.elim
  | _ => exact ⟨fun _ ↦ rfl, fun _ ↦ Iff.rfl, nofun⟩

/-- An upload goes on with another buffer. -/
theorem IsUpload.passes {b' : Object .commandBuffer} (h : c.IsUpload b') (hb : b' ≠ b) :
    c.Passes b := by
  cases c with
  | failed name wanted code =>
    refine ⟨fun _ ↦ rfl, fun past ↦ ?_, nofun⟩
    cases name with
    | allocateDescriptorSets => exact (h rfl).elim
    | _ => exact Iff.rfl
  | waitQueue | submit => exact ⟨fun _ ↦ rfl, fun _ ↦ Iff.rfl, nofun⟩
  | beginCommandBuffer b'' =>
    obtain rfl : b'' = b' := h
    exact ⟨fun _ ↦ if_neg hb, fun _ ↦ Iff.rfl, nofun⟩
  | endCommandBuffer => exact ⟨fun _ ↦ rfl, fun _ ↦ Iff.rfl, nofun⟩
  | record b'' r =>
    obtain ⟨rfl, hr⟩ := h
    refine ⟨fun _ ↦ if_neg hb, fun _ ↦ ?_, nofun⟩
    cases r with
    | prepareForSampling => exact Iff.rfl
    | _ => exact hr.elim
  | _ => exact h.elim

end Call

theorem contents_append (h : ∀ c ∈ l, c.Passes b) : contents b (l ++ calls) = contents b calls := by
  induction l with
  | nil => rfl
  | cons c l ih =>
    obtain ⟨hc, hl⟩ := List.forall_mem_cons.1 h
    show c.contents b (contents b (l ++ calls)) = contents b calls
    rw [hc.contents, ih hl]

theorem lacksSet_append (h : ∀ c ∈ l, c.Passes b) : LacksSet (l ++ calls) ↔ LacksSet calls := by
  induction l with
  | nil => exact Iff.rfl
  | cons c l ih =>
    obtain ⟨hc, hl⟩ := List.forall_mem_cons.1 h
    exact (hc.lacksSet _).trans (ih hl)

namespace OutsideFrames

/-- What is done outside frames passes the buffers there are. -/
theorem passes (h : OutsideFrames uploads n l) (hb : b.number ≤ n) : ∀ c ∈ l, c.Passes b := by
  induction h with
  | nil => exact List.forall_mem_nil _
  | call _ hc ih => exact List.forall_mem_cons.2 ⟨hc.passes, ih⟩
  | @upload b' work l _ hn hw ih =>
    have hne : b' ≠ b := by
      rintro rfl
      omega
    have hends : (Call.freeCommandBuffer uploads b').Passes b ∧
        (Call.allocateCommandBuffer b' uploads).Passes b :=
      ⟨⟨fun _ ↦ rfl, fun _ ↦ Iff.rfl, nofun⟩, ⟨fun _ ↦ rfl, fun _ ↦ Iff.rfl, nofun⟩⟩
    refine List.forall_mem_cons.2 ⟨hends.1, fun c hc ↦ ?_⟩
    rcases List.mem_append.1 hc with hc | hc
    · exact (hw c hc).passes hne
    · exact (List.forall_mem_cons.2 ⟨hends.2, ih⟩) c hc

theorem contents_eq (h : OutsideFrames uploads n l) (hb : b.number ≤ n) :
    contents b (l ++ calls) = contents b calls :=
  contents_append (h.passes hb)

theorem lacksSet_iff (h : OutsideFrames uploads n l) : LacksSet (l ++ calls) ↔ LacksSet calls :=
  lacksSet_append (h.passes (b := .null) (Nat.zero_le n))

theorem not_mem_updateSets (h : OutsideFrames uploads n l) (writes : List DescriptorWrite) :
    .updateSets writes ∉ l :=
  fun hmem ↦ (h.passes (b := .null) (Nat.zero_le n) _ hmem).updates writes rfl

end OutsideFrames

end RenderTargets.Vulkan
