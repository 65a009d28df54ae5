import Mathlib.Data.Finset.Card
import RenderTargets.Proofs.App.Targets
import RenderTargets.Proofs.App.View
import RenderTargets.Proofs.Device.View
import RenderTargets.Proofs.Recorder.Inventory
/-!
# What releasing an arena tries

Whether a user of a device asks for every release that it has to ask for cannot be read off the
device: a release that is refused leaves no trace there. A `Watched` device has beside it a list of
all **attempts** at releasing, each with how it ended, and does the same as the device alone
(`Watched.view`).

Other than an audit, which only knows the refusals, the list says in which order the attempts were
made and that none was made twice.

## Every resource once

On any device, releasing tries **every** resource of the part to release, once for each time it is
listed and from the last to the first, whatever the attempts before it came to
(`Arena.meets_releaseEach_attempts`). Watching the device shows it.

A recorder decides an attempt by whether the resource is alive by then: it was alive at first, and
no attempt before was at the same resource (`Recorder.Tries`). So a handle that is listed twice is
released by its last entry and refused at the others, and the recorder loses each of the live
resources once. Nothing is asked of the arena: stale, foreign and repeated handles may be in it.
-/

namespace RenderTargets

open Log StepWith

variable {σ τ α : Type}

/-! ### A device in a part of a state -/

/-- The device that a part of a state is. -/
abbrev GraphicsDevice.through [GraphicsDevice σ] (l : Lens τ σ) : GraphicsDevice τ where
  journal := l.comp HasJournal.journal
  features s := features (l.get s)
  maxColors s := maxColors (l.get s)
  display s := display (l.get s)
  createTexture d := within l (createTexture d)
  createMesh d := within l (createMesh d)
  createShader d := within l (createShader d)
  createPipeline d := within l (createPipeline d)
  createPass d := within l (createPass d)
  destroy id := within l (destroy id)
  beginPass p a := within l (beginPass p a)
  applyViewport r b := within l (applyViewport r b)
  applyDrawState d := within l (applyDrawState d)
  applyUniforms t d := within l (applyUniforms t d)
  draw g := within l (draw g)
  fillRects c r := within l (fillRects c r)
  endPass := within l endPass
  commitFrame := within l commitFrame
  quitRequested s := quitRequested (l.get s)
  requestQuit := within l requestQuit

/-- A step on a part of a state, of which only the part is seen, is the step. -/
theorem StepWith.seen_within {ε : Type} {l : Lens τ σ} (hset : ∀ t s, l.get (l.set t s) = t)
    (x : StepWith ε σ α) : Seen l.get (within l x) x := by
  intro s
  rw [within]
  rcases x (l.get s) with ⟨a, t⟩ | ⟨e, t⟩
  · exact congrArg _ (hset t s)
  · exact congrArg _ (hset t s)

/-! ### Watching -/

/-- A release that was asked for. -/
structure Attempt where
  /-- The resource. -/
  id : ResourceId
  /-- How it ended. -/
  outcome : Except EngineError Unit

/-- The error of an attempt that failed. -/
def Attempt.error? (a : Attempt) : Option EngineError :=
  match a.outcome with
  | .ok _ => none
  | .error e => some e

/-- A device beside the attempts at releasing, the latest last. -/
structure Watched (σ : Type) where
  /-- The device. -/
  device : σ
  /-- What was tried, and how it ended. -/
  attempts : List Attempt := []

namespace Watched

/-- The place of the device. -/
def deviceLens : Lens (Watched σ) σ := ⟨Watched.device, fun d s ↦ { s with device := d }⟩

variable [GraphicsDevice σ]

/-- Releases a resource, and notes how that ended. -/
def destroy (id : ResourceId) : Step (Watched σ) Unit := do
  let outcome ← StepWith.attempt (StepWith.within deviceLens (GraphicsDevice.destroy id))
  modify fun s ↦ { s with attempts := s.attempts ++ [⟨id, outcome⟩] }
  StepWith.ofChecked (Checked.ofExcept outcome)

instance : GraphicsDevice (Watched σ) :=
  { GraphicsDevice.through deviceLens with destroy }

theorem seen_destroy (id : ResourceId) :
    Seen device (destroy (σ := σ) id) (GraphicsDevice.destroy id) := by
  intro s
  have hwithin := seen_within (l := deviceLens (σ := σ)) (fun _ _ ↦ rfl)
    (GraphicsDevice.destroy id : Step σ Unit) s
  rw [← show _ = (GraphicsDevice.destroy id : Step σ Unit) (device s) from hwithin]
  rcases h : within (deviceLens (σ := σ)) (GraphicsDevice.destroy id : Step σ Unit) s with
      ⟨a, t⟩ | ⟨e | _, t⟩ <;>
    simp only [destroy, bind, EStateM.bind, StepWith.attempt, h] <;> rfl

/-- A watched device is the device alone. -/
theorem view : View (device (σ := σ)) where
  journal_get _ := rfl
  journal_set _ _ := rfl
  features _ := rfl
  maxColors _ := rfl
  display _ := rfl
  quitRequested _ := rfl
  createTexture _ := seen_within (fun _ _ ↦ rfl) _
  createMesh _ := seen_within (fun _ _ ↦ rfl) _
  createShader _ := seen_within (fun _ _ ↦ rfl) _
  createPipeline _ := seen_within (fun _ _ ↦ rfl) _
  createPass _ := seen_within (fun _ _ ↦ rfl) _
  destroy := seen_destroy
  beginPass _ _ := seen_within (fun _ _ ↦ rfl) _
  applyViewport _ _ := seen_within (fun _ _ ↦ rfl) _
  applyDrawState _ := seen_within (fun _ _ ↦ rfl) _
  applyUniforms _ _ := seen_within (fun _ _ ↦ rfl) _
  draw _ := seen_within (fun _ _ ↦ rfl) _
  fillRects _ _ := seen_within (fun _ _ ↦ rfl) _
  endPass := seen_within (fun _ _ ↦ rfl) _
  commitFrame := seen_within (fun _ _ ↦ rfl) _
  requestQuit := seen_within (fun _ _ ↦ rfl) _

/-- An attempt is noted, whichever way it ends, and it ends with what was noted. -/
theorem meets_destroy (id : ResourceId) (past : List Attempt) :
    Meets (fun s : Watched σ ↦ s.attempts = past) (destroy id)
      (fun _ s ↦ s.attempts = past ++ [⟨id, .ok ()⟩])
      fun e s ↦ s.attempts = past ++ [⟨id, .error e⟩] := by
  have hdevice : Keeps (fun s : Watched σ ↦ s.attempts = past)
      (StepWith.within deviceLens (GraphicsDevice.destroy id : Step σ Unit)) :=
    .within fun s hs ↦ Meets.any.mono (fun _ _ ↦ trivial) (fun _ _ _ ↦ hs) fun _ _ _ ↦ hs
  refine (Meets.attempt (R := fun _ (s : Watched σ) ↦ s.attempts = past) hdevice).bind
    fun outcome ↦ ?_
  refine Meets.bind (Q := fun _ s ↦ s.attempts = past ++ [⟨id, outcome⟩])
    (.update fun s hs ↦ by rw [hs]) fun _ ↦ ?_
  cases outcome with
  | ok a => exact .pure fun _ hs ↦ hs
  | error e => exact .fail fun _ hs ↦ hs

end Watched

end RenderTargets

namespace RenderTargets

open Log StepWith

/-! ### On any device -/

namespace App.Arena

variable {σ : Type} [GraphicsDevice σ]

/-- All resources are tried in turn, and the answer is their number or the first error. -/
theorem meets_releaseEach_attempts (ids : List ResourceId) (n : Nat) (e : Option EngineError)
    (past : List Attempt) :
    Meets (fun s : Watched σ ↦ s.attempts = past) (releaseEach ids n e)
      (fun k s ↦ ∃ new, s.attempts = past ++ new ∧ new.map Attempt.id = ids ∧
        e.or (new.findSome? Attempt.error?) = none ∧ k = n + ids.length)
      fun e' s ↦ ∃ new, s.attempts = past ++ new ∧ new.map Attempt.id = ids ∧
        e.or (new.findSome? Attempt.error?) = some e' := by
  induction ids generalizing n e past with
  | nil =>
    cases e with
    | none => exact .pure fun s hs ↦ ⟨[], by simpa using hs, rfl, rfl, rfl⟩
    | some e => exact .fail fun s hs ↦ ⟨[], by simpa using hs, rfl, rfl⟩
  | cons id rest ih =>
    rw [releaseEach]
    refine (Meets.attempt (R := fun outcome (s : Watched σ) ↦
      s.attempts = past ++ [⟨id, outcome⟩]) (Watched.meets_destroy id past)).bind fun outcome ↦ ?_
    cases outcome with
    | ok a =>
      refine (ih (n + 1) e (past ++ [⟨id, .ok ()⟩])).mono (fun _ hs ↦ hs) ?_ ?_
      · rintro k s ⟨new, hnew, hids, hnone, hk⟩
        refine ⟨⟨id, .ok ()⟩ :: new, by simp [hnew], by simp [hids], hnone, ?_⟩
        rw [hk, List.length_cons]
        omega
      · rintro e' s ⟨new, hnew, hids, hsome⟩
        exact ⟨⟨id, .ok ()⟩ :: new, by simp [hnew], by simp [hids], hsome⟩
    | error failed =>
      refine Meets.bind (Q := fun _ s ↦ s.attempts = past ++ [⟨id, .error failed⟩])
        (.note fun _ _ hs ↦ hs) fun _ ↦ ?_
      -- The first error stays the first one.
      have hor : ∀ new : List Attempt, (e.or (some failed)).or (new.findSome? Attempt.error?) =
          e.or ((⟨id, .error failed⟩ :: new).findSome? Attempt.error?) := by
        intro new
        rw [Option.or_assoc]
        rfl
      refine (ih n (e.or (some failed)) _).mono (fun _ hs ↦ hs) ?_ ?_
      · rintro k s ⟨new, -, -, hnone, -⟩
        rw [hor] at hnone
        simp [Attempt.error?] at hnone
      · rintro e' s ⟨new, hnew, hids, hsome⟩
        exact ⟨⟨id, .error failed⟩ :: new, by simp [hnew], by simp [hids], hor new ▸ hsome⟩

end App.Arena

/-! ### On a recorder -/

namespace Recorder

variable {r r' r'' : Recorder} {j : Journal} {id : ResourceId} {past : List Attempt}

/-- The attempts, one after the other, led from the recorder `r` to `r'`. -/
structure Tries (r : Recorder) (attempts : List Attempt) (r' : Recorder) : Prop where
  /-- An attempt ends well if and only if the resource was alive and not yet tried. -/
  outcome : ∀ past a rest, attempts = past ++ a :: rest →
    a.outcome = if r.isLive a.id ∧ a.id ∉ past.map Attempt.id then .ok ()
      else .error (.invalid (.notAlive a.id))
  /-- What was tried is not alive, and the rest is as alive as it was. -/
  live : ∀ k, r'.isLive k ↔ k ∉ attempts.map Attempt.id ∧ r.isLive k
  /-- Live resources that were tried are counted, each once. -/
  destroyed : ∀ kind, r'.destroyed.count kind = r.destroyed.count kind +
    {k ∈ (attempts.map Attempt.id).toFinset | r.isLive k ∧ k.kind = kind}.card

namespace Tries

theorem nil : r.Tries [] r where
  outcome past a rest h := by simp at h
  live k := by simp
  destroyed kind := by simp

/-- One more attempt has its own outcome, and those before it keep theirs. -/
theorem outcome_snoc (h : r.Tries past r') {a : Attempt}
    (ha : a.outcome = if r.isLive a.id ∧ a.id ∉ past.map Attempt.id then .ok ()
      else .error (.invalid (.notAlive a.id))) :
    ∀ past' a' rest, past ++ [a] = past' ++ a' :: rest →
      a'.outcome = if r.isLive a'.id ∧ a'.id ∉ past'.map Attempt.id then .ok ()
        else .error (.invalid (.notAlive a'.id)) := by
  intro past' a' rest heq
  rcases List.eq_nil_or_concat rest with rfl | ⟨rest, b, rfl⟩
  · obtain ⟨rfl, ha'⟩ := List.append_inj' heq rfl
    cases ha'
    exact ha
  · rw [List.concat_eq_append, ← List.cons_append, ← List.append_assoc] at heq
    exact h.outcome past' a' rest (List.append_inj' heq rfl).1

/-- A live resource is released. -/
theorem loses (h : r.Tries past r') (hl : r'.Loses id r'') :
    r.Tries (past ++ [⟨id, .ok ()⟩]) r'' where
  outcome := by
    have halive := (h.live id).1 hl.alive
    exact h.outcome_snoc (if_pos ⟨halive.2, halive.1⟩).symm
  live k := by
    rw [hl.live, h.live]
    simp only [List.map_append, List.mem_append, List.map_cons, List.map_nil, List.mem_singleton]
    tauto
  destroyed kind := by
    obtain ⟨hnew, halive⟩ := (h.live id).1 hl.alive
    rw [hl.destroyed, Tally.count_bump, h.destroyed, List.map_append, List.toFinset_append,
      List.map_cons, List.map_nil, List.toFinset_cons, List.toFinset_nil, insert_empty_eq,
      Finset.union_comm, Finset.singleton_union, Finset.filter_insert]
    by_cases hkind : id.kind = kind
    · rw [if_pos hkind, if_pos ⟨halive, hkind⟩, Finset.card_insert_of_notMem (by simp_all),
        Nat.add_assoc]
    · rw [if_neg hkind, if_neg fun hk ↦ hkind hk.2, Nat.add_zero]

/-- A resource that is not alive is refused. -/
theorem refuses (h : r.Tries past r') (hdead : ¬r'.isLive id) :
    r.Tries (past ++ [⟨id, .error (.invalid (.notAlive id))⟩]) r' where
  outcome := h.outcome_snoc (if_neg fun hk ↦ hdead ((h.live id).2 ⟨hk.2, hk.1⟩)).symm
  live k := by
    rw [h.live]
    simp only [List.map_append, List.mem_append, List.map_cons, List.map_nil, List.mem_singleton]
    have hk := h.live id
    constructor
    · rintro ⟨hnew, halive⟩
      exact ⟨fun hmem ↦ hmem.elim hnew fun he ↦ hdead (hk.2 (he ▸ ⟨hnew, halive⟩)), halive⟩
    · exact fun ⟨hnew, halive⟩ ↦ ⟨fun hmem ↦ hnew (.inl hmem), halive⟩
  destroyed kind := by
    rw [h.destroyed]
    congr 2
    ext k
    have hk := h.live id
    simp only [List.map_append, List.mem_toFinset, Finset.mem_filter, List.mem_append,
      List.map_cons, List.map_nil, List.mem_singleton]
    refine ⟨fun hmem ↦ ⟨.inl hmem.1, hmem.2⟩, fun ⟨hmem, halive⟩ ↦ ⟨?_, halive⟩⟩
    rcases hmem with hmem | rfl
    · exact hmem
    · by_contra hnew
      exact hdead (hk.2 ⟨hnew, halive.1⟩)

end Tries

/-- A recorder loses the resource if it is alive, and stays as it is otherwise. -/
theorem meets_destroy_cases (r : Recorder) (id : ResourceId) :
    Meets (fun s ↦ s.1 = r) (destroy id) (fun _ s ↦ r.Loses id s.1)
      fun e s ↦ e = .invalid (.notAlive id) ∧ s.1 = r ∧ ¬r.isLive id := by
  rw [destroy, current]
  refine .get_bind_eq fun s hs ↦ ?_
  subst hs
  rcases h : s.1.remove? id with _ | r'
  · refine .fail fun t ht ↦ ⟨rfl, by rw [ht], ?_⟩
    rw [← isSome_remove?, h]
    exact Bool.false_ne_true
  · exact .update fun _ _ ↦ loses_of_remove? h

/-- The attempts noted beside the recorder are those that led from `r` to it. -/
def Led (r : Recorder) (s : Watched (Recorder × Journal)) : Prop := r.Tries s.attempts s.device.1

theorem keeps_destroy_led (r : Recorder) (id : ResourceId) :
    Keeps r.Led (Watched.destroy id) := by
  refine Meets.bind (Meets.attempt (R := fun outcome (s : Watched (Recorder × Journal)) ↦
    r.Led { s with attempts := s.attempts ++ [⟨id, outcome⟩] }) ?_) fun outcome ↦ ?_
  · refine .within fun s hs ↦ (meets_destroy_cases s.device.1 id).mono ?_ ?_ ?_
    · intro t ht
      rw [ht]
      rfl
    · intro _ _ hl
      exact Tries.loses hs hl
    · intro e t ⟨he, ht, hdead⟩
      show r.Tries _ t.1
      rw [he, ht]
      exact Tries.refuses hs hdead
  · refine Meets.bind (Q := fun _ ↦ r.Led) (.update fun _ hs ↦ hs) fun _ ↦ ?_
    exact Keeps.ofChecked

theorem keeps_releaseEach_led (r : Recorder) (ids : List ResourceId) (n : Nat)
    (e : Option EngineError) : Keeps r.Led (App.Arena.releaseEach ids n e) := by
  induction ids generalizing n e with
  | nil =>
    cases e with
    | none => exact .pure fun _ hs ↦ hs
    | some e => exact .fail fun _ hs ↦ hs
  | cons id rest ih =>
    rw [App.Arena.releaseEach]
    refine (Meets.attempt (R := fun _ ↦ r.Led) (keeps_destroy_led r id)).bind fun outcome ↦ ?_
    cases outcome with
    | ok a => exact ih _ _
    | error e' => exact Meets.bind (Q := fun _ ↦ r.Led) (.note fun _ _ hs ↦ hs) fun _ ↦ ih _ _

end Recorder

/-! ### Everything once -/

namespace App.Arena

open Recorder

variable {σ : Type} [GraphicsDevice σ] {owned : Arena} {mark : Nat}

/-- What is released is no longer in the arena when the first release is tried. -/
theorem attempt_rollbackTo {s t : σ} {answer : Except EngineError Nat}
    (h : attempt (releaseEach (owned.drop mark).reverse 0 none) s = .ok answer t) :
    attempt (rollbackTo mark) (owned, s) = .ok answer (owned.take mark, t) := by
  have hbody : rollbackTo mark (owned, s) = within .snd
      (releaseEach (owned.drop mark).reverse 0 none) (owned.take mark, s) := rfl
  rw [attempt] at h ⊢
  rw [hbody, within]
  rcases hx : releaseEach (owned.drop mark).reverse 0 none s with ⟨k, u⟩ | ⟨e | _, u⟩ <;>
    rw [hx] at h <;> cases h <;> simp only [Lens.snd, hx]

/-- A part that was released is empty. -/
theorem attempt_rollbackTo_again (s : σ) :
    attempt (rollbackTo mark) (owned.take mark, s) = .ok (.ok 0) (owned.take mark, s) := by
  have hnothing : attempt (releaseEach ((owned.take mark).drop mark).reverse 0 none) s =
      .ok (.ok 0) s := by
    rw [List.drop_take_self]
    rfl
  have h := attempt_rollbackTo hnothing
  rwa [List.take_take, Nat.min_self] at h

/-- On a recorder, with or without a watch, all resources are tried in turn. -/
theorem exists_releaseEach (ids : List ResourceId) (s : Recorder × Journal) :
    ∃ answer t attempts,
      attempt (releaseEach ids 0 none) (⟨s, []⟩ : Watched (Recorder × Journal)) =
        .ok answer ⟨t, attempts⟩ ∧
      attempt (releaseEach ids 0 none) s = .ok answer t ∧
      attempts.map Attempt.id = ids ∧ s.1.Tries attempts t.1 ∧
      answer = match attempts.findSome? Attempt.error? with
        | none => .ok ids.length
        | some e => .error e := by
  have htried := meets_releaseEach_attempts (σ := Recorder × Journal) ids 0 none [] ⟨s, []⟩ rfl
  have hled := keeps_releaseEach_led s.1 ids 0 none ⟨s, []⟩ .nil
  have hseen := seen_releaseEach Watched.view ids 0 none ⟨s, []⟩
  rcases h : releaseEach ids 0 none (⟨s, []⟩ : Watched (Recorder × Journal)) with
    ⟨k, t⟩ | ⟨e | _, t⟩ <;> rw [h] at htried hled hseen
  · obtain ⟨new, hnew, hids, hnone, hk⟩ := htried
    obtain rfl : t.attempts = new := by simpa using hnew
    refine ⟨.ok k, t.device, t.attempts, by rw [attempt, h], by rw [attempt, ← hseen]; rfl, hids,
      hled, ?_⟩
    rw [Option.none_or] at hnone
    rw [hnone, hk, Nat.zero_add]
  · obtain ⟨new, hnew, hids, hsome⟩ := htried
    obtain rfl : t.attempts = new := by simpa using hnew
    refine ⟨.error e, t.device, t.attempts, by rw [attempt, h], by rw [attempt, ← hseen]; rfl, hids,
      hled, ?_⟩
    rw [Option.none_or] at hsome
    rw [hsome]
  · -- The recorder alone would trap as well, and it never does.
    obtain ⟨_, _, h'⟩ | ⟨_, _, h'⟩ :=
      (safe_releaseEach (P := fun _ ↦ True) ids 0 none).exists_result (s := s) trivial <;>
    · rw [← show _ = releaseEach ids 0 none s from hseen] at h'
      cases h'

end App.Arena

namespace App

open Recorder

/-- **A step on an arena releases a part of it once.** Beside the recorder `s` and on the arena
`owned`, it tries to release the resources `part` and leaves the arena `kept`. -/
structure Releases (x : ∀ (σ : Type) [GraphicsDevice σ], Step (Arena × σ) Nat)
    (owned kept part : Arena) (s s' : Recorder × Journal) (attempts : List Attempt)
    (answer : Except EngineError Nat) : Prop where
  /-- It ends with an answer or an error, and never traps. -/
  ends : attempt (x (Recorder × Journal)) (owned, s) = .ok answer (kept, s')
  /-- These are the attempts that a watch beside the recorder sees. -/
  watched : attempt (x (Watched (Recorder × Journal))) (owned, ⟨s, []⟩) =
    .ok answer (kept, ⟨s', attempts⟩)
  /-- There is one for each entry, from the last to the first. -/
  attempted : attempts.map Attempt.id = part.reverse
  /-- An attempt ends well if and only if the resource was alive and not tried before. -/
  outcome : ∀ past a rest, attempts = past ++ a :: rest →
    a.outcome = if s.1.isLive a.id ∧ a.id ∉ past.map Attempt.id then .ok ()
      else .error (.invalid (.notAlive a.id))
  /-- Nothing of the part is alive, and the rest is as alive as it was. -/
  live : ∀ k, s'.1.isLive k ↔ k ∉ part ∧ s.1.isLive k
  /-- Each live resource of the part is counted as released, once. -/
  destroyed : ∀ kind, s'.1.destroyed.count kind =
    s.1.destroyed.count kind + {k ∈ part.toFinset | s.1.isLive k ∧ k.kind = kind}.card
  /-- The answer is the number of entries, or the error of the first attempt that failed. -/
  answer : answer = match attempts.findSome? Attempt.error? with
    | none => .ok part.length
    | some e => .error e
  /-- Done again, it tries nothing and changes nothing. -/
  again : attempt (x (Recorder × Journal)) (kept, s') = .ok (.ok 0) (kept, s') ∧
    attempt (x (Watched (Recorder × Journal))) (kept, ⟨s', attempts⟩) =
      .ok (.ok 0) (kept, ⟨s', attempts⟩)

/-- What was tracked after a mark is released once. -/
theorem exists_releases_rollbackTo (owned : Arena) (mark : Nat) (s : Recorder × Journal) :
    ∃ s' attempts answer, Releases (fun _ _ ↦ Arena.rollbackTo mark) owned (owned.take mark)
      (owned.drop mark) s s' attempts answer := by
  obtain ⟨answer, s', attempts, hwatched, hends, hids, htries, hanswer⟩ :=
    Arena.exists_releaseEach (owned.drop mark).reverse s
  refine ⟨s', attempts, answer, Arena.attempt_rollbackTo hends, Arena.attempt_rollbackTo hwatched,
    hids, htries.outcome, fun k ↦ ?_, fun kind ↦ ?_, ?_, Arena.attempt_rollbackTo_again s',
    Arena.attempt_rollbackTo_again _⟩
  · rw [htries.live, hids, List.mem_reverse]
  · rw [htries.destroyed, hids, List.toFinset_reverse]
  · rw [hanswer, List.length_reverse]

/-- **An arena releases what was tracked after a mark, or everything, once, whatever fails.** -/
theorem Arena.releases_once (owned : Arena) (s : Recorder × Journal) :
    (∀ mark, ∃ s' attempts answer, Releases (fun _ _ ↦ rollbackTo mark) owned (owned.take mark)
      (owned.drop mark) s s' attempts answer) ∧
    ∃ s' attempts answer, Releases (fun _ _ ↦ releaseAll) owned [] owned s s' attempts answer :=
  ⟨fun mark ↦ exists_releases_rollbackTo owned mark s, exists_releases_rollbackTo owned 0 s⟩

end App

end RenderTargets
