import Mathlib.Data.List.Induction
import RenderTargets.Proofs.Recorder.Moments
import RenderTargets.Proofs.Recorder.Stream
/-!
# What draw states sample

The recorder looks at a draw state once, against what is alive and what is open **now**. That a
texture of several samples may be sampled it takes from a set which it only ever adds to, when a
pass ends. So what such a texture went through is a statement about the history: a pass that
resolves began with the texture among its attachments, and ended, before the pass that samples it
began (`Session.run_drawState`).

## What carries the history

* The set holds only attachments of passes that have ended, never those of the open one: `Phase`
  splits the history where the open pass begins, and `Sampled.phase` speaks about the part before.
* A handle of the set means what it meant then, by `Accepts.settled`. This is where releases are
  counted. Failed commands do not count.
-/

namespace RenderTargets.Recorder

open Log StepWith

/-- Recorded commands, each with the recorder before it, the oldest first. -/
abbrev History := List (Recorder × Command)

variable {history earlier before after : History} {r r' r₀ r₁ : Recorder} {c : Command}
  {pass : Option PassId} {q : PassId} {d : PassDesc} {id : TextureId} {sig : Signature}
  {attachments : List TextureId}

/-! ### Passes of a history -/

/-- The history goes on after `earlier` with the begin of a pass at `r₀`, and the pass is open. -/
def Opens (earlier : History) (r₀ : Recorder) (pass : Option PassId) (history : History) : Prop :=
  ∃ colors inside, history = earlier ++ (r₀, .beginPass pass colors) :: inside ∧
    ∀ e ∈ inside, e.2.IsInside

theorem Opens.push (h : Opens earlier r₀ pass history) (hc : c.IsInside) :
    Opens earlier r₀ pass (history ++ [(r, c)]) := by
  obtain ⟨colors, inside, rfl, hinside⟩ := h
  refine ⟨colors, inside ++ [(r, c)], by simp, fun e he ↦ ?_⟩
  rcases List.mem_append.1 he with he | he
  · exact hinside e he
  · exact List.mem_singleton.1 he ▸ hc

theorem Opens.mem (h : Opens earlier r₀ pass history) : ∃ c, (r₀, c) ∈ history := by
  obtain ⟨colors, inside, rfl, -⟩ := h
  exact ⟨_, List.mem_append_right _ (List.mem_cons_self ..)⟩

/-- A pass that begins at the recorder offers pipelines a signature and renders into textures. -/
inductive Offers (r : Recorder) : Option PassId → Signature → List TextureId → Prop
  /-- The screen is one attachment that is no texture. -/
  | screen : Offers r none ⟨1, r.display.colorFormat, r.display.depthFormat, r.display.samples⟩ []
  /-- The format is that of the first attachment, the size and samples are those of all. -/
  | offscreen {q d x first n} (alive : r.passes.get? q = some d)
      (head : d.textures.head? = some x) (found : r.textures.get? x = some first)
      (count : n.toNat = d.colors.length)
      (alike : ∀ id ∈ d.textures, ∀ t, r.textures.get? id = some t → t.Alike first) :
      Offers r (some q) ⟨n, first.format,
        d.depth.bind fun x ↦ (r.textures.get? x).bind (·.depth), first.samples⟩ d.textures

theorem Offers.alive (h : r.Offers (some q) sig attachments) :
    ∃ d, r.passes.get? q = some d ∧ attachments = d.textures := by
  cases h with
  | offscreen alive => exact ⟨_, alive, rfl⟩

/-- A pass begins with what it offers. -/
theorem Settled.offers (hs : r.Settled) {action : PassAction} {a : ActivePass}
    {colors : List Vec4} (h : r.begins pass action = .ok (a, colors)) :
    a.pass = pass ∧ r.Offers pass a.signature a.attachments := by
  cases pass with
  | none =>
    cases h
    exact ⟨rfl, .screen⟩
  | some q =>
    obtain ⟨d, head, rest, first, hd, htextures, hfirst, hp⟩ := beginOffscreen_eq_ok_iff.1 h
    cases hp
    have hfitted := hs.fitted q d hd
    have hhead : head ∈ d.textures := htextures ▸ List.mem_cons_self ..
    have hlength : d.textures.length = d.colors.length := List.length_map ..
    refine ⟨rfl, .offscreen hd (by rw [htextures, List.head?_cons]) hfirst ?_
      fun id hid t ht ↦ hfitted.alike id hid head hhead t first ht hfirst⟩
    rw [hlength, UInt32.toNat_ofNat']
    exact Nat.mod_eq_of_lt hfitted.length_lt

/-- A pass that resolves and has the description `d` began at `r₀` and has ended. -/
structure Resolved (history : History) (r₀ : Recorder) (q : PassId) (d : PassDesc) : Prop where
  /-- It resolves. -/
  store : d.store = .resolve
  /-- It was alive. -/
  alive : r₀.passes.get? q = some d
  /-- It began and ended. -/
  ended : ∃ before during r₁ after, Opens before r₀ (some q) during ∧
    history = during ++ (r₁, .endPass) :: after

theorem Resolved.append (h : Resolved history r₀ q d) (new : History) :
    Resolved (history ++ new) r₀ q d := by
  obtain ⟨hstore, halive, before, during, r₁, after, hopens, rfl⟩ := h
  exact ⟨hstore, halive, before, during, r₁, after ++ new, hopens, by simp⟩

theorem Resolved.mem (h : Resolved history r₀ q d) : ∃ c, (r₀, c) ∈ history := by
  obtain ⟨-, -, before, during, r₁, after, hopens, rfl⟩ := h
  obtain ⟨c, hc⟩ := hopens.mem
  exact ⟨c, List.mem_append_left _ hc⟩

/-! ### Where the open pass begins -/

/-- The part of the history that is before the open pass, or all of it. -/
inductive Phase (history : History) : Option ActivePass → History → Prop
  /-- No pass is open. -/
  | outside : Phase history none history
  /-- A pass is open, and it is the one that is recorded. -/
  | inside {earlier r₀ a} (opens : Opens earlier r₀ a.pass history)
      (offers : r₀.Offers a.pass a.signature a.attachments) : Phase history (some a) earlier

theorem Phase.exists_append {active : Option ActivePass} (h : Phase history active earlier) :
    ∃ rest, history = earlier ++ rest := by
  cases h with
  | outside => exact ⟨[], by simp⟩
  | inside opens =>
    obtain ⟨colors, inside, rfl, -⟩ := opens
    exact ⟨_, rfl⟩

/-- The textures are attachments of passes that resolved. -/
def AllResolved (earlier : History) (ids : List TextureId) : Prop :=
  ∀ id ∈ ids, ∃ r₀ q d, Resolved earlier r₀ q d ∧ id ∈ d.textures

theorem AllResolved.append {ids : List TextureId} (h : AllResolved earlier ids) (new : History) :
    AllResolved (earlier ++ new) ids := fun id hid ↦ by
  obtain ⟨r₀, q, d, hr, hd⟩ := h id hid
  exact ⟨r₀, q, d, hr.append new, hd⟩

/-- A draw state was right at the recorder `r` after the commands before it. -/
structure Binds (before : History) (r : Recorder) (state : DrawState) (pass : Option PassId)
    (p : PipelineDesc) (attachments : List TextureId) (earlier : History) (r₀ : Recorder) :
    Prop where
  /-- The pipeline was alive. -/
  pipeline : r.pipelines.get? state.pipeline = some p
  /-- The mesh was alive. -/
  mesh : r.meshes.contains state.mesh
  /-- A pass was open. -/
  opens : Opens earlier r₀ pass before
  /-- It offered the signature of the pipeline. -/
  offers : r₀.Offers pass p.signature attachments
  /-- Its attachments are not sampled. -/
  apart : ∀ id ∈ state.textures, id ∉ attachments
  /-- Each texture was alive, and if it has several samples a pass had resolved it. -/
  sampled : ∀ id ∈ state.textures, ∃ t, r.textures.get? id = some t ∧
    (t.samples > 1 → ∃ r₁ q d, Resolved earlier r₁ q d ∧ id ∈ d.textures ∧
      r₁.textures.get? id = some t)

/-- What a history and the recorder at its end keep to. -/
structure Sampled (history : History) (r : Recorder) : Prop where
  /-- The recorder is settled. -/
  settled : r.Settled
  /-- So it was at every moment, and this one is later. -/
  past : ∀ e ∈ history, e.1.Settled ∧ e.1.Precedes r
  /-- Textures count as resolved by passes before the open one. -/
  phase : ∃ earlier, Phase history r.active earlier ∧ AllResolved earlier r.resolved
  /-- Every draw state was right. -/
  drawn : ∀ before r₁ state after, history = before ++ (r₁, .drawState state) :: after →
    ∃ pass p attachments earlier r₀, Binds before r₁ state pass p attachments earlier r₀

namespace Sampled

theorem init (hs : r.Settled) (hidle : r.active = none) (hresolved : r.resolved = []) :
    Sampled [] r where
  settled := hs
  past := by simp
  phase := ⟨[], hidle ▸ .outside, hresolved ▸ by simp [AllResolved]⟩
  drawn := by simp

/-- Commands that are taken away are not looked at. -/
theorem takeCommands (h : Sampled history r) : Sampled history r.takeCommands.2 where
  settled := h.settled.congr rfl rfl rfl
  past e he := ⟨(h.past e he).1, (h.past e he).2.trans (.of_eq rfl rfl)⟩
  phase := h.phase
  drawn := h.drawn

/-- A texture that the recorder samples was resolved before the open pass. -/
theorem samples (h : Sampled history r) (hsamples : r.Samples id) {earlier : History}
    {active : Option ActivePass} (hphase : Phase history active earlier)
    (hresolved : AllResolved earlier r.resolved) :
    ∃ t, r.textures.get? id = some t ∧ (t.samples > 1 → ∃ r₁ q d, Resolved earlier r₁ q d ∧
      id ∈ d.textures ∧ r₁.textures.get? id = some t) := by
  obtain ⟨t, ht, hmulti⟩ := hsamples
  refine ⟨t, ht, fun hlt ↦ ?_⟩
  obtain ⟨r₁, q, d, hr, hd⟩ := hresolved id (hmulti hlt)
  obtain ⟨c, hc⟩ := hr.mem
  obtain ⟨rest, rfl⟩ := hphase.exists_append
  -- the handle found something when the pass began, and finds the same thing since then
  obtain ⟨hsettled, hprecedes⟩ := h.past _ (List.mem_append_left rest hc)
  have hknows : r₁.textures.Knows id := (hsettled.fitted q d hr.alive).knows id hd
  exact ⟨r₁, q, d, hr, hd, hprecedes.textures.found hknows ht⟩

/-- At most one command is recorded at a time, and it is right if it is a draw state. -/
theorem next (h : Sampled history r) (hs : r'.Settled) (hm : r.Precedes r') {new : List Command}
    (hone : new = [] ∨ ∃ c, new = [c])
    (hphase : ∃ earlier, Phase (history ++ new.map (r, ·)) r'.active earlier ∧
      AllResolved earlier r'.resolved)
    (hdrawn : ∀ state, .drawState state ∈ new →
      ∃ pass p attachments earlier r₀, Binds history r state pass p attachments earlier r₀) :
    Sampled (history ++ new.map (r, ·)) r' where
  settled := hs
  past e he := by
    rcases List.mem_append.1 he with he | he
    · exact ⟨(h.past e he).1, (h.past e he).2.trans hm⟩
    · obtain ⟨c, -, rfl⟩ := List.mem_map.1 he
      exact ⟨h.settled, hm⟩
  phase := hphase
  drawn before r₁ state after heq := by
    rcases hone with rfl | ⟨c, rfl⟩
    · exact h.drawn before r₁ state after (by simpa using heq)
    rcases List.eq_nil_or_concat after with rfl | ⟨after', e, rfl⟩
    · obtain ⟨rfl, hlast⟩ := List.append_inj' heq rfl
      cases hlast
      exact hdrawn state (List.mem_singleton_self _)
    · have heq' : history ++ [(r, c)] = (before ++ (r₁, .drawState state) :: after') ++ [e] := by
        simpa using heq
      exact h.drawn before r₁ state after' (List.append_inj' heq' rfl).1

/-- A pass ends, and what it renders into is resolved. -/
theorem ends (h : Sampled history r) {a : ActivePass} (hinside : r.active = some a) :
    AllResolved (history ++ [(r, .endPass)])
      (if r.resolvesAtEnd a then r.resolved ++ a.attachments else r.resolved) := by
  obtain ⟨earlier, hphase, hresolved⟩ := h.phase
  obtain ⟨rest, hrest⟩ := hphase.exists_append
  have hbefore : AllResolved (history ++ [(r, .endPass)]) r.resolved := by
    rw [hrest, List.append_assoc]
    exact hresolved.append _
  rw [hinside] at hphase
  cases hphase with
  | @inside _ r₀ _ opens offers =>
    split
    case isFalse => exact hbefore
    case isTrue hresolves =>
      intro id hid
      rcases List.mem_append.1 hid with hid | hid
      · exact hbefore id hid
      rcases hpass : a.pass with _ | q <;> rw [resolvesAtEnd, hpass] at hresolves
      · cases hresolves
      obtain ⟨d, hd, hstore⟩ := (Option.any_eq_true _ _).1 hresolves
      rw [hpass] at opens offers
      obtain ⟨d', hd', hattachments⟩ := offers.alive
      obtain ⟨c, hc⟩ := opens.mem
      -- the pass that ends has the description with which it began
      have hfound := (h.past _ hc).2.passes.found (Slot.Map.knows_of_get? hd') hd
      obtain rfl := Option.some.inj (hd'.symm.trans hfound)
      exact ⟨r₀, q, d', ⟨by simpa using hstore, hd', earlier, history, r, [], opens, rfl⟩,
        hattachments ▸ hid⟩

/-- Every command that the recorder takes keeps the history right. -/
theorem accepts (h : Sampled history r) {c : GraphicsDevice.Command} {answer : Option ResourceId}
    (hr : r.Accepts c answer r') (hlt : 2 * r'.destroyed.total < UInt32.size) :
    Sampled (history ++ (r.added r').map (r, ·)) r' := by
  obtain ⟨hs, hm⟩ := hr.settled h.settled hlt
  obtain ⟨earlier, hphase, hresolved⟩ := h.phase
  have hadded {new : List Command} (hnew : r'.commands = r.commands ++ new) : r.added r' = new := by
    rw [added, hnew, List.drop_left]
  cases hr with
  | createTexture | createMesh | createShader | createPipeline | createPass | requestQuit =>
    rw [hadded (List.append_nil _).symm]
    exact h.next hs hm (.inl rfl) ⟨earlier, by simpa using hphase, hresolved⟩ (by simp)
  | destroy hr =>
    rw [remove?_frame hr] at hadded hs hm ⊢
    rw [hadded (List.append_nil _).symm]
    exact h.next hs hm (.inl rfl) ⟨earlier, by simpa using hphase, hresolved⟩ (by simp)
  | @beginPass pass action a colors hidle hbegins =>
    obtain ⟨rfl, hoffers⟩ := h.settled.offers hbegins
    rw [hidle] at hphase
    cases hphase
    have hopens : Opens history r a.pass (history ++ [(r, .beginPass a.pass colors)]) :=
      ⟨colors, [], rfl, by simp⟩
    rw [hadded rfl]
    exact h.next hs hm (.inr ⟨_, rfl⟩) ⟨history, .inside hopens hoffers, hresolved⟩ (by simp)
  | @applyDrawState state a p hinside hp hmesh hsampled hapart hfits =>
    rw [hinside] at hphase
    have hphase' := hphase
    cases hphase with
    | inside opens offers =>
      rw [hadded rfl]
      refine h.next hs hm (.inr ⟨_, rfl⟩)
        ⟨earlier, .inside (opens.push trivial) offers, hresolved⟩ fun state' hstate ↦ ?_
      cases List.mem_singleton.1 hstate
      exact ⟨_, p, _, earlier, _, hp, hmesh, opens, hfits ▸ offers, hapart,
        fun id hid ↦ h.samples (hsampled id hid) hphase' hresolved⟩
  | applyViewport hinside | applyUniforms hinside | draw hinside | fillRects hinside =>
    rw [hinside] at hphase
    cases hphase with
    | inside opens offers =>
      rw [hadded rfl]
      refine h.next hs hm (.inr ⟨_, rfl⟩) ⟨earlier, ?_, hresolved⟩ (by simp)
      exact hinside ▸ .inside (opens.push trivial) offers
  | endPass hinside =>
    rw [hadded rfl]
    exact h.next hs hm (.inr ⟨_, rfl⟩) ⟨_, .outside, h.ends hinside⟩ (by simp)
  | commitFrame hidle =>
    rw [hidle] at hphase
    cases hphase
    rw [hadded rfl]
    have hall := hresolved.append [(r, .commitFrame)]
    refine h.next hs hm (.inr ⟨_, rfl⟩) ⟨_, ?_, hall⟩ (by simp)
    rw [hidle]
    exact .outside

end Sampled

/-! ### Sessions -/

namespace Session

variable {s t : Session} {u : Use} {uses us : List Use}

/-- What a use makes of a session. -/
inductive Follows (s : Session) : Use → Session → Prop
  /-- The recorder took the command. -/
  | accepted {c : GraphicsDevice.Command} {answer} {r' : Recorder}
      (accepts : s.recorder.Accepts c answer r') :
      Follows s (.command c) (device.set (r', s.journal) s)
  /-- The recorder did not. -/
  | refused {c : GraphicsDevice.Command} (j : Journal) :
      Follows s (.command c) { s with journal := j }
  /-- The commands were taken away. -/
  | taken : Follows s .take
      { s with
        taken := s.taken ++ s.recorder.takeCommands.1, recorder := s.recorder.takeCommands.2 }

theorem follows_of_settle (h : u.perform.settle s = some t) : Follows s u t := by
  cases u with
  | command c =>
    rw [settle, Use.perform] at h
    rcases hx : c.answer (device.get s) with ⟨a, w⟩ | ⟨e | _, w⟩
    · obtain ⟨r', hr, rfl⟩ := answer_ok_iff.1 hx
      rw [within_ok hx] at h
      exact Option.some.inj h ▸ .accepted hr
    · obtain ⟨r', j⟩ := w
      obtain rfl : r' = s.recorder := answer_error hx
      rw [within_error hx] at h
      have hsame : device.set (s.recorder, j) s = { s with journal := j } := by
        simp [device, added]
      exact Option.some.inj h ▸ hsame ▸ .refused j
    · rw [within_error hx] at h
      cases h
  | take => exact Option.some.inj h ▸ .taken

/-- What holds of the unused session and is kept by every use that the run goes on with. -/
theorem run_induction {P : List Use → Session → Prop} {init : Session} (hinit : P [] init)
    (hstep : ∀ us u s t, run us init = some s → P us s → Follows s u t → P (us ++ [u]) t)
    (h : run uses init = some s) : P uses s := by
  induction uses using List.reverseRecOn generalizing s with
  | nil => exact Option.some.inj h ▸ hinit
  | append_singleton us u ih =>
    rw [run, List.map_append, settleAll_append] at h
    obtain ⟨w, hw, hu⟩ := Option.bind_eq_some_iff.1 h
    obtain ⟨t, ht, hs⟩ := Option.bind_eq_some_iff.1 hu
    obtain rfl : t = s := Option.some.inj hs
    exact hstep us u w t hw (ih hw) (follows_of_settle ht)

/-- Pass `q` was made of the description `d` in the course of the run. -/
def Made (init : Session) (uses : List Use) (q : PassId) (d : PassDesc) : Prop :=
  ∃ us s t, us ++ [.command (.createPass d)] <+: uses ∧ run us init = some s ∧
    (Use.command (.createPass d)).perform s = .ok (some (.pass q)) t

theorem Made.append {init : Session} (h : Made init us q d) (u : Use) :
    Made init (us ++ [u]) q d := by
  obtain ⟨us', s, t, hprefix, hrun, hmade⟩ := h
  exact ⟨us', s, t, hprefix.trans (List.prefix_append _ _), hrun, hmade⟩

/-- Every pass that ever was there was made in the course of the run. -/
theorem made_of_run {init : Session} (hpasses : ∀ q, init.recorder.passes.get? q = none)
    (hhistory : init.history = []) (h : run uses init = some s) :
    (∀ q d, s.recorder.passes.get? q = some d → Made init uses q d) ∧
      ∀ e ∈ s.history, ∀ q d, e.1.passes.get? q = some d → Made init uses q d := by
  refine run_induction (P := fun uses s ↦
    (∀ q d, s.recorder.passes.get? q = some d → Made init uses q d) ∧
      ∀ e ∈ s.history, ∀ q d, e.1.passes.get? q = some d → Made init uses q d)
    ⟨fun q d hd ↦ ?_, by simp [hhistory]⟩ (fun us u s t hrun ⟨hnow, hpast⟩ hu ↦ ?_) h
  · cases (hpasses q).symm.trans hd
  cases hu with
  | @accepted c answer r' hr =>
    refine ⟨fun q d hd ↦ ?_, fun e he q d hd ↦ ?_⟩
    · rcases hr.passes_cases hd with hd | ⟨rfl, rfl⟩
      · exact (hnow q d hd).append _
      · exact ⟨us, s, _, List.prefix_refl _, hrun, within_ok (answer_ok_iff.2 ⟨r', hr, rfl⟩)⟩
    · rcases List.mem_append.1 he with he | he
      · exact (hpast e he q d hd).append _
      · obtain ⟨c', -, rfl⟩ := List.mem_map.1 he
        exact (hnow q d hd).append _
  | refused | taken =>
    exact ⟨fun q d hd ↦ (hnow q d hd).append _, fun e he q d hd ↦ (hpast e he q d hd).append _⟩

/-- Histories of sessions that have released few resources are right. -/
theorem sampled_of_run {init : Session} (hinit : Sampled init.history init.recorder)
    (h : run uses init = some s) (hlt : 2 * s.recorder.destroyed.total < UInt32.size) :
    Sampled s.history s.recorder := by
  refine run_induction (P := fun _ s ↦ 2 * s.recorder.destroyed.total < UInt32.size →
    Sampled s.history s.recorder) (fun _ ↦ hinit) (fun us u s t _ hs hu ↦ ?_) h hlt
  cases hu with
  | accepted hr =>
    intro hlt
    have hle := hr.destroyed_le
    exact (hs (Nat.lt_of_le_of_lt (Nat.mul_le_mul_left 2 hle) hlt)).accepts hr hlt
  | refused => exact hs
  | taken => exact fun hlt ↦ (hs hlt).takeCommands

/-- The history of a run is that of its commands. -/
theorem map_history_of_run {init : Session} (hinit : init.Sound) (h : run uses init = some s) :
    s.history.map Prod.snd = s.log := by
  have hs : s.Sound := Keeps.settleAll (fun x hx ↦ by
    obtain ⟨u, -, rfl⟩ := List.mem_map.1 hx
    exact keeps_perform u) hinit h
  exact hs.history

/-- **What draw states use.** The history of a run holds all its commands. If the run has released
fewer than `2 ^ 31` resources, take any draw state of the history, with the recorder `r` at its
moment. Its pipeline, its mesh and its textures were alive. A pass was open, begun at `r₀`, that
offered what the pipeline expects and does not render into the textures. And each texture of several
samples was an attachment of a pass that was made to resolve, began at some `r₁` with the same
texture there, and ended before the open pass began. -/
theorem run_drawState (features : Features) (maxColors : UInt32) (display : Display)
    (failAt : Option (ResourceKind × Nat)) (quitAfter : Option Nat) (journal : Journal)
    (uses : List Use)
    (h : run uses (new features maxColors display failAt quitAfter journal) = some s)
    (hlt : 2 * s.recorder.destroyed.total < UInt32.size) :
    s.history.map Prod.snd = s.log ∧
      ∀ before r state after, s.history = before ++ (r, .drawState state) :: after →
        ∃ p pass r₀ attachments earlier, r.pipelines.get? state.pipeline = some p ∧
          r.meshes.contains state.mesh ∧ (∀ id ∈ state.textures, r.textures.contains id) ∧
          Opens earlier r₀ pass before ∧ r₀.Offers pass p.signature attachments ∧
          (∀ id ∈ state.textures, id ∉ attachments) ∧
          ∀ id ∈ state.textures, ∀ t, r.textures.get? id = some t → t.samples > 1 →
            ∃ r₁ q d, Resolved earlier r₁ q d ∧ id ∈ d.textures ∧
              r₁.textures.get? id = some t ∧
              Made (new features maxColors display failAt quitAfter journal) uses q d := by
  have hfresh := settled_fresh features maxColors display failAt quitAfter
  have hsampled := sampled_of_run (.init hfresh rfl rfl) h hlt
  obtain ⟨-, hmade⟩ := made_of_run (fun _ ↦ Slot.Map.get?_empty) rfl h
  refine ⟨map_history_of_run (sound_new ..) h, fun before r state after hdraw ↦ ?_⟩
  obtain ⟨pass, p, attachments, earlier, r₀, hb⟩ := hsampled.drawn before r state after hdraw
  refine ⟨p, pass, r₀, attachments, earlier, hb.pipeline, hb.mesh, fun id hid ↦ ?_, hb.opens,
    hb.offers, hb.apart, fun id hid t ht hmulti ↦ ?_⟩
  · obtain ⟨t, ht, -⟩ := hb.sampled id hid
    exact Option.isSome_of_eq_some ht
  · obtain ⟨_, ht', hresolved⟩ := hb.sampled id hid
    obtain rfl := Option.some.inj (ht.symm.trans ht')
    obtain ⟨r₁, q, d, hr, hd, hfound⟩ := hresolved hmulti
    obtain ⟨colors, inside, rfl, -⟩ := hb.opens
    obtain ⟨c, hc⟩ := hr.mem
    have hmem : (r₁, c) ∈ s.history := by
      rw [hdraw]
      exact List.mem_append_left _ (List.mem_append_left _ hc)
    exact ⟨r₁, q, d, hr, hd, hfound, hmade _ hmem q d hr.alive⟩

/-- A texture of four samples is rendered into by a pass that resolves, and then sampled on the
screen, after its pass was released. -/
def resolvedFrame : List Use :=
  [.command (.createTexture { TextureDesc.renderTarget 4 4 with samples := 4 }),
   .command (.createPass { PassDesc.ofTargets [⟨1, 1⟩] none with store := .resolve }),
   .command (.createMesh (.fullScreenQuad true)),
   .command (.createShader (.ofCode "plain" [3, 2, 35, 7] [3, 2, 35, 7])),
   .command (.createPipeline
     { PipelineDesc.ofLayoutAndShader (MeshDesc.fullScreenQuad true).layout ⟨1, 1⟩ with
       signature := ⟨1, .bgra8Srgb, none, 1⟩ }),
   .command (.beginPass (some ⟨1, 1⟩) {}), .command .endPass,
   .command (.destroy (.pass ⟨1, 1⟩)), .command (.beginPass none {}),
   .command (.applyDrawState ⟨⟨1, 1⟩, ⟨1, 1⟩, [⟨1, 1⟩]⟩)]

/-- The pass that resolved it. -/
theorem run_drawState_resolvedFrame :
    ∃ s before r, run resolvedFrame (new .every 4 ⟨640, 480, .bgra8Srgb, none, 1⟩ none none {}) =
        some s ∧
      s.history = before ++ [(r, .drawState ⟨⟨1, 1⟩, ⟨1, 1⟩, [⟨1, 1⟩]⟩)] ∧
      ∃ earlier r₁ q d, Resolved earlier r₁ q d ∧ ⟨1, 1⟩ ∈ d.textures ∧
        r.passes.get? ⟨1, 1⟩ = none := by
  have hend : (run resolvedFrame
      (new .every 4 ⟨640, 480, .bgra8Srgb, none, 1⟩ none none {})).any fun s ↦
        2 * s.recorder.destroyed.total < UInt32.size && s.history.getLast?.any fun e ↦
          e.2 == .drawState ⟨⟨1, 1⟩, ⟨1, 1⟩, [⟨1, 1⟩]⟩ &&
          ((e.1.textures.get? ⟨1, 1⟩).any (·.samples > 1) && !e.1.passes.contains ⟨1, 1⟩) := by
    decide +kernel
  obtain ⟨s, hrun, hs⟩ := (Option.any_eq_true _ _).1 hend
  obtain ⟨hlt, hlast⟩ := Bool.and_eq_true_iff.1 hs
  obtain ⟨⟨r, c⟩, hr, he⟩ := (Option.any_eq_true _ _).1 hlast
  obtain ⟨hc, he⟩ := Bool.and_eq_true_iff.1 he
  obtain ⟨ht, hq⟩ := Bool.and_eq_true_iff.1 he
  obtain ⟨t, ht, hmulti⟩ := (Option.any_eq_true _ _).1 ht
  obtain ⟨before, hbefore⟩ := List.getLast?_eq_some_iff.1 hr
  obtain rfl : c = _ := eq_of_beq hc
  obtain ⟨_, _, _, _, earlier, -, -, -, -, -, -, hresolved⟩ :=
    (run_drawState _ _ _ _ _ _ _ hrun (of_decide_eq_true hlt)).2 _ _ _ _ hbefore
  obtain ⟨r₁, q, d, hd, hmem, -⟩ :=
    hresolved ⟨1, 1⟩ (List.mem_singleton_self _) t ht (of_decide_eq_true hmulti)
  refine ⟨s, before, r, hrun, hbefore, earlier, r₁, q, d, hd, hmem, ?_⟩
  simpa [Slot.Map.contains] using hq

end Session

end RenderTargets.Recorder
