import RenderTargets.Proofs.Device.Command
import RenderTargets.Proofs.Step.Triple
/-!
# Where a device gets

`Reached start between l s` says that a device which started in some way got to `s`, and that `l` is
what it took on the way, with the handles that it answered. Commands that it refuses are not in the
history, though they may change it, and so may what happens `between` commands.

## What becomes of the attachments of a pass

A pass is made of textures, and nothing keeps a texture from being released before the pass. So all
that a device can rely on is that a texture of a pass **stays as it was or was released since the
pass was made**. This is `Attached`. Handles are handed out again at last, those of textures and
those of passes: a pass is looked for where it was made for the last time, and a texture that was
released and is alive was made again. Unless that happens (`NoReuse`), what is found under the
handle of a texture of a pass is that texture (`Attached.stays_of_noReuse`).
-/

namespace RenderTargets

/-- The pass renders into the texture, or uses its depth buffer. -/
def PassDesc.Attaches (d : PassDesc) (x : TextureId) : Prop := x ∈ d.textures ∨ d.depth = some x

namespace GraphicsDevice

open StepWith

variable {σ : Type} [GraphicsDevice σ]

/-- A device got to a state and took a history of commands. -/
inductive Reached (start : σ → Prop) (between : σ → σ → Prop) :
    List (Command × Option ResourceId) → σ → Prop
  /-- The device just started. -/
  | start {s} (h : start s) : Reached start between [] s
  /-- It took a command. -/
  | taken {l s a t} {c : Command} (h : Reached start between l s) (took : c.answer s = .ok a t) :
      Reached start between (l ++ [(c, a)]) t
  /-- It refused a command. -/
  | refused {l s e t} {c : Command} (h : Reached start between l s)
      (refused : c.answer s = .error (.error e) t) : Reached start between l t
  /-- Something was done to it. -/
  | between {l s t} (h : Reached start between l s) (done : between s t) : Reached start between l t

variable {start : σ → Prop} {between : σ → σ → Prop} {s t : σ}
  {l after : List (Command × Option ResourceId)} {c : Command} {a : Option ResourceId}
  {commands : List Command} {q : PassId} {d : PassDesc}
  {stays stays' lives lives' : TextureId → Prop}

/-- What a device gets to from where it got, it gets to. -/
theorem Reached.trans {l' : List (Command × Option ResourceId)} (h : Reached start between l s)
    (h' : Reached (· = s) between l' t) : Reached start between (l ++ l') t := by
  induction h' with
  | start hs => exact (List.append_nil l).symm ▸ hs ▸ h
  | taken _ took ih => exact List.append_assoc l _ _ ▸ ih.taken took
  | refused _ hrefused ih => exact ih.refused hrefused
  | between _ done ih => exact ih.between done

/-- Whatever is in the history of a device, it took somewhere on its way. -/
theorem Reached.exists_taken (h : Reached start between l s) (hc : (c, a) ∈ l) :
    ∃ past t u, Reached start between past t ∧ c.answer t = .ok a u := by
  induction h with
  | start => cases hc
  | @taken l s b t d hs took ih =>
    rcases List.mem_append.1 hc with hc | hc
    · exact ih hc
    · obtain ⟨rfl, rfl⟩ := Prod.mk.inj (List.mem_singleton.1 hc)
      exact ⟨l, s, t, hs, took⟩
  | refused _ _ ih => exact ih hc
  | between _ _ ih => exact ih hc

/-- What a device takes of a list of commands gets it where the list gets it. -/
theorem Reached.accepted (h : Reached start between l s)
    (ht : settleAll (commands.map Command.answer) s = some t) :
    Reached start between (l ++ GraphicsDevice.accepted commands s) t := by
  induction commands generalizing l s with
  | nil =>
    obtain rfl : s = t := Option.some.inj ht
    exact (List.append_nil l).symm ▸ h
  | cons c rest ih =>
    obtain ⟨u, hu, ht⟩ := Option.bind_eq_some_iff.1 ht
    rw [GraphicsDevice.accepted]
    rw [settle] at hu
    rcases hc : c.answer s with ⟨a, v⟩ | ⟨e | _, v⟩ <;> rw [hc] at hu <;> cases hu
    · rw [List.append_cons]
      exact ih (h.taken hc) ht
    · exact ih (h.refused hc) ht

/-- A device that was given some commands, and is then as `check` wants. -/
theorem exists_accepted (start : σ → Prop) (between : σ → σ → Prop) (h : start s)
    {check : σ → Bool} (ht : (settleAll (commands.map Command.answer) s).any check) :
    ∃ t, Reached start between (accepted commands s) t ∧ check t := by
  obtain ⟨t, hrun, hcheck⟩ := (Option.any_eq_true _ _).1 ht
  exact ⟨t, (Reached.start h).accepted hrun, hcheck⟩

/-- The answer of a command that makes a pass is its handle. -/
theorem answer_createPass (h : createPass d s = .ok q t) :
    (Command.createPass d).answer s = .ok (some (.pass q)) t := by
  simp only [Command.answer, Functor.map, EStateM.map, h]
  rfl

/-- The command that begins a pass answers no handle. -/
theorem answer_beginPass {pass : Option PassId} {action : PassAction}
    (h : beginPass pass action s = .ok () t) :
    (Command.beginPass pass action).answer s = .ok none t := by
  simp only [Command.answer, Command.perform, Functor.map, EStateM.map, h]

/-! ### The last making of a pass -/

/-- The pass was made of the description, for the last time, and `after` is what was taken since. -/
def MadeLast (l : List (Command × Option ResourceId)) (q : PassId) (d : PassDesc)
    (after : List (Command × Option ResourceId)) : Prop :=
  ∃ before, l = before ++ (.createPass d, some (.pass q)) :: after ∧
    ∀ d', (.createPass d', some (.pass q)) ∉ after

theorem MadeLast.append (h : MadeLast l q d after) (ha : a ≠ some (.pass q)) :
    MadeLast (l ++ [(c, a)]) q d (after ++ [(c, a)]) := by
  obtain ⟨before, rfl, hlast⟩ := h
  refine ⟨before, by simp, fun d' hmem ↦ ?_⟩
  rcases List.mem_append.1 hmem with hmem | hmem
  · exact hlast d' hmem
  · exact ha (congrArg Prod.snd (List.mem_singleton.1 hmem)).symm

/-- The texture was released. If it is alive, its handle was handed out again. -/
def Released (after : List (Command × Option ResourceId)) (x : TextureId) (lives : Prop) : Prop :=
  (.destroy (.texture x), none) ∈ after ∧
    (lives → ∃ t, (.createTexture t, some (.texture x)) ∈ after)

/-- The pass was made of the description, and each of its textures stays as it was or was released
since. -/
def Attached (l : List (Command × Option ResourceId)) (q : PassId) (d : PassDesc)
    (stays lives : TextureId → Prop) : Prop :=
  ∃ after, MadeLast l q d after ∧ ∀ x, d.Attaches x → stays x ∨ Released after x (lives x)

namespace Attached

theorem made (h : ∀ x, d.Attaches x → stays x) :
    Attached (l ++ [(.createPass d, some (.pass q))]) q d stays lives :=
  ⟨[], ⟨l, rfl, fun _ ↦ List.not_mem_nil⟩, fun x hx ↦ .inl (h x hx)⟩

theorem mono (h : Attached l q d stays lives) (hs : ∀ x, stays x → stays' x)
    (hl : ∀ x, lives' x → lives x) : Attached l q d stays' lives' := by
  obtain ⟨after, hmade, hafter⟩ := h
  exact ⟨after, hmade, fun x hx ↦
    (hafter x hx).imp (hs x) fun ⟨hgone, hback⟩ ↦ ⟨hgone, hback ∘ hl x⟩⟩

/-- If no texture was released, all of them stay. -/
theorem stays_of_notMem (h : Attached l q d stays lives)
    (hl : ∀ x, .destroy (.texture x) ∉ l.map Prod.fst) : ∀ x, d.Attaches x → stays x := by
  obtain ⟨after, ⟨before, rfl, -⟩, hafter⟩ := h
  refine fun x hx ↦ (hafter x hx).resolve_right fun ⟨hgone, _⟩ ↦ hl x ?_
  have hmem : (.destroy (.texture x), none) ∈ before ++ (.createPass d, some (.pass q)) :: after :=
    List.mem_append_right _ (List.mem_cons_of_mem _ hgone)
  exact List.mem_map_of_mem hmem

/-- A command leaves the textures as they are, but for the one that it releases or makes. -/
theorem append (h : Attached l q d stays lives) (ha : a ≠ some (.pass q))
    (hs : ∀ x, stays x → stays' x ∨ c = .destroy (.texture x) ∧ a = none ∧ ¬lives' x)
    (hl : ∀ x, lives' x → lives x ∨ ∃ t, c = .createTexture t ∧ a = some (.texture x)) :
    Attached (l ++ [(c, a)]) q d stays' lives' := by
  obtain ⟨after, hmade, hafter⟩ := h
  refine ⟨after ++ [(c, a)], hmade.append ha, fun x hx ↦ ?_⟩
  rcases hafter x hx with hx | ⟨hgone, hback⟩
  · refine (hs x hx).imp_right ?_
    rintro ⟨rfl, rfl, hdead⟩
    exact ⟨List.mem_append_right _ (List.mem_singleton_self _), fun hlive ↦ (hdead hlive).elim⟩
  · refine .inr ⟨List.mem_append_left _ hgone, fun hlive ↦ ?_⟩
    rcases hl x hlive with hlive | ⟨t, rfl, rfl⟩
    · obtain ⟨t, ht⟩ := hback hlive
      exact ⟨t, List.mem_append_left _ ht⟩
    · exact ⟨t, List.mem_append_right _ (List.mem_singleton_self _)⟩

end Attached

/-! ### Handles that come back -/

/-- The second command answers the handle of a texture that the first one made a pass of. -/
def reuses : Command × Option ResourceId → Command × Option ResourceId → Bool
  | (.createPass d, _), (_, some (.texture x)) => d.textures.contains x
  | _, _ => false

/-- No handle of a texture is handed out again after a pass was made of it. -/
def NoReuse (l : List (Command × Option ResourceId)) : Prop :=
  l.Pairwise fun first second ↦ reuses first second = false

instance : Decidable (NoReuse l) := inferInstanceAs (Decidable (List.Pairwise _ _))

theorem NoReuse.of_append (h : NoReuse (l ++ after)) : NoReuse l := (List.pairwise_append.1 h).1

/-- A texture of the pass that is alive is the one that it was made of. -/
theorem Attached.stays_of_noReuse {x : TextureId} (h : Attached l q d stays lives) (hl : NoReuse l)
    (hx : x ∈ d.textures) (hlive : lives x) : stays x := by
  obtain ⟨after, ⟨before, rfl, -⟩, hafter⟩ := h
  refine (hafter x (.inl hx)).resolve_right fun hreleased ↦ ?_
  obtain ⟨t, ht⟩ := hreleased.2 hlive
  have hfresh := (List.pairwise_cons.1 (List.pairwise_append.1 hl).2.1).1 _ ht
  exact Bool.false_ne_true (hfresh.symm.trans (List.contains_iff_mem.2 hx))

end GraphicsDevice

end RenderTargets
