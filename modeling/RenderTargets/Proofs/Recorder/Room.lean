import RenderTargets.Proofs.Recorder.Accepts
import RenderTargets.Proofs.Step.Trap
/-!
# Room for more resources

A recorder traps for two reasons only: a store has used up its slots, or the counts and ranges of a
mesh leave their words. `Recorder.HasRoom n` says that every store can take `n` more values, and
with room for one no command that makes a resource traps but for the check of a mesh. Room is used
up one by one: what a command makes takes one slot of one store at most.
-/

namespace RenderTargets.Slot.Map

variable {κ α : Type} {tag : κ} {m n : Map tag α} {h : Handle tag} {a : α}

/-- A store with a slot to spare takes a value. -/
theorem insert?_ne_none (hm : m.cells.length < capacity) : m.insert? a ≠ none := by
  rw [insert?]
  split
  · rw [dif_pos hm]
    exact Option.some_ne_none _
  · exact Option.some_ne_none _

/-- A value takes one new slot at most. -/
theorem length_insert? (hi : m.insert? a = some (h, n)) :
    n.cells.length ≤ m.cells.length + 1 := by
  rw [insert?] at hi
  split at hi
  · split at hi
    · cases hi
      simp
    · cases hi
  · cases hi
    simp

end RenderTargets.Slot.Map

namespace RenderTargets.Recorder

open Log StepWith

/-- Every store has slots for `n` more values. -/
structure HasRoom (n : Nat) (r : Recorder) : Prop where
  /-- For textures. -/
  textures : r.textures.cells.length + n ≤ Slot.capacity
  /-- For meshes. -/
  meshes : r.meshes.cells.length + n ≤ Slot.capacity
  /-- For shaders. -/
  shaders : r.shaders.cells.length + n ≤ Slot.capacity
  /-- For pipelines. -/
  pipelines : r.pipelines.cells.length + n ≤ Slot.capacity
  /-- For passes. -/
  passes : r.passes.cells.length + n ≤ Slot.capacity

variable {r r' : Recorder} {n : Nat} {c : GraphicsDevice.Command} {a : Option ResourceId}

theorem HasRoom.mono {m : Nat} (h : HasRoom n r) (hm : m ≤ n) : HasRoom m r := by
  have := h.textures
  have := h.meshes
  have := h.shaders
  have := h.pipelines
  have := h.passes
  constructor <;> omega

/-- A recorder that just started has room for all handles. -/
theorem hasRoom_fresh {features : Features} {maxColors : UInt32} {display : Display}
    {failAt : Option (ResourceKind × Nat)} {quitAfter : Option Nat} (hn : n ≤ Slot.capacity) :
    HasRoom n (fresh features maxColors display failAt quitAfter) := by
  have h : 0 + n ≤ Slot.capacity := (Nat.zero_add n).symm ▸ hn
  exact ⟨h, h, h, h, h⟩

/-- A command that makes a resource takes one slot of one store. -/
theorem HasRoom.accepts {id : ResourceId} (h : HasRoom (n + 1) r) (hr : r.Accepts c (some id) r') :
    HasRoom n r' := by
  have hroom := h.mono (Nat.le_succ n)
  cases hr with
  | createTexture _ _ hi =>
    have := h.textures
    have := Slot.Map.length_insert? hi
    exact { hroom with textures := by simp only; omega }
  | createMesh _ _ hi =>
    have := h.meshes
    have := Slot.Map.length_insert? hi
    exact { hroom with meshes := by simp only; omega }
  | createShader _ _ hi =>
    have := h.shaders
    have := Slot.Map.length_insert? hi
    exact { hroom with shaders := by simp only; omega }
  | createPipeline _ _ _ hi =>
    have := h.pipelines
    have := Slot.Map.length_insert? hi
    exact { hroom with pipelines := by simp only; omega }
  | createPass _ _ _ _ hi =>
    have := h.passes
    have := Slot.Map.length_insert? hi
    exact { hroom with passes := by simp only; omega }

/-! ### Traps -/

section Traps

variable {P : Recorder × Journal → Prop} {T : Recorder × Journal → Prop}

theorem trapsIn_accept {ε : Type} {cause : ε → InvalidCause} {check : Except ε Unit} :
    TrapsIn P (accept cause check) T := by
  refine .ofChecked fun h ↦ ?_
  cases check <;> cases h

theorem trapsIn_enroll {kind : ResourceKind} : TrapsIn P (enroll kind) T := by
  rw [enroll]
  exact .get_bind fun _ ↦ .ite (fun _ ↦ .refuse) fun _ ↦ .update

/-- A checked description is counted and stored without a trap if its store has room. -/
theorem safe_store {κ α β : Type} {tag : κ} {kind : ResourceKind} {d : α}
    {m : Recorder → Slot.Map tag α} {g : Slot.Handle tag × Slot.Map tag α → Recorder → Recorder}
    {f : Slot.Handle tag × Slot.Map tag α → β} (hm : ∀ r created, m { r with created } = m r) :
    Safe (fun s ↦ (m s.1).cells.length < Slot.capacity)
      (enroll kind >>= fun _ ↦ current >>= fun r ↦ StepWith.orTrap ((m r).insert? d) >>= fun p ↦
        change (g p) >>= fun _ ↦ pure (f p)) := by
  have henroll : Keeps (fun s : Recorder × Journal ↦ (m s.1).cells.length < Slot.capacity)
      (enroll kind) := by
    rw [enroll]
    refine meets_current' fun r ↦ .ite (fun _ ↦ .refuse_bind fun _ _ hs ↦ hs.1) fun _ ↦
      meets_change fun s hs ↦ ?_
    rw [hm]
    exact hs.1
  refine trapsIn_enroll.bind henroll fun _ ↦ ?_
  rw [current]
  refine .get_bind_eq fun s hs ↦ ?_
  refine TrapsIn.bind_any (.orTrap fun hnone ↦ (Slot.Map.insert?_ne_none hs hnone).elim) fun _ ↦ ?_
  exact .bind_any .update fun _ ↦ .pure

theorem safe_createTexture (d : TextureDesc) :
    Safe (fun s ↦ s.1.HasRoom (n + 1)) (createTexture d) := by
  rw [createTexture]
  exact trapsIn_accept.bind Keeps.ofChecked fun _ ↦
    (safe_store fun _ _ ↦ rfl).pre fun _ hs ↦ Nat.lt_of_lt_of_le (by omega) hs.textures

/-- The check of a mesh is the only one that may trap. -/
theorem safe_createMesh {d : MeshDesc} (hd : d.validate ≠ .error .trap) :
    Safe (fun s ↦ s.1.HasRoom (n + 1)) (createMesh d) := by
  have hcheck : (d.validate.mapError fun e ↦ EngineError.invalid (.mesh d.name e)) ≠
      .error .trap := by
    rcases hv : d.validate with (_ | _) | _
    · exact nofun
    · exact (hd hv).elim
    · exact nofun
  rw [createMesh]
  exact (TrapsIn.ofChecked fun ht ↦ (hcheck ht).elim).bind Keeps.ofChecked fun _ ↦
    (safe_store fun _ _ ↦ rfl).pre fun _ hs ↦ Nat.lt_of_lt_of_le (by omega) hs.meshes

theorem safe_createShader (d : ShaderDesc) :
    Safe (fun s ↦ s.1.HasRoom (n + 1)) (createShader d) := by
  rw [createShader]
  exact trapsIn_accept.bind Keeps.ofChecked fun _ ↦
    (safe_store fun _ _ ↦ rfl).pre fun _ hs ↦ Nat.lt_of_lt_of_le (by omega) hs.shaders

theorem safe_createPipeline (d : PipelineDesc) :
    Safe (fun s ↦ s.1.HasRoom (n + 1)) (createPipeline d) := by
  rw [createPipeline]
  refine trapsIn_accept.bind Keeps.ofChecked fun _ ↦ ?_
  rw [current]
  refine .get_bind fun _ ↦ .ite (fun _ ↦ .fail) fun _ ↦ ?_
  exact (safe_store fun _ _ ↦ rfl).pre fun _ hs ↦ Nat.lt_of_lt_of_le (by omega) hs.pipelines

theorem safe_createPass (d : PassDesc) :
    Safe (fun s ↦ s.1.HasRoom (n + 1)) (createPass d) := by
  rw [createPass, current]
  refine .get_bind fun _ ↦ ?_
  refine trapsIn_accept.bind Keeps.ofChecked fun _ ↦ ?_
  refine trapsIn_accept.bind Keeps.ofChecked fun _ ↦ ?_
  refine trapsIn_accept.bind Keeps.ofChecked fun _ ↦ ?_
  exact (safe_store fun _ _ ↦ rfl).pre fun _ hs ↦ Nat.lt_of_lt_of_le (by omega) hs.passes

/-- Releasing never traps. -/
theorem safe_destroy (id : ResourceId) : Safe P (destroy id) := by
  rw [destroy, current]
  refine .get_bind fun s ↦ ?_
  cases s.1.remove? id with
  | none => exact .fail
  | some r => exact .update

end Traps

end RenderTargets.Recorder
