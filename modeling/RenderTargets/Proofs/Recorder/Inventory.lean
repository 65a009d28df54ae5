import RenderTargets.Proofs.Recorder.Moments
/-!
# The inventory of a recorder

A recorder has five stores, two tallies and the order of all handles that it handed out, and each
resource that is made or released changes several of them. What they say together is told by the
history alone: the order is what was `made`, the live resources are those that were made and not
`released`, and the tallies count both for each kind (`Inventory`).

That a handle which was released never comes back rests on versions, and versions start over. So all
of this is known **while fewer than `2 ^ 31` resources were released** (`inventory_of_reached`). How
many were made does not matter.

A command makes a resource, releases one, or leaves the inventory alone (`Accepts.changes`). Only
this needs a look at each of the five stores.
-/

namespace RenderTargets.Recorder

open Log StepWith GraphicsDevice

/-- The resources that were made, the oldest first. -/
def made (l : List (GraphicsDevice.Command × Option ResourceId)) : List ResourceId :=
  l.filterMap Prod.snd

/-- The resource that a command releases. -/
def releases : GraphicsDevice.Command → Option ResourceId
  | .destroy id => some id
  | _ => none

/-- The resources that were released, in order. -/
def released (l : List (GraphicsDevice.Command × Option ResourceId)) : List ResourceId :=
  l.filterMap fun p ↦ releases p.1

/-- The handle is alive or was. -/
def Knows (r : Recorder) : ResourceId → Prop
  | .texture h => r.textures.Knows h
  | .mesh h => r.meshes.Knows h
  | .shader h => r.shaders.Knows h
  | .pipeline h => r.pipelines.Knows h
  | .pass h => r.passes.Knows h

/-- No version in a store is higher than `t` releases make it. -/
structure Worn (r : Recorder) (t : Nat) : Prop where
  /-- Of textures. -/
  textures : r.textures.Worn t
  /-- Of meshes. -/
  meshes : r.meshes.Worn t
  /-- Of shaders. -/
  shaders : r.shaders.Worn t
  /-- Of pipelines. -/
  pipelines : r.pipelines.Worn t
  /-- Of passes. -/
  passes : r.passes.Worn t

variable {r r' : Recorder} {l : List (GraphicsDevice.Command × Option ResourceId)}
  {c : GraphicsDevice.Command} {a : Option ResourceId} {id : ResourceId} {t u : Nat}
  {kind : ResourceKind}

/-! ### One resource more or less -/

theorem Tally.count_bump (n : Tally) (k kind : ResourceKind) :
    (n.bump k).count kind = n.count kind + if k = kind then 1 else 0 := by
  cases k <;> cases kind <;> rfl

theorem Worn.mono (hw : r.Worn t) (htu : t ≤ u) : r.Worn u :=
  ⟨hw.textures.mono htu, hw.meshes.mono htu, hw.shaders.mono htu, hw.pipelines.mono htu,
    hw.passes.mono htu⟩

/-- What is alive is known. -/
theorem knows_of_isLive (h : r.isLive id) : r.Knows id := by
  cases id <;>
  · obtain ⟨_, hget⟩ := Option.isSome_iff_exists.1 h
    exact Slot.Map.knows_of_get? hget

/-- A resource was stored under a new handle, and was counted. -/
structure Gains (r : Recorder) (id : ResourceId) (r' : Recorder) : Prop where
  /-- It was not the one to refuse. -/
  enrolled : r.Enrolls id.kind
  /-- It is the latest one. -/
  order : r'.order = r.order ++ [id]
  /-- It was counted. -/
  created : r'.created = r.created.bump id.kind
  /-- Nothing was released. -/
  destroyed : r'.destroyed = r.destroyed
  /-- It is alive, and so is what was. -/
  live : ∀ k, r'.isLive k ↔ k = id ∨ r.isLive k
  /-- No handle that was known is its handle. -/
  known : ∀ k, r.Knows k → r'.Knows k ∧ k ≠ id
  /-- Versions are as high as releases make them. -/
  worn : ∀ t, r.Worn t → r'.Worn t

/-- A resource was taken out of its store, and was counted. -/
structure Loses (r : Recorder) (id : ResourceId) (r' : Recorder) : Prop where
  /-- It was alive. -/
  alive : r.isLive id
  /-- Nothing was made. -/
  order : r'.order = r.order
  /-- Nothing was counted as made. -/
  created : r'.created = r.created
  /-- It was counted. -/
  destroyed : r'.destroyed = r.destroyed.bump id.kind
  /-- All others stay. -/
  live : ∀ k, r'.isLive k ↔ k ≠ id ∧ r.isLive k
  /-- Handles stay known while no version starts over. -/
  known : ∀ t, r.Worn t → 2 * (t + 1) < UInt32.size → ∀ k, r.Knows k → r'.Knows k
  /-- A version went up. -/
  worn : ∀ t, r.Worn t → 2 * (t + 1) < UInt32.size → r'.Worn (t + 1)

/-- Stores, order and tallies are the same. -/
structure Stays (r r' : Recorder) : Prop where
  /-- The order is. -/
  order : r'.order = r.order
  /-- What was counted as made is. -/
  created : r'.created = r.created
  /-- What was counted as released is. -/
  destroyed : r'.destroyed = r.destroyed
  /-- The same resources are alive. -/
  live : ∀ k, r'.isLive k ↔ r.isLive k
  /-- The same handles are known. -/
  known : ∀ k, r.Knows k → r'.Knows k
  /-- The versions are the same. -/
  worn : ∀ t, r.Worn t → r'.Worn t

/-- What a command that is taken does to the inventory. -/
inductive Changes (r : Recorder) (c : GraphicsDevice.Command) (a : Option ResourceId)
    (r' : Recorder) : Prop
  /-- It makes a resource and answers its handle. -/
  | gains (id : ResourceId) (answers : a = some id) (keeps : releases c = none)
      (gains : r.Gains id r')
  /-- It releases a resource. -/
  | loses (id : ResourceId) (answers : a = none) (drops : releases c = some id)
      (loses : r.Loses id r')
  /-- It does neither. -/
  | stays (answers : a = none) (keeps : releases c = none) (stays : r.Stays r')

/-- A resource that is taken out of its store is lost. -/
theorem loses_of_remove? (h : r.remove? id = some r') :
    r.Loses id { r' with destroyed := r'.destroyed.bump id.kind } := by
  have hframe := remove?_frame h
  have halive : r.isLive id := by rw [← isSome_remove?, h]; rfl
  refine ⟨halive, by rw [hframe], by rw [hframe], by rw [hframe], fun k ↦ ?_,
    fun t hw hlt k hk ↦ ?_, fun t hw hlt ↦ ?_⟩
  · cases id <;> obtain ⟨_, hm, rfl⟩ := Option.map_eq_some_iff.1 h <;> cases k <;>
      simp [isLive, Slot.Map.contains_remove hm]
  · cases id <;> obtain ⟨_, hm, rfl⟩ := Option.map_eq_some_iff.1 h <;> cases k
    case texture.texture => exact Slot.Map.Knows.remove hw.textures.aged hlt hm hk
    case mesh.mesh => exact Slot.Map.Knows.remove hw.meshes.aged hlt hm hk
    case shader.shader => exact Slot.Map.Knows.remove hw.shaders.aged hlt hm hk
    case pipeline.pipeline => exact Slot.Map.Knows.remove hw.pipelines.aged hlt hm hk
    case pass.pass => exact Slot.Map.Knows.remove hw.passes.aged hlt hm hk
    all_goals exact hk
  · have hnext := hw.mono (Nat.le_succ t)
    cases id <;> obtain ⟨_, hm, rfl⟩ := Option.map_eq_some_iff.1 h
    case texture => exact { hnext with textures := hw.textures.remove hlt hm }
    case mesh => exact { hnext with meshes := hw.meshes.remove hlt hm }
    case shader => exact { hnext with shaders := hw.shaders.remove hlt hm }
    case pipeline => exact { hnext with pipelines := hw.pipelines.remove hlt hm }
    case pass => exact { hnext with passes := hw.passes.remove hlt hm }

/-- **A command makes a resource, releases one, or leaves the inventory alone.** -/
theorem Accepts.changes (h : r.Accepts c a r') : r.Changes c a r' := by
  -- A new handle is known to no store: not to its own, and to the others by its kind.
  cases h with
  | createTexture _ hk hi =>
    refine .gains _ rfl rfl ⟨hk, rfl, rfl, rfl, fun k ↦ ?_, fun k hknown ↦ ?_, fun t hw ↦ ?_⟩
    · cases k <;> simp [isLive, Slot.Map.contains_insert? hi]
    · cases k with
      | texture h => exact (hknown.insert? hi).imp_right fun hne he ↦ hne (by cases he; rfl)
      | _ => exact ⟨hknown, by simp⟩
    · exact { hw with textures := hw.textures.insert? hi }
  | createMesh _ hk hi =>
    refine .gains _ rfl rfl ⟨hk, rfl, rfl, rfl, fun k ↦ ?_, fun k hknown ↦ ?_, fun t hw ↦ ?_⟩
    · cases k <;> simp [isLive, Slot.Map.contains_insert? hi]
    · cases k with
      | mesh h => exact (hknown.insert? hi).imp_right fun hne he ↦ hne (by cases he; rfl)
      | _ => exact ⟨hknown, by simp⟩
    · exact { hw with meshes := hw.meshes.insert? hi }
  | createShader _ hk hi =>
    refine .gains _ rfl rfl ⟨hk, rfl, rfl, rfl, fun k ↦ ?_, fun k hknown ↦ ?_, fun t hw ↦ ?_⟩
    · cases k <;> simp [isLive, Slot.Map.contains_insert? hi]
    · cases k with
      | shader h => exact (hknown.insert? hi).imp_right fun hne he ↦ hne (by cases he; rfl)
      | _ => exact ⟨hknown, by simp⟩
    · exact { hw with shaders := hw.shaders.insert? hi }
  | createPipeline _ _ hk hi =>
    refine .gains _ rfl rfl ⟨hk, rfl, rfl, rfl, fun k ↦ ?_, fun k hknown ↦ ?_, fun t hw ↦ ?_⟩
    · cases k <;> simp [isLive, Slot.Map.contains_insert? hi]
    · cases k with
      | pipeline h => exact (hknown.insert? hi).imp_right fun hne he ↦ hne (by cases he; rfl)
      | _ => exact ⟨hknown, by simp⟩
    · exact { hw with pipelines := hw.pipelines.insert? hi }
  | createPass _ _ _ hk hi =>
    refine .gains _ rfl rfl ⟨hk, rfl, rfl, rfl, fun k ↦ ?_, fun k hknown ↦ ?_, fun t hw ↦ ?_⟩
    · cases k <;> simp [isLive, Slot.Map.contains_insert? hi]
    · cases k with
      | pass h => exact (hknown.insert? hi).imp_right fun hne he ↦ hne (by cases he; rfl)
      | _ => exact ⟨hknown, by simp⟩
    · exact { hw with passes := hw.passes.insert? hi }
  | destroy hr => exact .loses _ rfl rfl (loses_of_remove? hr)
  | beginPass | applyViewport | applyDrawState | applyUniforms | draw | fillRects | endPass
  | commitFrame | requestQuit =>
    exact .stays rfl rfl ⟨rfl, rfl, rfl, fun k ↦ by cases k <;> rfl,
      fun k hk ↦ by cases k <;> exact hk, fun t hw ↦ ⟨hw.1, hw.2, hw.3, hw.4, hw.5⟩⟩

/-! ### The inventory and its history -/

/-- What a recorder has after the resources `m` were made and the resources `d` released. -/
structure Inventory (r : Recorder) (m d : List ResourceId) : Prop where
  /-- The order is that of making. -/
  order : r.order = m
  /-- Every handle is new. -/
  nodup : m.Nodup
  /-- No handle is forgotten. -/
  known : ∀ id ∈ m, r.Knows id
  /-- Alive is what was made and not released. -/
  live : ∀ id, r.isLive id ↔ id ∈ m ∧ id ∉ d
  /-- What was released was made. -/
  released_subset : d ⊆ m
  /-- Nothing is released twice. -/
  released_nodup : d.Nodup
  /-- What was made is counted. -/
  created : ∀ kind, r.created.count kind = m.countP (·.kind = kind)
  /-- What was released is counted. -/
  destroyed : ∀ kind, r.destroyed.count kind = d.countP (·.kind = kind)
  /-- Versions are as high as the releases make them. -/
  worn : r.Worn d.length

namespace Inventory

variable {m d : List ResourceId}

theorem fresh (features : Features) (maxColors : UInt32) (display : Display)
    (failAt : Option (ResourceKind × Nat)) (quitAfter : Option Nat) :
    (fresh features maxColors display failAt quitAfter).Inventory [] [] where
  order := rfl
  nodup := .nil
  known := nofun
  live id := by
    have hnone := (holds_fresh features maxColors display failAt quitAfter).mem_iff id
    simp [← hnone]
  released_subset := nofun
  released_nodup := .nil
  created kind := by cases kind <;> rfl
  destroyed kind := by cases kind <;> rfl
  worn := ⟨.empty, .empty, .empty, .empty, .empty⟩

/-- A count goes up with its list. -/
theorem count_bump {n : Tally} {ids : List ResourceId}
    (h : n.count kind = ids.countP (·.kind = kind)) :
    (n.bump id.kind).count kind = (ids ++ [id]).countP (·.kind = kind) := by
  rw [Tally.count_bump, h, List.countP_append, List.countP_singleton]
  simp

/-- A new handle was not made before, since none is forgotten. -/
theorem gains (h : r.Inventory m d) (hg : r.Gains id r') : r'.Inventory (m ++ [id]) d := by
  have hnew : id ∉ m := fun hid ↦ (hg.known id (h.known id hid)).2 rfl
  have hkept : id ∉ d := fun hid ↦ hnew (h.released_subset hid)
  refine ⟨by rw [hg.order, h.order], ?_, fun k hk ↦ ?_, fun k ↦ ?_, ?_, h.released_nodup,
    fun kind ↦ ?_, fun kind ↦ by rw [hg.destroyed, h.destroyed], hg.worn _ h.worn⟩
  · exact h.nodup.append (List.nodup_singleton id) (by simpa using hnew)
  · rcases List.mem_append.1 hk with hk | hk
    · exact (hg.known k (h.known k hk)).1
    · exact knows_of_isLive ((hg.live k).2 (.inl (List.mem_singleton.1 hk)))
  · rw [hg.live, h.live, List.mem_append, List.mem_singleton]
    constructor
    · rintro (rfl | ⟨hm, hd⟩)
      · exact ⟨.inr rfl, hkept⟩
      · exact ⟨.inl hm, hd⟩
    · rintro ⟨hm | hm, hd⟩
      · exact .inr ⟨hm, hd⟩
      · exact .inl hm
  · exact List.subset_append_of_subset_left [id] h.released_subset
  · rw [hg.created]
    exact count_bump (h.created kind)

/-- A resource that is released was alive, so it was made and not released before. -/
theorem loses (h : r.Inventory m d) (hl : r.Loses id r') (hfew : (d ++ [id]).length < 0x80000000) :
    r'.Inventory m (d ++ [id]) := by
  obtain ⟨hmade, hkept⟩ := (h.live id).1 hl.alive
  have hlen : (d ++ [id]).length = d.length + 1 := List.length_append
  have hlt : 2 * (d.length + 1) < UInt32.size := by
    have hsize : UInt32.size = 2 * 0x80000000 := rfl
    omega
  refine ⟨by rw [hl.order, h.order], h.nodup, fun k hk ↦ hl.known _ h.worn hlt k (h.known k hk),
    fun k ↦ ?_, ?_, ?_, fun kind ↦ by rw [hl.created, h.created], fun kind ↦ ?_, ?_⟩
  · rw [hl.live, h.live, List.mem_append, List.mem_singleton, not_or]
    tauto
  · exact List.append_subset.2 ⟨h.released_subset, by simpa using hmade⟩
  · exact h.released_nodup.append (List.nodup_singleton id) (by simpa using hkept)
  · rw [hl.destroyed]
    exact count_bump (h.destroyed kind)
  · rw [hlen]
    exact hl.worn _ h.worn hlt

theorem stays (h : r.Inventory m d) (hs : r.Stays r') : r'.Inventory m d where
  order := by rw [hs.order, h.order]
  nodup := h.nodup
  known k hk := hs.known k (h.known k hk)
  live k := (hs.live k).trans (h.live k)
  released_subset := h.released_subset
  released_nodup := h.released_nodup
  created kind := by rw [hs.created, h.created]
  destroyed kind := by rw [hs.destroyed, h.destroyed]
  worn := hs.worn _ h.worn

/-- What was made of a kind was released or is alive. -/
theorem balance (h : r.Inventory m d) (kind : ResourceKind) :
    r.created.count kind =
      r.destroyed.count kind + m.countP (fun id ↦ id.kind = kind ∧ r.isLive id) := by
  have hdead : (m.filter fun id ↦ !r.isLive id).Perm d := by
    refine (List.perm_ext_iff_of_nodup (h.nodup.filter _) h.released_nodup).2 fun id ↦ ?_
    rw [List.mem_filter, Bool.not_eq_true', ← Bool.not_eq_true, h.live]
    have hsub := @h.released_subset id
    tauto
  have hlive : (m.filter r.isLive).countP (·.kind = kind) =
      m.countP (fun id ↦ id.kind = kind ∧ r.isLive id) := by
    rw [List.countP_filter]
    exact List.countP_congr fun id _ ↦ by simp
  rw [h.created, h.destroyed, ← hdead.countP_eq, ← hlive, Nat.add_comm]
  exact List.countP_eq_countP_filter_add _ _ _

end Inventory

theorem made_append_singleton : made (l ++ [(c, a)]) = made l ++ a.toList := by
  cases a <;> simp [made]

theorem released_append_singleton :
    released (l ++ [(c, a)]) = released l ++ (releases c).toList := by
  rcases h : releases c with _ | id <;> simp [released, h]

/-- A command that is taken keeps the inventory, as long as no version starts over. -/
theorem Inventory.step (h : r.Inventory (made l) (released l)) (hc : r.Changes c a r')
    (hfew : (released (l ++ [(c, a)])).length < 0x80000000) :
    r'.Inventory (made (l ++ [(c, a)])) (released (l ++ [(c, a)])) := by
  rw [released_append_singleton] at hfew ⊢
  rw [made_append_singleton]
  cases hc with
  | gains id answers keeps hg =>
    rw [answers, keeps, Option.toList_none, List.append_nil]
    exact h.gains hg
  | loses id answers drops hl =>
    rw [drops] at hfew
    rw [answers, drops, Option.toList_none, List.append_nil]
    exact h.loses hl hfew
  | stays answers keeps hs =>
    rw [answers, keeps, Option.toList_none, List.append_nil, List.append_nil]
    exact h.stays hs

/-! ### The resource to refuse -/

/-- Which resource to refuse is set once and for all. -/
theorem Accepts.failAt_eq (h : r.Accepts c a r') : r'.failAt = r.failAt := by
  cases h with
  | destroy hr => rw [remove?_frame hr]
  | _ => rfl

/-- Resources of the kind to refuse never become as many as the number of the one to refuse. -/
theorem Accepts.count_lt {n : Nat} (h : r.Accepts c a r') (hfail : r.failAt = some (kind, n))
    (hlt : r.created.count kind < n) : r'.created.count kind < n := by
  cases h.changes with
  | gains id _ _ hg =>
    rw [hg.created, Tally.count_bump]
    split
    · next hk =>
      subst hk
      have hne : n ≠ r.created.count id.kind + 1 := fun hn ↦ hg.enrolled (hn ▸ hfail)
      omega
    · exact hlt
  | loses id _ _ hl => exact hl.created ▸ hlt
  | stays _ _ hs => exact hs.created ▸ hlt

theorem enroll_refused {j : Journal} (h : ¬r.Enrolls kind) :
    ∃ j', enroll kind (r, j) =
      .error (.error (.backend (.injected kind (r.created.count kind + 1)))) (r, j') := by
  have hrefused : enroll kind (r, j) = (if r.failAt = some (kind, r.created.count kind + 1) then
      Log.refuse source (.injected kind (r.created.count kind + 1))
    else change fun r ↦ { r with created := r.created.bump kind }) (r, j) := rfl
  rw [if_pos (not_not.1 h)] at hrefused
  exact ⟨_, hrefused⟩

/-- What is not alive cannot be released. -/
theorem answer_destroy_dead {s : Recorder × Journal} (h : ¬s.1.isLive id) :
    (Command.destroy id).answer s = .error (.error (.invalid (.notAlive id))) s := by
  obtain ⟨r, j⟩ := s
  have hnone : r.remove? id = none := by
    rw [← Option.not_isSome_iff_eq_none, isSome_remove?]
    exact h
  have hcurrent : current (r, j) = .ok r (r, j) := rfl
  refine map_error (x := destroy id) ?_
  rw [Recorder.destroy, bind_ok hcurrent, hnone]
  rfl

theorem accept_bind {ε α : Type} {cause : ε → InvalidCause} {check : Except ε Unit}
    {k : Unit → Recording α} {s : Recorder × Journal} (h : check = .ok ()) :
    (accept cause check >>= k) s = k () s :=
  ofChecked_bind (by rw [h]; rfl)

/-- The recorder without a resource to refuse. -/
def sparing (r : Recorder) : Recorder := { r with failAt := none }

theorem checkAttachments_sparing {ids : List TextureId} :
    r.sparing.checkAttachments none ids = .ok () ↔ r.checkAttachments none ids = .ok () := by
  rw [checkAttachments_eq_ok_iff, checkAttachments_eq_ok_iff, sparing]

/-- What a recorder that refuses nothing would make is made, unless it is the resource to refuse. -/
theorem Accepts.spared {r₁ : Recorder} (h : r.sparing.Accepts c (some id) r₁)
    (hk : r.Enrolls id.kind) : ∃ r', r.Accepts c (some id) r' := by
  cases h with
  | createTexture hv _ hi => exact ⟨_, .createTexture hv hk hi⟩
  | createMesh hv _ hi => exact ⟨_, .createMesh hv hk hi⟩
  | createShader hv _ hi => exact ⟨_, .createShader hv hk hi⟩
  | createPipeline hv hs _ hi => exact ⟨_, .createPipeline hv hs hk hi⟩
  | createPass hv ha hd _ hi =>
    exact ⟨_, .createPass hv (checkAttachments_sparing.1 ha) hd hk hi⟩

/-- The resource to refuse is refused after all other checks, and nothing is changed. -/
theorem Accepts.injected {r₁ : Recorder} {j : Journal}
    (h : r.sparing.Accepts c (some id) r₁) (hk : ¬r.Enrolls id.kind) :
    ∃ j', c.answer (r, j) =
      .error (.error (.backend (.injected id.kind (r.created.count id.kind + 1)))) (r, j') := by
  obtain ⟨j', hj⟩ := enroll_refused (j := j) hk
  refine ⟨j', ?_⟩
  cases h with
  | createTexture hv => exact map_error ((accept_bind hv).trans (bind_error hj))
  | createMesh hv => exact map_error ((ofChecked_bind (by rw [hv]; rfl)).trans (bind_error hj))
  | createShader hv => exact map_error ((accept_bind hv).trans (bind_error hj))
  | createPipeline hv hs =>
    refine map_error ((accept_bind hv).trans ?_)
    show (ite _ _ _ : Recording PipelineId) (r, j) = _
    rw [if_neg (by simpa [sparing] using hs)]
    exact bind_error hj
  | createPass hv ha hd =>
    have ha := checkAttachments_sparing.1 ha
    exact map_error ((accept_bind hv).trans <| (accept_bind ha).trans <|
      (accept_bind hd).trans (bind_error hj))

/-! ### Runs -/

section Runs

variable {features : Features} {maxColors : UInt32} {display : Display}
  {failAt : Option (ResourceKind × Nat)} {quitAfter : Option Nat} {s : Recorder × Journal}

/-- The recorder just started, as it was set to. -/
abbrev Starts (features : Features) (maxColors : UInt32) (display : Display)
    (failAt : Option (ResourceKind × Nat)) (quitAfter : Option Nat) (s : Recorder × Journal) :
    Prop :=
  s.1 = fresh features maxColors display failAt quitAfter

/-- A recorder has its inventory, as long as no version starts over. -/
theorem inventory_of_reached
    (h : GraphicsDevice.Reached (Starts features maxColors display failAt quitAfter) Drains l s)
    (hfew : (released l).length < 0x80000000) : s.1.Inventory (made l) (released l) := by
  induction h with
  | start hs =>
    rw [hs]
    exact .fresh _ _ _ _ _
  | taken _ took ih =>
    obtain ⟨r', hr, rfl⟩ := answer_ok_iff.1 took
    refine (ih ?_).step hr.changes hfew
    rw [released_append_singleton, List.length_append] at hfew
    omega
  | refused _ hrefused ih =>
    rw [answer_error hrefused]
    exact ih hfew
  | between _ done ih =>
    cases done
    exact (ih hfew).stays ⟨rfl, rfl, rfl, fun k ↦ by cases k <;> rfl,
      fun k hk ↦ by cases k <;> exact hk, fun t hw ↦ ⟨hw.1, hw.2, hw.3, hw.4, hw.5⟩⟩

/-- Which resource to refuse stays set, and there are always fewer than its number. -/
theorem failAt_of_reached
    (h : GraphicsDevice.Reached (Starts features maxColors display failAt quitAfter) Drains l s) :
    s.1.failAt = failAt ∧
      ∀ kind n, failAt = some (kind, n) → 1 ≤ n → s.1.created.count kind < n := by
  induction h with
  | start hs =>
    rw [hs]
    exact ⟨rfl, fun kind n _ hn ↦ by cases kind <;> exact hn⟩
  | taken _ took ih =>
    obtain ⟨r', hr, rfl⟩ := answer_ok_iff.1 took
    obtain ⟨hfail, hlt⟩ := ih
    exact ⟨hr.failAt_eq.trans hfail, fun kind n hkind hn ↦
      hr.count_lt (hfail.trans hkind) (hlt kind n hkind hn)⟩
  | refused _ hrefused ih =>
    rw [answer_error hrefused]
    exact ih
  | between _ done ih =>
    cases done
    exact ih

/-- **The books of a recorder agree with its history**, after every command of a run in which fewer
than `2 ^ 31` resources were released. No handle is handed out twice. Alive is what was made and not
released, this is what can be released, and nothing is released twice. Both tallies are those of the
handles. And of the kind to refuse, no more resources are made than come before the one to refuse,
which is the one that fails. -/
theorem books_of_reached
    (h : GraphicsDevice.Reached (Starts features maxColors display failAt quitAfter) Drains l s)
    (hfew : (released l).length < 0x80000000) :
    (s.1.order = made l ∧ s.1.order.Nodup) ∧
    (∀ id, s.1.isLive id ↔ id ∈ s.1.order ∧ id ∉ released l) ∧
    ((released l).Nodup ∧ ∀ id,
      (s.1.isLive id → ∃ t, (Command.destroy id).answer s = .ok none t ∧ t.1.isLive id = false) ∧
      (¬s.1.isLive id →
        (Command.destroy id).answer s = .error (.error (.invalid (.notAlive id))) s)) ∧
    (∀ kind, s.1.created.count kind = s.1.order.countP (·.kind = kind) ∧
      s.1.created.count kind = s.1.destroyed.count kind +
        s.1.order.countP fun id ↦ id.kind = kind ∧ s.1.isLive id) ∧
    ∀ kind n, failAt = some (kind, n) → 1 ≤ n →
      s.1.created.count kind ≤ n - 1 ∧
      ∀ (c : GraphicsDevice.Command) (id : ResourceId) (t : Recorder × Journal),
        c.answer (s.1.sparing, s.2) = .ok (some id) t → id.kind = kind →
        (s.1.created.count kind = n - 1 → ∃ j,
          c.answer s = .error (.error (.backend (.injected kind n))) (s.1, j)) ∧
        (s.1.created.count kind ≠ n - 1 → ∃ t', c.answer s = .ok (some id) t') := by
  have hbooks := inventory_of_reached h hfew
  obtain ⟨hfail, hlt⟩ := failAt_of_reached h
  refine ⟨⟨hbooks.order, hbooks.order ▸ hbooks.nodup⟩, fun id ↦ hbooks.order ▸ hbooks.live id,
    ⟨hbooks.released_nodup, fun id ↦ ⟨fun hlive ↦ ?_, answer_destroy_dead⟩⟩,
    fun kind ↦ ⟨hbooks.order ▸ hbooks.created kind, hbooks.order ▸ hbooks.balance kind⟩,
    fun kind n hkind hn ↦ ⟨Nat.le_sub_one_of_lt (hlt kind n hkind hn), fun c id t hc hid ↦ ?_⟩⟩
  · rw [← isSome_remove?] at hlive
    obtain ⟨r', hr⟩ := Option.isSome_iff_exists.1 hlive
    refine ⟨_, answer_ok_iff.2 ⟨_, .destroy hr, rfl⟩, ?_⟩
    exact Bool.eq_false_iff.2 fun hl ↦ (((loses_of_remove? hr).live id).1 hl).1 rfl
  · subst hid
    obtain ⟨r₁, hr, -⟩ := answer_ok_iff.1 hc
    have henrolls : s.1.Enrolls id.kind ↔ s.1.created.count id.kind ≠ n - 1 := by
      simp only [Enrolls, hfail, hkind, ne_eq, Option.some.injEq, Prod.mk.injEq, true_and]
      omega
    constructor
    · intro hlast
      obtain ⟨j, hj⟩ := hr.injected (j := s.2) fun he ↦ henrolls.1 he hlast
      rw [hlast, Nat.sub_add_cancel hn] at hj
      exact ⟨j, hj⟩
    · intro hother
      obtain ⟨r', hr'⟩ := hr.spared (henrolls.2 hother)
      exact ⟨_, answer_ok_iff.2 ⟨r', hr', rfl⟩⟩

/-- A texture to make. -/
def smallTexture : TextureDesc := ⟨"small", 4, 4, .rgba8Unorm, .sampledAndRenderTarget, 1, none⟩

/-- A texture is made, released, and released once more. The next one has its slot, and the third
one is to be refused. -/
def reuse : List GraphicsDevice.Command :=
  [.createTexture smallTexture, .createMesh (.fullScreenQuad true), .destroy (.texture ⟨1, 1⟩),
   .destroy (.texture ⟨1, 1⟩), .createTexture smallTexture, .createTexture smallTexture]

/-- The command would make a texture. -/
def makesTexture (c : GraphicsDevice.Command) (s : Recorder × Journal) : Bool :=
  match c.answer s with
  | .ok (some id) _ => id.kind == .texture
  | _ => false

/-- The slot is used again, under another handle. The old handle cannot be released any more, and
the third texture is refused. -/
theorem books_of_reached_reuse :
    ∃ l, ∃ s : Recorder × Journal,
      GraphicsDevice.Reached (Starts .every 4 default (some (.texture, 3)) none) Drains l s ∧
      made l = [.texture ⟨1, 1⟩, .mesh ⟨1, 1⟩, .texture ⟨1, 3⟩] ∧
      released l = [.texture ⟨1, 1⟩] ∧ (released l).length < 0x80000000 ∧
      s.1.order = made l ∧ s.1.isLive (.texture ⟨1, 3⟩) ∧
      (Command.destroy (.texture ⟨1, 1⟩)).answer s =
        .error (.error (.invalid (.notAlive (.texture ⟨1, 1⟩)))) s ∧
      s.1.created.count .texture = 2 ∧
      ∃ j, (Command.createTexture smallTexture).answer s =
        .error (.error (.backend (.injected .texture 3))) (s.1, j) := by
  let start : Recorder × Journal := (fresh .every 4 default (some (.texture, 3)) none, {})
  have hmade : made (accepted reuse start) =
      [.texture ⟨1, 1⟩, .mesh ⟨1, 1⟩, .texture ⟨1, 3⟩] := by decide +kernel
  have hreleased : released (accepted reuse start) = [.texture ⟨1, 1⟩] := by decide +kernel
  have hfew : (released (accepted reuse start)).length < 0x80000000 := by
    rw [hreleased]
    decide
  have hrun : (settleAll (reuse.map Command.answer) start).any fun s ↦
      makesTexture (.createTexture smallTexture) (s.1.sparing, s.2) := by decide +kernel
  obtain ⟨s, hs, hcheck⟩ := exists_accepted
    (Starts .every 4 default (some (.texture, 3)) none) Drains rfl hrun
  obtain ⟨⟨horder, -⟩, hlive, ⟨-, hdestroy⟩, hcount, hfail⟩ := books_of_reached hs hfew
  have hcreated : s.1.created.count .texture = 2 := by
    rw [(hcount .texture).1, horder, hmade]
    decide
  rw [makesTexture] at hcheck
  split at hcheck
  · next id t hid =>
    obtain ⟨-, hinjected⟩ := hfail .texture 3 rfl (by decide)
    refine ⟨_, s, hs, hmade, hreleased, hfew, horder, ?_, (hdestroy _).2 fun hdead ↦ ?_, hcreated,
      (hinjected _ id t hid (eq_of_beq hcheck)).1 hcreated⟩
    · rw [hlive, horder, hmade, hreleased]
      decide
    · rw [hlive, hreleased] at hdead
      exact hdead.2 (List.mem_singleton_self _)
  · cases hcheck

end Runs

end RenderTargets.Recorder
