import Mathlib.Data.Option.Basic
import RenderTargets.Proofs.Recorder.Accepts
import RenderTargets.Proofs.Slot.Twins
import RenderTargets.Proofs.Vulkan.Device.Outline
/-!
# A recorder that follows a Vulkan device

A recorder that is given what a device took `Follows` the device: their stores are parallel, so that
both hand out the same handles, and what the recorder looks up in descriptions is what the device
kept. `Follows.step` is one command: what the outline of the device accepts, the recorder accepts.

## What the device keeps and the recorder looks up again

A pass of the device keeps its signature. The recorder finds it out when the pass begins, from the
textures that are alive then. For the colors this is the same, because neither begins a pass with a
released attachment. But **neither looks after the depth buffer**: after its texture was released,
the device still has the format, and the recorder finds none. `KeepsDepth` says that no such pass is
begun.

Handles of textures stand for the same texture until the versions of a slot start over, so histories
are shorter than there are versions.
-/

namespace RenderTargets.Vulkan

open Slot Slot.Map

/-- The commands that were taken so far, with the handles that were answered. -/
abbrev History := List (GraphicsDevice.Command × Option ResourceId)

/-- No pass is begun after the texture of its depth buffer was released. -/
def KeepsDepth (l : History) : Prop :=
  ∀ before id action answer after d t, l = before ++
    (.beginPass (some id) action, answer) :: after →
    (.createPass d, some (.pass id)) ∈ before → d.depth = some t →
      (.destroy (.texture t), none) ∉ before

/-- The stores of descriptions of a recorder. -/
abbrev TextureDescs := Slot.Map ResourceKind.texture TextureDesc

/-- A texture of a device and the description in the recorder. -/
def Texture.Matches (resolved : List TextureId) (id : TextureId) (t : Texture) (d : TextureDesc) :
    Prop :=
  t.IsOf d ∧ (t.resolved = true → id ∈ resolved)

/-- A pass of a device and the description in the recorder, which has these textures. -/
structure Pass.Matches (l : History) (textures : TextureDescs) (id : PassId) (p : Pass)
    (d : PassDesc) : Prop where
  /-- The pass was made of the description. -/
  made : (.createPass d, some (.pass id)) ∈ l
  /-- The textures rendered into are the same. -/
  textures_eq : p.textures = d.textures
  /-- There are some. -/
  nonempty : d.textures ≠ []
  /-- A pass that resolves was to resolve. -/
  store : p.resolves = true → d.store = .resolve
  /-- The pass has all colors. -/
  colorCount : p.signature.colorCount = UInt32.ofNat d.textures.length
  /-- The textures were alive once. -/
  knows : ∀ t, t ∈ d.textures ∨ d.depth = some t → textures.Knows t
  /-- What is alive of the colors is as it was. -/
  color : ∀ t ∈ d.textures, ∀ u, textures.get? t = some u →
    u.format = p.signature.colorFormat ∧ u.samples = p.signature.samples
  /-- The depth buffer is as it was, unless it was released. -/
  depth : (∀ t, d.depth = some t → (.destroy (.texture t), none) ∉ l) →
    d.depth.bind (fun t ↦ (textures.get? t).bind (·.depth)) = p.signature.depthFormat

/-- The pass that a device is in and the pass that the recorder is in. -/
structure ActivePass.Matches (passes : Slot.Map ResourceKind.pass PassDesc) (a : ActivePass)
    (b : Recorder.ActivePass) : Prop where
  /-- What pipelines have to match is the same. -/
  signature : b.signature = a.signature
  /-- The textures rendered into are the same. -/
  attachments : b.attachments = a.attachments
  /-- After a pipeline was bound there is a draw state. -/
  pipeline : ∀ id, a.pipeline = some id → b.drawState.isSome
  /-- It has the mesh that was bound. -/
  mesh : ∀ id, a.mesh = some id → ∃ state, b.drawState = some state ∧ state.mesh = id
  /-- A pass that resolves was to resolve. -/
  store : a.resolves = true → ∃ id d, b.pass = some id ∧ passes.get? id = some d ∧
    d.store = .resolve

/-- The recorder was given what the device took. -/
structure Follows (l : History) (o : Outline) (r : Recorder) : Prop where
  /-- Passes may have as many colors. -/
  maxColors : r.maxColors = o.capabilities.maxColors
  /-- The screens are alike. -/
  display : (⟨1, r.display.colorFormat, r.display.depthFormat, r.display.samples⟩ : Signature) =
    ⟨1, o.colorFormat, some screenDepthFormat, 1⟩
  /-- The recorder refuses nothing of itself. -/
  failAt : r.failAt = none
  /-- Textures are alike. -/
  textures : Parallel (Texture.Matches r.resolved) o.textures r.textures
  /-- Meshes have the same groups. -/
  meshes : Parallel (fun _ m d ↦ m.groups = d.groups) o.meshes r.meshes
  /-- There are as many shaders. -/
  shaders : Parallel (fun _ _ _ ↦ True) o.shaders r.shaders
  /-- Pipelines have the same signature. -/
  pipelines : Parallel (fun _ p d ↦ p.signature = d.signature) o.pipelines r.pipelines
  /-- Passes are alike. -/
  passes : Parallel (Pass.Matches l r.textures) o.passes r.passes
  /-- There were as many steps as commands. -/
  aged : r.textures.Aged l.length
  /-- Both are in the same pass. -/
  active : Option.Rel (ActivePass.Matches r.passes) o.active r.active

variable {l : History} {o o' : Outline} {r : Recorder} {c : GraphicsDevice.Command}
  {answer : Option ResourceId} {a : ActivePass} {b : Recorder.ActivePass}

/-! ### Passes while other things change -/

namespace Pass.Matches

variable {textures textures' : TextureDescs} {id : PassId} {p : Pass} {d : PassDesc}
  {x : GraphicsDevice.Command × Option ResourceId} {h : TextureId} {u : TextureDesc}

/-- A longer history. -/
theorem append (hp : p.Matches l textures id d) : p.Matches (l ++ [x]) textures id d :=
  { hp with
    made := List.mem_append_left _ hp.made
    depth := fun hd ↦ hp.depth fun t ht hmem ↦ hd t ht (List.mem_append_left _ hmem) }

/-- A texture was made. -/
theorem insert? (hp : p.Matches l textures id d)
    (hi : textures.insert? u = some (h, textures')) :
    p.Matches l textures' id d := by
  have hsame : ∀ t, t ∈ d.textures ∨ d.depth = some t → textures'.get? t = textures.get? t :=
    fun t ht ↦ get?_insert?_of_ne hi ((hp.knows t ht).insert? hi).2
  refine { hp with
    knows := fun t ht ↦ ((hp.knows t ht).insert? hi).1
    color := fun t ht u hu ↦ hp.color t ht u (hsame t (.inl ht) ▸ hu)
    depth := fun hd ↦ ?_ }
  rw [← hp.depth hd]
  refine Option.bind_congr fun t ht ↦ ?_
  rw [hsame t (.inr ht)]

/-- A texture was released. -/
theorem remove (hp : p.Matches l textures id d) (ht : textures.Aged l.length)
    (hlt : l.length + 1 < UInt32.size) (hr : textures.remove h = some (u, textures')) :
    p.Matches (l ++ [(.destroy (.texture h), none)]) textures' id d := by
  refine { hp.append with
    knows := fun t hmem ↦ (hp.knows t hmem).remove ht hlt hr
    color := fun t hmem v hv ↦ ?_
    depth := fun hd ↦ ?_ }
  · have hne : t ≠ h := by
      rintro rfl
      cases (get?_remove_self hr).symm.trans hv
    exact hp.color t hmem v ((get?_remove_of_ne hr hne).symm.trans hv)
  · have hd' := fun t ht hmem ↦ hd t ht (List.mem_append_left _ hmem)
    rw [← hp.depth hd']
    refine Option.bind_congr fun t hdt ↦ ?_
    have hne : t ≠ h := by
      rintro rfl
      exact hd t hdt (List.mem_append_right _ List.mem_cons_self)
    rw [get?_remove_of_ne hr hne]

end Pass.Matches

/-- Textures may be noted as resolved that are. -/
theorem parallel_markResolved {resolved ids : List TextureId} {m : TextureMap} {n : TextureDescs}
    (hpar : Parallel (Texture.Matches resolved) m n) (h : ∀ id ∈ ids, id ∈ resolved) :
    Parallel (Texture.Matches resolved) (ids.foldl Device.markResolved m) n := by
  induction ids generalizing m with
  | nil => exact hpar
  | cons id ids ih =>
    have hid := h id List.mem_cons_self
    have hmarked : Parallel (Texture.Matches resolved) (Device.markResolved m id) n :=
      hpar.modify fun _ _ ht ↦ ⟨⟨ht.1.extent, ht.1.format, ht.1.samples, ht.1.depth⟩, fun _ ↦ hid⟩
    exact ih hmarked fun id hid ↦ h id (List.mem_cons_of_mem _ hid)

/-- Passes that were found are found in more passes. -/
theorem ActivePass.Matches.mono {passes passes' : Slot.Map ResourceKind.pass PassDesc}
    (hb : a.Matches passes b)
    (h : ∀ id d, passes.get? id = some d → passes'.get? id = some d) : a.Matches passes' b :=
  { hb with
    store := fun ha ↦
      have ⟨id, d, hid, hd, hstore⟩ := hb.store ha
      ⟨id, d, hid, h id d hd, hstore⟩ }

/-! ### The parts of a pass -/

section Parts

variable {m : TextureMap} {first t : Texture} {i : ℕ} {ids : List TextureId} {ts : List Texture}

theorem exists_of_colorTextures (h : Pass.colorTextures m i ids = .ok ts) :
    ∀ id ∈ ids, ∃ t ∈ ts, m.get? id = some t := by
  induction ids generalizing i ts with
  | nil => exact List.forall_mem_nil _
  | cons id ids ih =>
    rw [Pass.colorTextures] at h
    split at h
    · cases h
    · next t ht =>
      split at h
      · cases h
      · obtain ⟨rest, hrest, h⟩ := exists_ok_of_bind h
        cases h
        refine List.forall_mem_cons.2 ⟨⟨t, List.mem_cons_self, ht⟩, fun id hid ↦ ?_⟩
        obtain ⟨u, hu, hfound⟩ := ih hrest id hid
        exact ⟨u, List.mem_cons_of_mem t hu, hfound⟩

theorem isLike_iff {u : Texture} :
    t.isLike u ↔ t.extent = u.extent ∧ t.samples = u.samples ∧ t.format = u.format := by
  simp [Texture.isLike, and_assoc]

theorem isLike_of_checkAlike (h : Pass.checkAlike first ts = .ok ()) :
    ∀ t ∈ ts, t.isLike first := by
  induction ts with
  | nil => exact List.forall_mem_nil _
  | cons t ts ih =>
    rw [Pass.checkAlike] at h
    split at h
    · next ht => exact List.forall_mem_cons.2 ⟨ht, ih h⟩
    · cases h

theorem Pass.Parts.Fit.isLike {d : PassDesc} {p : Pass.Parts} (h : p.Fit d m) :
    ∀ t ∈ p.colors, t.isLike p.first := by
  obtain ⟨rest, hcolors, halike⟩ := h.alike
  rw [hcolors]
  exact List.forall_mem_cons.2 ⟨isLike_iff.2 ⟨rfl, rfl, rfl⟩, isLike_of_checkAlike halike⟩

/-- Textures that are alike are accepted by the recorder one after the other. -/
theorem checkAttachments_of_colorTextures
    (hpar : Parallel (Texture.Matches r.resolved) m r.textures)
    (h : Pass.colorTextures m i ids = .ok ts) (hlike : ∀ t ∈ ts, t.isLike first)
    {before : Option TextureDesc}
    (hbefore : ∀ b, before = some b →
      first.extent = ⟨b.width, b.height⟩ ∧ first.samples = b.samples) :
    r.checkAttachments before ids = .ok () := by
  induction ids generalizing i ts before with
  | nil => cases before <;> rfl
  | cons id ids ih =>
    rw [Pass.colorTextures] at h
    split at h
    · cases h
    · next t ht =>
      split at h
      · cases h
      · obtain ⟨rest, hrest, h⟩ := exists_ok_of_bind h
        cases h
        obtain ⟨d, hd, hof, -⟩ := hpar.exists_get? ht
        obtain ⟨hextent, hsamples, -⟩ := isLike_iff.1 (hlike t List.mem_cons_self)
        have hfirst : first.extent = ⟨d.width, d.height⟩ ∧ first.samples = d.samples :=
          ⟨hextent.symm.trans hof.extent, hsamples.symm.trans hof.samples⟩
        have hgo : r.checkAttachments (some d) ids = .ok () :=
          ih hrest (fun u hu ↦ hlike u (List.mem_cons_of_mem t hu)) (by rintro _ ⟨⟩; exact hfirst)
        rw [Recorder.checkAttachments, hd]
        cases before with
        | none => exact hgo
        | some b =>
          obtain ⟨hsize, hcount⟩ := hbefore b rfl
          obtain ⟨hw, hh⟩ := Extent.mk.inj (hfirst.1.symm.trans hsize)
          have halike : ¬(d.width ≠ b.width ∨ d.height ≠ b.height ∨ d.samples ≠ b.samples) := by
            simp [hw, hh, hfirst.2.symm.trans hcount]
          simp only [if_neg halike]
          exact hgo

/-- A depth buffer that fits is accepted by the recorder. -/
theorem checkDepth_of_depthTexture
    (hpar : Parallel (Texture.Matches r.resolved) m r.textures) {id : Option TextureId}
    {depth : Option Texture} (h : Pass.depthTexture m first id = .ok depth) :
    r.checkDepth id = .ok () ∧ (∀ t, id = some t → ∃ d, r.textures.get? t = some d) ∧
      id.bind (fun t ↦ (r.textures.get? t).bind (·.depth)) = depth.bind (·.depthFormat?) := by
  cases id with
  | none =>
    cases h
    exact ⟨rfl, nofun, rfl⟩
  | some id =>
    rw [Pass.depthTexture] at h
    split at h
    · cases h
    · next t ht =>
      split at h
      · next hfits =>
        cases h
        obtain ⟨d, hd, hof, -⟩ := hpar.exists_get? ht
        have hsome : d.depth.isSome := by
          rw [← hof.depth, Texture.depthFormat?, Option.isSome_map]
          simp_all
        refine ⟨?_, by rintro _ ⟨⟩; exact ⟨d, hd⟩, ?_⟩
        · rw [Recorder.checkDepth, hd]
          exact if_pos hsome
        · rw [Option.bind_some, hd, Option.bind_some, Option.bind_some, hof.depth]
      · cases h

end Parts

/-! ### Making resources -/

/-- The recorder goes on with the device. -/
def Goes (l : History) (o : Outline) (r : Recorder) (c : GraphicsDevice.Command)
    (answer : Option ResourceId) : Prop :=
  ∃ r', r.Accepts c answer r' ∧ Follows (l ++ [(c, answer)]) o r'

namespace Follows

/-- A command that changed nothing the two are compared by. -/
theorem append (hf : Follows l o r) (x : GraphicsDevice.Command × Option ResourceId) :
    Follows (l ++ [x]) o r :=
  { hf with
    passes := hf.passes.mono fun _ _ _ _ hp ↦ hp.append
    aged := hf.aged.mono (by simp) }

theorem enrolls (hf : Follows l o r) (kind : ResourceKind) : r.Enrolls kind := by
  simp [Recorder.Enrolls, hf.failAt]

theorem idle (hf : Follows l o r) (ho : o.active = none) : r.active = none := by
  have ha := hf.active
  rw [ho] at ha
  rcases hr : r.active with _ | b
  · rfl
  · rw [hr] at ha
    cases ha

theorem inside (hf : Follows l o r) (ho : o.active = some a) :
    ∃ b, r.active = some b ∧ a.Matches r.passes b := by
  have ha := hf.active
  rw [ho] at ha
  rcases hr : r.active with _ | b <;> rw [hr] at ha <;> cases ha
  exact ⟨b, rfl, ‹_›⟩

/-- What is known of the recorder's pass may be known in another way. -/
theorem rel (hf : Follows l o r) {R : ActivePass → Recorder.ActivePass → Prop}
    (h : ∀ {a} b, a.Matches r.passes b → R a b) : Option.Rel R o.active r.active := by
  have ha := hf.active
  generalize o.active = x at ha ⊢
  generalize r.active = y at ha ⊢
  cases ha with
  | none => exact .none
  | some hab => exact .some (h _ hab)

theorem createTexture {d : TextureDesc} {t : Texture} {id : TextureId} {textures : TextureMap}
    (hf : Follows l o r) (valid : d.validate = .ok ()) (made : t.IsOf d)
    (unresolved : t.resolved = false) (stored : o.textures.insert? t = some (id, textures)) :
    Goes l { o with textures } r (.createTexture d) (some (.texture id)) := by
  obtain ⟨n, hi, hpar⟩ := hf.textures.insert? stored ⟨made, by simp [unresolved]⟩
  exact ⟨_, .createTexture valid (hf.enrolls _) hi, { hf with
    textures := hpar
    passes := hf.passes.mono fun _ _ _ _ hp ↦ (hp.insert? hi).append
    aged := by simpa using hf.aged.insert? hi }⟩

theorem createMesh {d : MeshDesc} {m : Mesh} {id : MeshId}
    {meshes : Slot.Map ResourceKind.mesh Mesh} (hf : Follows l o r) (valid : d.validate = .ok ())
    (made : m.groups = d.groups) (stored : o.meshes.insert? m = some (id, meshes)) :
    Goes l { o with meshes } r (.createMesh d) (some (.mesh id)) := by
  obtain ⟨n, hi, hpar⟩ := hf.meshes.insert? stored made
  exact ⟨_, .createMesh valid (hf.enrolls _) hi, { hf.append _ with meshes := hpar }⟩

theorem createShader {d : ShaderDesc} {s : Shader} {id : ShaderId}
    {shaders : Slot.Map ResourceKind.shader Shader} (hf : Follows l o r)
    (valid : d.validate = .ok ()) (stored : o.shaders.insert? s = some (id, shaders)) :
    Goes l { o with shaders } r (.createShader d) (some (.shader id)) := by
  obtain ⟨n, hi, hpar⟩ := hf.shaders.insert? (b := d) stored trivial
  exact ⟨_, .createShader valid (hf.enrolls _) hi, { hf.append _ with shaders := hpar }⟩

theorem createPipeline {d : PipelineDesc} {p : Pipeline} {id : PipelineId}
    {pipelines : Slot.Map ResourceKind.pipeline Pipeline} (hf : Follows l o r)
    (valid : d.validate = .ok ()) (shader : o.shaders.contains d.shader)
    (made : p.signature = d.signature) (stored : o.pipelines.insert? p = some (id, pipelines)) :
    Goes l { o with pipelines } r (.createPipeline d) (some (.pipeline id)) := by
  obtain ⟨n, hi, hpar⟩ := hf.pipelines.insert? stored made
  have hshader : r.shaders.contains d.shader := hf.shaders.twins.contains_iff.2 shader
  exact ⟨_, .createPipeline valid hshader (hf.enrolls _) hi, { hf.append _ with pipelines := hpar }⟩

/-- A pass that was made of parts that fit matches its description. -/
theorem matches_of_fit {d : PassDesc} {parts : Pass.Parts} {p : Pass} {id : PassId}
    (hf : Follows l o r) (fit : parts.Fit d o.textures) (made : p.IsOf d parts)
    (hmem : (.createPass d, some (.pass id)) ∈ l) : p.Matches l r.textures id d := by
  obtain ⟨rest, hcolors, -⟩ := fit.alike
  have hfound := exists_of_colorTextures fit.colors
  obtain ⟨-, halive, hdepth⟩ := checkDepth_of_depthTexture hf.textures fit.depth
  refine ⟨hmem, made.textures, fun hnil ↦ ?_, fun hp ↦ fit.store (made.resolves ▸ hp), ?_,
    fun t ht ↦ ?_, fun t ht u hu ↦ ?_, fun _ ↦ ?_⟩
  · have hnone : Pass.colorTextures o.textures 0 [] = .ok parts.colors := hnil ▸ fit.colors
    rw [hcolors] at hnone
    cases hnone
  · rw [made.signature]
  · rcases ht with ht | ht
    · obtain ⟨x, -, hget⟩ := hfound t ht
      obtain ⟨d, hd, -⟩ := hf.textures.exists_get? hget
      exact knows_of_get? hd
    · obtain ⟨d, hd⟩ := halive t ht
      exact knows_of_get? hd
  · obtain ⟨x, hx, hget⟩ := hfound t ht
    obtain ⟨-, hsamples, hformat⟩ := isLike_iff.1 (fit.isLike x hx)
    obtain ⟨hof, -⟩ := hf.textures.related t x u hget hu
    rw [made.signature]
    exact ⟨hof.format.symm.trans hformat, hof.samples.symm.trans hsamples⟩
  · rw [made.signature, hdepth]

theorem createPass {d : PassDesc} {parts : Pass.Parts} {p : Pass} {id : PassId}
    {passes : Slot.Map ResourceKind.pass Pass} (hf : Follows l o r)
    (valid : d.validate o.capabilities.maxColors = .ok ()) (fit : parts.Fit d o.textures)
    (made : p.IsOf d parts) (stored : o.passes.insert? p = some (id, passes)) :
    Goes l { o with passes } r (.createPass d) (some (.pass id)) := by
  have hnext := hf.append (.createPass d, some (.pass id))
  have hattach : r.checkAttachments none d.textures = .ok () :=
    checkAttachments_of_colorTextures hf.textures fit.colors fit.isLike nofun
  have hcheck : r.checkDepth d.depth = .ok () :=
    (checkDepth_of_depthTexture hf.textures fit.depth).1
  obtain ⟨n, hi, hpar⟩ := hnext.passes.insert? stored
    (hnext.matches_of_fit fit made (List.mem_append_right _ List.mem_cons_self))
  refine ⟨_, .createPass (hf.maxColors ▸ valid) hattach hcheck (hf.enrolls _) hi, { hnext with
    passes := hpar
    active := hf.rel fun _ hb ↦ hb.mono fun _ _ ↦ get?_insert?_of_get? hi }⟩

/-! ### Releasing resources -/

theorem destroy {id : ResourceId} (hf : Follows l o r) (hlt : l.length + 1 < UInt32.size)
    (idle : o.active = none) (removed : o.remove? id = some o') :
    Goes l o' r (.destroy id) none := by
  have hidle := hf.idle idle
  have hrel : ∀ {R : ActivePass → Recorder.ActivePass → Prop}, Option.Rel R o.active r.active := by
    rw [idle, hidle]
    exact .none
  cases id with
  | texture h =>
    obtain ⟨⟨t, textures⟩, hr, rfl⟩ := Option.map_eq_some_iff.1 removed
    obtain ⟨d, n, hr', hpar⟩ := hf.textures.remove hr
    exact ⟨_, .destroy (Option.map_eq_some_iff.2 ⟨_, hr', rfl⟩), { hf with
      textures := hpar
      passes := hf.passes.mono fun _ _ _ _ hp ↦ hp.remove hf.aged hlt hr'
      aged := by simpa using hf.aged.remove hlt hr' }⟩
  | mesh h =>
    obtain ⟨⟨m, meshes⟩, hr, rfl⟩ := Option.map_eq_some_iff.1 removed
    obtain ⟨d, n, hr', hpar⟩ := hf.meshes.remove hr
    exact ⟨_, .destroy (Option.map_eq_some_iff.2 ⟨_, hr', rfl⟩), { hf.append _ with
      meshes := hpar }⟩
  | shader h =>
    obtain ⟨⟨s, shaders⟩, hr, rfl⟩ := Option.map_eq_some_iff.1 removed
    obtain ⟨d, n, hr', hpar⟩ := hf.shaders.remove hr
    exact ⟨_, .destroy (Option.map_eq_some_iff.2 ⟨_, hr', rfl⟩), { hf.append _ with
      shaders := hpar }⟩
  | pipeline h =>
    obtain ⟨⟨p, pipelines⟩, hr, rfl⟩ := Option.map_eq_some_iff.1 removed
    obtain ⟨d, n, hr', hpar⟩ := hf.pipelines.remove hr
    exact ⟨_, .destroy (Option.map_eq_some_iff.2 ⟨_, hr', rfl⟩), { hf.append _ with
      pipelines := hpar }⟩
  | pass h =>
    obtain ⟨⟨p, passes⟩, hr, rfl⟩ := Option.map_eq_some_iff.1 removed
    obtain ⟨d, n, hr', hpar⟩ := (hf.append (.destroy (.pass h), none)).passes.remove hr
    exact ⟨_, .destroy (Option.map_eq_some_iff.2 ⟨_, hr', rfl⟩), { hf.append _ with
      passes := hpar
      active := hrel }⟩

/-! ### Passes -/

/-- The recorder begins the pass that the device begins. -/
theorem begins (hf : Follows l o r) {pass : Option PassId} {action : PassAction}
    (hd : KeepsDepth (l ++ [(.beginPass pass action, none)])) (begins : o.Begins pass a) :
    ∃ b colors, r.begins pass action = .ok (b, colors) ∧ a.Matches r.passes b := by
  cases pass with
  | none =>
    refine ⟨_, _, rfl, ?_, begins.attachments.symm, ?_, ?_, ?_⟩
    · exact hf.display.trans begins.signature.symm
    · simp [begins.pipeline]
    · simp [begins.mesh]
    · simp [begins.resolves]
  | some id =>
    obtain ⟨p, hp, halive, henters⟩ := begins
    obtain ⟨d, hget, hmatches⟩ := hf.passes.exists_get? hp
    obtain ⟨head, rest, htextures⟩ := List.exists_cons_of_ne_nil hmatches.nonempty
    have hhead : head ∈ d.textures := htextures ▸ List.mem_cons_self
    obtain ⟨t, ht⟩ : ∃ t, o.textures.get? head = some t :=
      Option.isSome_iff_exists.1 (halive head (hmatches.textures_eq ▸ hhead))
    obtain ⟨first, hfirst, -⟩ := hf.textures.exists_get? ht
    obtain ⟨hformat, hsamples⟩ := hmatches.color head hhead first hfirst
    have hdepth := hmatches.depth fun t ht ↦ hd l id action none [] d t rfl hmatches.made ht
    refine ⟨_, _, Recorder.beginOffscreen_eq_ok_iff.2
      ⟨d, head, rest, first, hget, htextures, hfirst, rfl⟩, ?_, ?_, ?_, ?_, ?_⟩
    · rw [henters.signature, hformat, hsamples, hdepth, ← hmatches.colorCount]
    · rw [henters.attachments, hmatches.textures_eq]
    · simp [henters.pipeline]
    · simp [henters.mesh]
    · exact fun hr ↦ ⟨id, d, rfl, hget, hmatches.store (henters.resolves ▸ hr)⟩

theorem beginPass (hf : Follows l o r) {pass : Option PassId} {action : PassAction}
    (hd : KeepsDepth (l ++ [(.beginPass pass action, none)])) (idle : o.active = none)
    (begins : o.Begins pass a) :
    Goes l { o with active := some a } r (.beginPass pass action) none := by
  obtain ⟨b, colors, hb, hmatches⟩ := hf.begins hd begins
  exact ⟨_, .beginPass (hf.idle idle) hb, { hf.append _ with active := .some hmatches }⟩

theorem endPass (hf : Follows l o r) (inside : o.active = some a) :
    Goes l (o.ended a) r .endPass none := by
  obtain ⟨b, hb, hmatches⟩ := hf.inside inside
  refine ⟨_, .endPass hb, { hf.append _ with
    textures := ?_
    active := .none }⟩
  have hresolves : a.resolves = true → r.resolvesAtEnd b = true := by
    intro ha
    obtain ⟨id, d, hid, hget, hstore⟩ := hmatches.store ha
    simp [Recorder.resolvesAtEnd, hid, hget, hstore]
  have hmore : Parallel (Texture.Matches (if r.resolvesAtEnd b then
      r.resolved ++ b.attachments else r.resolved)) o.textures r.textures :=
    hf.textures.mono fun _ _ _ _ ht ↦ ⟨ht.1, fun hres ↦ ?_⟩
  · rw [Outline.ended]
    by_cases ha : a.resolves
    · rw [if_pos ha]
      refine parallel_markResolved hmore fun id hid ↦ ?_
      rw [if_pos (hresolves ha), hmatches.attachments]
      exact List.mem_append_right _ hid
    · rw [if_neg ha]
      exact hmore
  · split
    · exact List.mem_append_left _ (ht.2 hres)
    · exact ht.2 hres

theorem commitFrame (hf : Follows l o r) (idle : o.active = none) : Goes l o r .commitFrame none :=
  ⟨_, .commitFrame (hf.idle idle), { hf.append _ with }⟩

theorem requestQuit (hf : Follows l o r) : Goes l o r .requestQuit none :=
  ⟨_, .requestQuit, { hf.append _ with }⟩

/-! ### Inside a pass -/

theorem samples (hf : Follows l o r) {id : TextureId} (h : o.Samples id) : r.Samples id := by
  obtain ⟨t, ht, hsampleable⟩ := h
  obtain ⟨d, hd, hof, hresolved⟩ := hf.textures.exists_get? ht
  refine ⟨d, hd, fun hgt ↦ hresolved ?_⟩
  rw [Texture.isSampleable, Bool.and_eq_true, Bool.or_eq_true, beq_iff_eq,
    hof.samples] at hsampleable
  refine hsampleable.2.resolve_left fun hone ↦ ?_
  rw [hone] at hgt
  exact absurd hgt (by decide)

theorem applyViewport (hf : Follows l o r) {rect : Rect} {topLeft : Bool}
    (inside : o.active = some a) : Goes l o r (.applyViewport rect topLeft) none :=
  have ⟨_, hb, _⟩ := hf.inside inside
  ⟨_, .applyViewport hb, { hf.append _ with }⟩

theorem fillRects (hf : Follows l o r) {color : Vec4} {rects : List Rect}
    (inside : o.active = some a) : Goes l o r (.fillRects color rects) none :=
  have ⟨_, hb, _⟩ := hf.inside inside
  ⟨_, .fillRects hb, { hf.append _ with }⟩

theorem applyDrawState (hf : Follows l o r) {state : DrawState} {p : Pipeline} {m : Mesh}
    (inside : o.active = some a) (pipeline : o.pipelines.get? state.pipeline = some p)
    (mesh : o.meshes.get? state.mesh = some m) (sampled : ∀ id ∈ state.textures, o.Samples id)
    (apart : ∀ id ∈ state.textures, id ∉ a.attachments) (fits : p.signature = a.signature) :
    Goes l { o with active := some { a with
      pipeline := some state.pipeline, mesh := some state.mesh } }
      r (.applyDrawState state) none := by
  obtain ⟨b, hb, hmatches⟩ := hf.inside inside
  obtain ⟨d, hd, hsignature⟩ := hf.pipelines.exists_get? pipeline
  obtain ⟨e, he, -⟩ := hf.meshes.exists_get? mesh
  refine ⟨_, .applyDrawState hb hd (Option.isSome_iff_exists.2 ⟨e, he⟩)
    (fun id hid ↦ hf.samples (sampled id hid)) ?_ ?_, { hf.append _ with active := .some ?_ }⟩
  · exact hmatches.attachments ▸ apart
  · rw [← hsignature, fits, hmatches.signature]
  · exact { hmatches with
      pipeline := fun _ _ ↦ rfl
      mesh := by rintro _ ⟨⟩; exact ⟨state, rfl, rfl⟩ }

theorem applyUniforms (hf : Follows l o r) {stage : ShaderStage} {data : List UInt8}
    {id : PipelineId} (inside : o.active = some a) (bound : a.pipeline = some id) :
    Goes l o r (.applyUniforms stage data) none :=
  have ⟨_, hb, hmatches⟩ := hf.inside inside
  ⟨_, .applyUniforms hb (hmatches.pipeline id bound), { hf.append _ with }⟩

theorem draw (hf : Follows l o r) {group : ℕ} {id : MeshId} {m : Mesh}
    (inside : o.active = some a) (bound : a.mesh = some id) (mesh : o.meshes.get? id = some m)
    (group_lt : group < m.groups.length) : Goes l o r (.draw group) none := by
  obtain ⟨b, hb, hmatches⟩ := hf.inside inside
  obtain ⟨state, hstate, rfl⟩ := hmatches.mesh id bound
  obtain ⟨d, hd, hgroups⟩ := hf.meshes.exists_get? mesh
  refine ⟨_, .draw hb hstate ?_, { hf.append _ with }⟩
  rw [hd, Option.elim_some, ← hgroups]
  exact group_lt

/-! ### All commands -/

/-- **What a device takes a recorder takes**, and answers the same, unless a pass is begun after the
texture of its depth buffer was released or the versions of a slot start over. -/
theorem step (hf : Follows l o r) (hlt : l.length + 1 < UInt32.size)
    (hd : KeepsDepth (l ++ [(c, answer)])) (h : o.Accepts c answer o') : Goes l o' r c answer := by
  cases h with
  | createTexture valid made unresolved stored =>
    exact hf.createTexture valid made unresolved stored
  | createMesh valid made stored => exact hf.createMesh valid made stored
  | createShader valid stored => exact hf.createShader valid stored
  | createPipeline valid shader made stored => exact hf.createPipeline valid shader made stored
  | createPass valid fit made stored => exact hf.createPass valid fit made stored
  | destroy idle removed => exact hf.destroy hlt idle removed
  | beginPass idle begins => exact hf.beginPass hd idle begins
  | applyViewport inside => exact hf.applyViewport inside
  | applyDrawState inside pipeline mesh sampled apart fits =>
    exact hf.applyDrawState inside pipeline mesh sampled apart fits
  | applyUniforms inside bound => exact hf.applyUniforms inside bound
  | draw inside bound mesh group_lt => exact hf.draw inside bound mesh group_lt
  | fillRects inside => exact hf.fillRects inside
  | endPass inside => exact hf.endPass inside
  | commitFrame idle => exact hf.commitFrame idle
  | requestQuit => exact hf.requestQuit

end Follows

end RenderTargets.Vulkan
