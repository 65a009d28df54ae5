import RenderTargets.Proofs.Device.Fetches
import RenderTargets.Proofs.Vulkan.Device.Evident
import RenderTargets.Proofs.Vulkan.Device.InPass
import RenderTargets.Proofs.Vulkan.Device.Serving
/-!
# What a draw reads

While a pass is recorded, the buffers of its mesh are bound in the buffer of the slot in use
(`Device.IsFed`): they are bound with the draw state, as are other things that are `Bindable`.

So every draw is of a group of a mesh that was made of a description (`Reached.exists_reads`), and
from the buffers that were made for its data. The range of the group is within that data. So are the
vertices, if their numbers are those of vertices of the mesh and the pipeline takes rows that are no
longer than those of the mesh. The device looks at neither. A mesh with an index past its vertices
is drawn like any other, and so is a mesh with rows that are too short (`readsPast_strayQuad`).
-/

namespace RenderTargets.Vulkan

open StepWith GraphicsDevice

variable {m : Mesh} {p : Pipeline} {r : Recorded} {held : List Recorded} {calls : List Call}

/-! ### Buffers that are bound -/

/-- The vertices that were bound last. -/
def verticesOf : List Recorded → Option (Object .buffer)
  | [] => none
  | .bindVertices buffer :: _ => some buffer
  | _ :: past => verticesOf past

/-- The indices that were bound last, and how they are stored. -/
def indicesOf : List Recorded → Option (Object .buffer × Code)
  | [] => none
  | .bindIndices buffer type :: _ => some (buffer, type)
  | _ :: past => indicesOf past

/-- The buffers of the mesh are bound. -/
structure Mesh.IsBound (m : Mesh) (held : List Recorded) : Prop where
  /-- The vertices. -/
  vertices : verticesOf held = some m.vertices.buffer
  /-- The indices, if there are any. -/
  indices : ∀ u code, m.indices = some (u, code) → indicesOf held = some (u.buffer, code)

instance : Decidable (m.IsBound held) :=
  decidable_of_iff (verticesOf held = some m.vertices.buffer ∧
      ∀ i ∈ m.indices, indicesOf held = some (i.1.buffer, i.2))
    ⟨fun h ↦ ⟨h.1, fun u code hi ↦ h.2 (u, code) hi⟩, fun h ↦ ⟨h.1, fun i hi ↦ h.2 i.1 i.2 hi⟩⟩

namespace Mesh.IsBound

/-- A command that binds nothing leaves the mesh bound. -/
theorem plain (h : m.IsBound held) (hr : r.IsPlain) : m.IsBound (r :: held) := by
  cases r with
  | viewport | scissor | pushConstants | draw | drawIndexed | clearAttachments =>
    exact ⟨h.vertices, h.indices⟩
  | _ => exact hr.elim

/-- A mesh is bound by its own commands. -/
theorem of_binds : m.IsBound (m.binds ++ .bindPipeline p.pipeline :: held) := by
  rw [Mesh.binds]
  refine ⟨?_, fun u code hindices ↦ ?_⟩
  · cases m.indices <;> rfl
  · rw [hindices]
    rfl

end Mesh.IsBound

namespace Device

variable {t : Device × Host}

/-- The mesh of a pass with a target is there, and its buffers are bound. -/
def IsFed (s : Device × Host) : Prop :=
  ∀ a id, s.1.active = some a → a.recording = true → a.mesh = some id → ∃ f m,
    s.1.slots[s.1.slotIndex]? = some f ∧ s.1.meshes.get? id = some m ∧
      m.IsBound (contents f.commands s.2.driver.calls)

/-- The meshes of draw states. -/
def boundMesh : Bindable MeshId Mesh where
  used a := a.mesh
  found d := d.meshes.get?
  bound := Mesh.IsBound
  stays hmeshes _ := hmeshes
  plain hr h := h.plain hr
  set h := ⟨h.vertices, h.indices⟩
  begins hunused hid := by cases hid.symm.trans hunused.2
  binds hfits hid := by
    cases Option.some.inj hid
    exact ⟨_, hfits.mesh, .of_binds⟩

/-- **Every device that is reached is fed.** -/
theorem Reached.isFed {l : List (GraphicsDevice.Command × Option ResourceId)} (h : Reached l t) :
    IsFed t :=
  h.isBound boundMesh

/-! ### Draws -/

/-- The command that draws a group of a mesh. -/
def drawOf (desc : MeshDesc) (g : Group) : Recorded :=
  if desc.indexType = .absent then .draw g.count g.base else .drawIndexed g.count g.base

/-- The draw reads a group of a mesh with a pipeline. -/
structure Reads (m : Mesh) (desc : MeshDesc) (g : Group) (info : PipelineInfo)
    (b : Object .commandBuffer) (r : Recorded) (calls : List Call) : Prop where
  /-- The mesh was made of the description. -/
  comes : m.ComesOf desc calls
  /-- The group is one of its own. -/
  group : g ∈ desc.groups
  /-- The group is what is drawn. -/
  draw : r = drawOf desc g
  /-- The buffers of the mesh are bound. -/
  bound : m.IsBound (contents b calls)
  /-- So is the pipeline, which was made so. -/
  pipeline : (pipelineOf (contents b calls)).bind (Making.pipeline.of? · calls) = some info

theorem drawOf_of_isMadeOf {desc : MeshDesc} (h : m.IsMadeOf desc calls) (g : Group) :
    drawOf desc g =
      if m.indices.isSome then .drawIndexed g.count g.base else .draw g.count g.base := by
  have hsome : m.indices.isSome = (indexTypeCode? desc.indexType).isSome := by
    rw [← h.type, Option.isSome_map]
  rw [hsome, drawOf]
  cases desc.indexType <;> rfl

/-- **Every draw reads a mesh with a pipeline**, from the buffers that the mesh was made with. -/
theorem Reached.exists_reads {l : List (GraphicsDevice.Command × Option ResourceId)}
    {later past : List Call} {b : Object .commandBuffer} (h : Reached l t)
    (hcalls : t.2.driver.calls = later ++ .record b r :: past) (hr : r.IsDraw) :
    ∃ m desc g info, Reads m desc g info b r past := by
  obtain ⟨l', after, s, uploads, slots, base, group, rfl, hs, rfl, hturn, hdraws⟩ :=
    h.exists_draws hcalls hr
  have hpipeline : ∃ info, (pipelineOf (contents b s.2.driver.calls)).bind
      (Making.pipeline.of? · s.2.driver.calls) = some info := by
    obtain ⟨a, p, hdrawing⟩ := hs.inPass.drawing hdraws hturn
    obtain ⟨id, -, hfound⟩ := hdrawing.pipeline
    obtain ⟨info, hinfo, -⟩ := (hs.evident.pipelines hfound).made
    refine ⟨info, ?_⟩
    rw [hdrawing.bound, Option.bind_some]
    exact (Books.fair hs.sound.2).of?_eq_some_iff.2 hinfo
  obtain ⟨info, hinfo⟩ := hpipeline
  have hframe : s.1.frame.isSome = true := by
    cases hdraws with
    | intro ha => exact hs.inPass.framed (ha ▸ rfl)
  obtain ⟨a, f, ha, hrecording, hslot, hf⟩ :=
    Draws.recording (d := s.1) (k := s.2) hdraws hturn hframe
  cases hdraws with
  | @intro a' _ _ mid m g f' _ ha' _ _ hmid hm hg =>
    obtain rfl := Option.some.inj (ha.symm.trans ha')
    obtain ⟨f'', m', hslot', hm', hbound⟩ := hs.isFed a mid ha hrecording hmid
    obtain rfl := Option.some.inj (hslot.symm.trans hslot')
    obtain rfl := Option.some.inj (hm.symm.trans hm')
    obtain ⟨desc, hcomes⟩ := hs.sourced.meshes hm
    have hmade := hcomes.isMadeOf
    exact ⟨m, desc, g, info, hcomes, hmade.groups ▸ List.mem_of_getElem? hg,
      (drawOf_of_isMadeOf hmade g).symm, hf ▸ hbound, hinfo⟩

/-- **A draw is recorded within its data.** The group that is drawn ends within the indices of the
mesh, or within its vertices if it has no indices. If the rows that the pipeline takes are no longer
than those of the mesh, then every vertex that is fetched is read within the vertices of the mesh,
provided that its number, if it is from an index, is that of a vertex of the mesh. -/
theorem inBounds_of_draw {l : List (GraphicsDevice.Command × Option ResourceId)}
    {later past : List Call} {b : Object .commandBuffer} (h : Reached l t)
    (hcalls : t.2.driver.calls = later ++ .record b r :: past) (hr : r.IsDraw) :
    ∃ m desc g info, Reads m desc g info b r past ∧ m.IsMadeOf desc past ∧
      desc.InBounds g info.vertices.binding.stride.toNat := by
  obtain ⟨m, desc, g, info, hreads⟩ := h.exists_reads hcalls hr
  have hmade := hreads.comes.isMadeOf
  exact ⟨m, desc, g, info, hreads, hmade,
    (MeshDesc.validate_eq_ok_iff.1 hmade.valid).inBounds hreads.group _⟩

/-- A mesh is drawn to the screen, with a pipeline that takes rows of a layout. -/
def meshDraw (mesh : MeshDesc) (layout : VertexLayout) : List GraphicsDevice.Command :=
  [.createMesh mesh, .createShader plainShader,
   .createPipeline { plainPipeline ⟨1, .bgra8Unorm, some screenDepthFormat, 1⟩ with layout },
   .beginPass none {}, .applyDrawState ⟨⟨1, 1⟩, ⟨1, 1⟩, []⟩, .draw 0]

/-- A quad is drawn from its four vertices. -/
theorem inBounds_of_quadDraw :
    ∃ l past, ∃ t : Device × Host, Reached l t ∧
      t.2.driver.calls = .record ⟨1⟩ (.drawIndexed 6 0) :: past ∧
      ∃ m desc g info, Reads m desc g info ⟨1⟩ (.drawIndexed 6 0) past ∧ m.IsMadeOf desc past ∧
        desc.InBounds g info.vertices.binding.stride.toNat := by
  obtain ⟨s, hs, hcheck⟩ := exists_new plainSurface []
    (fun s ↦ (settleAll ((meshDraw (.fullScreenQuad true) (MeshDesc.fullScreenQuad true).layout).map
      GraphicsDevice.Command.answer) s).any
        fun t ↦ t.2.driver.calls.head? == some (.record ⟨1⟩ (.drawIndexed 6 0))) (by decide +kernel)
  obtain ⟨t, ht, hdraw⟩ := GraphicsDevice.exists_accepted IsNew Happens hs hcheck
  obtain ⟨past, hcalls⟩ := List.head?_eq_some_iff.1 (eq_of_beq hdraw)
  have hlast : t.2.driver.calls = [] ++ .record ⟨1⟩ (.drawIndexed 6 0) :: past := hcalls
  exact ⟨_, past, t, ht, hcalls, inBounds_of_draw ht hlast trivial⟩

/-! ### Draws that read past the end -/

/-- A draw of the mesh fetches a vertex that is not in the data. -/
def ReadsPast (mesh : MeshDesc) : Prop :=
  ∃ l, ∃ t : Device × Host, ∃ b g past m info, Reached l t ∧
    t.2.driver.calls = .record b (drawOf mesh g) :: past ∧
    Reads m mesh g info b (drawOf mesh g) past ∧
    ∃ v ∈ mesh.fetched g, mesh.vertexData.length < (v + 1) * info.vertices.binding.stride.toNat

/-- The mesh is what is made first, and the last call draws the group of it in rows of the
stride. -/
def drew (mesh : MeshDesc) (g : Group) (stride : UInt32) (s t : Device × Host) : Bool :=
  match Mesh.create mesh s.2, t.2.driver.calls with
  | .ok m k, c :: past =>
    c == .record ⟨1⟩ (drawOf mesh g) && (decide (k.driver.calls <:+ past) &&
      (decide (m.IsBound (contents ⟨1⟩ past)) &&
        ((pipelineOf (contents ⟨1⟩ past)).bind (Making.pipeline.of? · past)).any
          (·.vertices.binding.stride == stride)))
  | _, _ => false

theorem readsPast_of_drew {mesh : MeshDesc} (layout : VertexLayout) (g : Group) (stride : UInt32)
    (v : ℕ) (hg : g ∈ mesh.groups) (hv : v ∈ mesh.fetched g)
    (hpast : mesh.vertexData.length < (v + 1) * stride.toNat)
    (hnew : ∃ s, IsNew s ∧ (settleAll ((meshDraw mesh layout).map GraphicsDevice.Command.answer)
      s).any (drew mesh g stride s)) : ReadsPast mesh := by
  obtain ⟨s, hs, hcheck⟩ := hnew
  obtain ⟨t, ht, hdrew⟩ := GraphicsDevice.exists_accepted IsNew Happens hs hcheck
  rw [drew] at hdrew
  split at hdrew
  · next m k c past hmade hcalls =>
    simp only [Bool.and_eq_true, decide_eq_true_eq] at hdrew
    obtain ⟨hdraw, hsuffix, hbound, hpipeline⟩ := hdrew
    obtain ⟨info, hinfo, hstride⟩ := (Option.any_eq_true _ _).1 hpipeline
    obtain rfl := eq_of_beq hdraw
    obtain rfl := eq_of_beq hstride
    have hreads : Reads m mesh g info ⟨1⟩ (drawOf mesh g) past :=
      ⟨⟨s.2, k, hmade, hsuffix⟩, hg, rfl, hbound, hinfo⟩
    exact ⟨_, t, ⟨1⟩, g, past, m, info, ht, hcalls, hreads, v, hv, hpast⟩
  · cases hdrew

/-- A quad one of whose indices is of a fifth vertex. -/
def strayQuad : MeshDesc :=
  { MeshDesc.fullScreenQuad true with indexData := [0, 2, 1, 1, 2, 4].flatMap Word.shortBytes }

/-- A triangle without indices whose vertices are positions only. -/
def thinTriangle : MeshDesc :=
  { MeshDesc.empty with
    name := "thin"
    layout := [⟨.position, .pair⟩]
    vertexCount := 3
    vertexData := List.replicate 24 0
    groups := [⟨0, 3⟩] }

/-- An index leads past the end of the vertices, and so do rows that are longer than those of the
mesh. -/
theorem readsPast_strayQuad : ReadsPast strayQuad ∧ ReadsPast thinTriangle := by
  constructor
  · exact readsPast_of_drew strayQuad.layout ⟨0, 6⟩ 16 4 (by decide) (by decide) (by decide)
      (exists_new plainSurface [] _ (by decide +kernel))
  · exact readsPast_of_drew strayQuad.layout ⟨0, 3⟩ 16 2 (by decide) (by decide) (by decide)
      (exists_new plainSurface [] _ (by decide +kernel))

end Device

end RenderTargets.Vulkan
