import RenderTargets.Proofs.Shape.Mesh
import RenderTargets.Vulkan.VertexInput
/-!
# What a pipeline reads of generated vertices

The bytes of a vertex are those of its components, one after another, each as long as its format
says. A pipeline is told to read a component behind as many bytes as those before it have. So what
it reads for a component of a vertex is what was written for it
(`ShapeBuilder.slice_vertexData`), whatever the order of the components is, and however often they
occur.

Numbers of formats are those of the interface: 37 and 38 are four bytes, 100, 103, 106 and 109 one
to four singles (`Vulkan.formatBytes`).
-/

namespace RenderTargets

namespace VertexLayout

variable {l l' : VertexLayout} {c : VertexComponent} {i : ℕ}

theorem span_append : span (l ++ l') = span l + span l' := by
  simp only [span, List.map_append]
  exact List.sum_append

theorem span_cons : span (c :: l) = c.format.size + span l := rfl

theorem span_take_le : span (l.take i) ≤ span l := by
  conv_rhs => rw [← List.take_append_drop i l]
  rw [span_append]
  exact Nat.le_add_right _ _

/-- A component ends before the next one, or the end of the vertex. -/
theorem span_take_add_size_le (h : l[i]? = some c) :
    span (l.take i) + c.format.size ≤ span l := by
  obtain ⟨hi, rfl⟩ := List.getElem?_eq_some_iff.1 h
  conv_rhs => rw [← List.take_append_drop i l, List.drop_eq_getElem_cons hi]
  rw [span_append, span_cons]
  omega

end VertexLayout

namespace Vulkan

open VertexLayout

/-- Bytes of the vertex format with a number: four bytes, or one to four singles. -/
def formatBytes : Code → ℕ
  | 37 | 38 => 4
  | 100 => 4
  | 103 => 8
  | 106 => 12
  | 109 => 16
  | _ => 0

theorem formatBytes_vertexFormatCode (f : VertexFormat) :
    formatBytes (vertexFormatCode f) = f.size := by
  cases f <;> rfl

/-- What an attribute takes from the data for a vertex. -/
def VertexInput.fetch (input : VertexInput) (data : List UInt8) (v : ℕ) (a : VertexAttribute) :
    List UInt8 :=
  (data.drop (v * input.binding.stride.toNat + a.offset.toNat)).take (formatBytes a.format)

/-- The bytes of an attribute within a vertex. -/
def VertexAttribute.span (a : VertexAttribute) : List ℕ :=
  List.range' a.offset.toNat (formatBytes a.format)

/-- The attribute of a component of a layout. -/
def attributeOf (layout : VertexLayout) (c : VertexComponent) (i : ℕ) : VertexAttribute :=
  ⟨attrLocation c.attr, 0, vertexFormatCode c.format, .ofNat (VertexLayout.span (layout.take i))⟩

variable {layout rest done : VertexLayout} {i : ℕ} {c : VertexComponent}

/-- A layout with a stride has an attribute for each component. -/
theorem vertexAttributes?_eq (h : layout.span < UInt32.size)
    (hi : i + rest.length ≤ layout.length) : vertexAttributes? layout i rest =
      some ((rest.zipIdx i).map fun c ↦ attributeOf layout c.1 c.2) := by
  induction rest generalizing i with
  | nil => rfl
  | cons c rest ih =>
    rw [List.length_cons] at hi
    have hoffset : layout.offset? i = some (.ofNat (span (layout.take i))) := by
      rw [offset?, if_pos (by omega)]
      exact if_pos (span_take_le.trans_lt h)
    rw [vertexAttributes?, hoffset, ih (by omega)]
    rfl

theorem vertexInput?_eq (h : layout.span < UInt32.size) : vertexInput? layout =
    some ⟨⟨0, .ofNat layout.span, 0⟩, layout.zipIdx.map fun c ↦ attributeOf layout c.1 c.2⟩ := by
  rw [vertexInput?, ShapeBuilder.stride?_eq_some h, vertexAttributes?_eq h (by omega)]
  rfl

theorem toNat_offset_attributeOf (h : layout.span < UInt32.size) :
    (attributeOf layout c i).offset.toNat = span (layout.take i) :=
  UInt32.toNat_ofNat_of_lt' (span_take_le.trans_lt h)

/-- The attributes follow one another. -/
theorem flatMap_span_attributes (h : layout.span < UInt32.size) (hlayout : layout = done ++ rest) :
    (rest.zipIdx done.length).flatMap (fun c ↦ (attributeOf layout c.1 c.2).span) =
      List.range' done.span rest.span := by
  induction rest generalizing done with
  | nil => rfl
  | cons c rest ih =>
    have hspan : (attributeOf layout c done.length).span =
        List.range' (VertexLayout.span done) c.format.size := by
      rw [VertexAttribute.span, toNat_offset_attributeOf h, hlayout, List.take_left, attributeOf,
        formatBytes_vertexFormatCode]
    have hrest := ih (show layout = (done ++ [c]) ++ rest by simp [hlayout])
    rw [List.length_append, List.length_singleton, span_append, span_cons] at hrest
    rw [List.zipIdx_cons, List.flatMap_cons, hspan, hrest, span_cons]
    exact List.range'_append_1

/-- The vertices of boxes are where a pipeline reads them. -/
structure VertexInput.Reads (input : VertexInput) (b : ShapeBuilder) (m : MeshDesc) : Prop where
  /-- The vertices of the mesh are counted in a word. -/
  vertexCount : m.vertexCount = .ofNat b.vertices.length
  /-- There is one row for each vertex. -/
  rate : input.binding.rate = 0
  /-- There is an attribute for each component. -/
  length : input.attributes.length = b.layout.length
  /-- It is read from the buffer of the rows, in the format of the component. -/
  format : ∀ (i : ℕ) a c, input.attributes[i]? = some a → b.layout[i]? = some c →
    a.binding = input.binding.binding ∧ a.format = vertexFormatCode c.format ∧
      formatBytes a.format = c.format.size
  /-- What is read for a vertex is what the component says of it. -/
  fetch : ∀ (v : ℕ) vertex (i : ℕ) a c, b.vertices[v]? = some vertex →
    input.attributes[i]? = some a → b.layout[i]? = some c →
    input.fetch m.vertexData v a = b.encode vertex c ∧
      (b.encode vertex c).length = formatBytes a.format
  /-- The attributes of a vertex share no byte of its row and leave none out. -/
  row : input.attributes.flatMap VertexAttribute.span = List.range input.binding.stride.toNat
  /-- Neither do the rows with the bytes of the data. -/
  rows : (List.range b.vertices.length).flatMap (fun v ↦
      List.range' (v * input.binding.stride.toNat) input.binding.stride.toNat) =
    List.range m.vertexData.length

end Vulkan

namespace ShapeBuilder

open Vulkan Shape

variable {b : ShapeBuilder}

/-- A component of a vertex is found by adding up what comes before it. -/
theorem slice_vertexData {v i : ℕ} {vertex : Shape.Vertex} {c : VertexComponent}
    (hv : b.vertices[v]? = some vertex) (hc : b.layout[i]? = some c) :
    ((b.vertices.flatMap b.encodeVertex).drop
        (v * b.layout.span + VertexLayout.span (b.layout.take i))).take c.format.size =
      b.encode vertex c := by
  have hle := VertexLayout.span_take_add_size_le hc
  obtain ⟨hlt, rfl⟩ := List.getElem?_eq_some_iff.1 hv
  obtain ⟨hi, rfl⟩ := List.getElem?_eq_some_iff.1 hc
  have hrow := slice_flatMap_of_length_eq (fun v _ ↦ b.length_encodeVertex v) hlt
  have hcomponent := slice_flatMap (f := b.encode b.vertices[v]) hi
  simp only [length_encode] at hcomponent
  rw [take_drop_of_slice (b.encodeVertex b.vertices[v])
    (by rwa [length_encodeVertex]) (by rwa [length_encodeVertex])]
  exact hcomponent

/-- What is read of a mesh of boxes does not depend on its indices and groups. -/
theorem reads_meshOf (h : b.layout.span < UInt32.size) (indices : List UInt32)
    (groups : List Group) : ∃ input, vertexInput? b.layout = some input ∧
      input.Reads b (b.meshOf indices groups) := by
  have hstride : (UInt32.ofNat b.layout.span).toNat = b.layout.span :=
    UInt32.toNat_ofNat_of_lt' h
  have hattribute (i : ℕ) (a : VertexAttribute) (c : VertexComponent)
      (ha : (b.layout.zipIdx.map fun c ↦ attributeOf b.layout c.1 c.2)[i]? = some a)
      (hc : b.layout[i]? = some c) : a = attributeOf b.layout c i := by
    rw [List.getElem?_map, List.getElem?_zipIdx, hc] at ha
    simpa using ha.symm
  refine ⟨_, vertexInput?_eq h, rfl, rfl, by simp, fun i a c ha hc ↦ ?_,
    fun v vertex i a c hv ha hc ↦ ?_, ?_, ?_⟩
  · rw [hattribute i a c ha hc]
    exact ⟨rfl, rfl, formatBytes_vertexFormatCode _⟩
  · rw [hattribute i a c ha hc, length_encode, VertexInput.fetch,
      toNat_offset_attributeOf h, attributeOf, formatBytes_vertexFormatCode, hstride]
    exact ⟨slice_vertexData hv hc, rfl⟩
  · rw [List.flatMap_map, hstride, List.range_eq_range']
    exact flatMap_span_attributes h (List.nil_append _).symm
  · rw [hstride, flatMap_range'_mul, length_vertices]
    exact congrArg List.range b.length_vertexData.symm

/-- **Generated vertices are where a pipeline reads them.** Take any layout with a position, of any
length, in any order and with any repetitions, and at least one box. Unless a sum outgrows its word,
the boxes are built and the layout has a vertex input; the attribute of a component gets, for each
vertex, exactly the bytes that were written for it; the attributes of a vertex share no byte of its
row and leave none out; and neither do the rows with the data. So it is for any number of vertices
and indices, also where the counts of the mesh are cut off. -/
theorem reads_of_build (hposition : ∃ c ∈ b.layout, c.attr = .position) (hboxes : b.boxes ≠ [])
    (htrap : b.build ≠ .error .trap) : ∃ m input, b.build = .ok m ∧
      vertexInput? b.layout = some input ∧ input.Reads b m := by
  obtain ⟨m, hm⟩ := exists_build_of_ne_trap hposition hboxes htrap
  obtain ⟨-, -, indices, -, groups, -, hspan, rfl⟩ := build_eq_ok_iff.1 hm
  obtain ⟨input, hinput, hreads⟩ := reads_meshOf hspan indices groups
  exact ⟨_, input, hm, hinput, hreads⟩

/-- A box whose position is stored twice, after a texture coordinate. -/
theorem reads_of_build_twicePlaced :
    let b : ShapeBuilder := { layout := [⟨.texCoord, .pair⟩, ⟨.position, .triple⟩,
      ⟨.position, .signedBytes⟩], boxes := [.ofSize .one .half .one 2] }
    ∃ m input, b.build = .ok m ∧ vertexInput? b.layout = some input ∧ input.Reads b m := by
  intro b
  have hposition : ∃ c ∈ b.layout, c.attr = .position := by decide
  refine reads_of_build hposition (by decide) ?_
  rw [build_eq_ok hposition (by decide) ⟨by decide, by decide, by decide⟩]
  exact nofun

end ShapeBuilder

end RenderTargets
