import RenderTargets.Report.Basic
import RenderTargets.Device
import RenderTargets.Vulkan.Config
/-!
# Reports of descriptions

Descriptions are shown as records with a field for each thing that can be chosen, handles by slot
and version, and members of an enumeration by their names.
-/

namespace RenderTargets.Report

instance : Reported Rect :=
  ⟨fun r ↦ list [report r.x, report r.y, report r.width, report r.height]⟩
instance : Reported Features := ⟨fun f ↦ report f.bits⟩
instance {κ : Type} {tag : κ} : Reported (Slot.Handle tag) := ⟨fun h ↦ text h.parts⟩
instance : Reported ResourceId := ⟨fun r ↦ report [r.kind.name, r.parts]⟩
instance : Reported Format := ⟨fun f ↦ text f.name⟩
instance : Reported VertexComponent := ⟨fun c ↦ report [c.attr.name, c.format.name]⟩
instance : Reported Group := ⟨fun g ↦ report [g.base, g.count]⟩

instance : Reported Display :=
  ⟨fun d ↦ list [report d.width, report d.height, report d.colorFormat, report d.depthFormat,
    report d.samples]⟩

instance : Reported TextureDesc := ⟨fun d ↦ record
  [("name", report d.name), ("width", report d.width), ("height", report d.height),
   ("format", report d.format), ("usage", report d.usage.name), ("samples", report d.samples),
   ("depth", report d.depth)]⟩

instance : Reported MeshDesc := ⟨fun d ↦ record
  [("name", report d.name), ("layout", list (d.layout.map report)),
   ("num_vertices", report d.vertexCount), ("vertex_data", bytes d.vertexData),
   ("index_type", report d.indexType.name), ("num_indices", report d.indexCount),
   ("index_data", bytes d.indexData), ("primitive", report d.primitive.name),
   ("groups", report d.groups)]⟩

instance : Reported ShaderDesc := ⟨fun d ↦ record
  [("name", report d.name), ("vertex", bytes d.vertex.code), ("fragment", bytes d.fragment.code),
   ("vertex_entry", report d.vertex.entryPoint), ("fragment_entry", report d.fragment.entryPoint)]⟩

instance : Reported PipelineDesc := ⟨fun d ↦ record
  [("name", report d.name), ("shader", report d.shader), ("layout", list (d.layout.map report)),
   ("primitive", report d.primitive.name), ("depth_write", report d.depthWrite),
   ("depth_cmp", report d.depthCompare.name), ("cull", report d.cull),
   ("cull_face", report d.cullFace.name), ("samples", report d.signature.samples),
   ("color_count", report d.signature.colorCount),
   ("color_format", report d.signature.colorFormat),
   ("depth_format", report d.signature.depthFormat)]⟩

instance : Reported PassDesc := ⟨fun d ↦ record
  [("name", report d.name), ("colors", report d.textures), ("depth", report d.depth),
   ("clear_colors", report (d.colors.map (·.clearColor))), ("clear_depth", report d.clearDepth),
   ("clear_stencil", report d.clearStencil), ("store", report d.store.name)]⟩

instance : Reported Vulkan.Config := ⟨fun c ↦ record
  [("app_name", report c.appName), ("enable_validation", report c.validation),
   ("severity", report c.level.name), ("output", report c.output.name),
   ("break", report c.breakOnError), ("frames", report c.framesInFlight),
   ("vsync", report c.vsync), ("disabled", report c.disabled),
   ("active", report (c.validationActive false))]⟩

/-- What is true of a format. -/
def ofFormat (f : Format) : Report := record
  [("is_depth", report f.isDepth), ("has_stencil", report f.hasStencil),
   ("bytes_per_pixel", report f.bytesPerPixel)]

/-- The places of the components of a layout, if they can be counted. -/
def ofLayout? (l : VertexLayout) : Option Report := do
  let stride ← l.stride?
  let offsets ← (List.range (l.length + 1)).mapM l.offset?
  return record
    [("stride", report stride), ("empty", report l.isEmpty),
     ("sizes", report (l.map (·.format.size))), ("offsets", report offsets),
     ("index", report (VertexAttr.all.map l.indexOf?))]

end RenderTargets.Report
