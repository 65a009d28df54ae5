import RenderTargets.Vulkan.Enum
/-!
# The layout of a pass

A pass on the GPU is a list of attachments with references into it: first the color attachments,
then as many images to resolve them into if the pass resolves, then the depth buffer if there is
one.
-/

namespace RenderTargets.Vulkan

/-- An attachment. -/
structure Attachment where
  /-- Format of the image. -/
  format : Code
  /-- Samples per pixel. -/
  samples : Flags
  /-- Contents at the start. -/
  load : Code
  /-- Contents at the end. -/
  store : Code
  /-- Stencil bits at the start. -/
  stencilLoad : Code
  /-- Stencil bits at the end. -/
  stencilStore : Code
  /-- Layout before. -/
  initialLayout : Code
  /-- Layout after. -/
  finalLayout : Code
  deriving DecidableEq, Inhabited, Repr

/-- A reference to an attachment. -/
structure AttachmentRef where
  /-- Its position. -/
  index : UInt32
  /-- Its layout in the pass. -/
  layout : Code
  deriving DecidableEq, Inhabited, Repr

/-- The attachments of a pass and what each is for. -/
structure AttachmentSet where
  /-- The attachments. -/
  attachments : List Attachment
  /-- Those rendered into. -/
  colors : List AttachmentRef
  /-- Those resolved into. -/
  resolves : List AttachmentRef
  /-- The depth buffer. -/
  depth : Option AttachmentRef
  deriving DecidableEq, Inhabited, Repr

/-- What decides the attachments of a pass. -/
structure PassLayout where
  /-- Format and final layout of each color attachment. -/
  colors : List (Code × Code)
  /-- Samples per pixel. -/
  samples : Flags
  /-- Format of the depth buffer. -/
  depthFormat : Option Code
  /-- Samples are averaged into other images. -/
  resolve : Bool
  /-- What becomes of the color attachments. -/
  colorStore : Code
  deriving DecidableEq, Inhabited, Repr

namespace PassLayout

/-- A layout for building a pipeline, compatible with all passes of the same formats. -/
def compatible (format : Code) (count : UInt32) (samples : Flags) (depthFormat : Option Code) :
    PassLayout :=
  { colors := List.replicate count.toNat (format, layoutColorAttachment)
    samples
    depthFormat
    resolve := false
    colorStore := storeStore }

/-- References to `n` attachments from position `start` on. -/
def refs (start n : Nat) (layout : Code) : List AttachmentRef :=
  (List.range n).map fun i ↦ ⟨UInt32.ofNat (start + i), layout⟩

/-- The attachments rendered into. If they are resolved, they do not change their layout. -/
def colorAttachments (l : PassLayout) : List Attachment :=
  l.colors.map fun (format, finalLayout) ↦
    { format
      samples := l.samples
      load := loadClear
      store := l.colorStore
      stencilLoad := loadDontCare
      stencilStore := storeDontCare
      initialLayout := layoutUndefined
      finalLayout := if l.resolve then layoutColorAttachment else finalLayout }

/-- The attachments resolved into. -/
def resolveAttachments (l : PassLayout) : List Attachment :=
  if l.resolve then
    l.colors.map fun (format, finalLayout) ↦
      { format
        samples := 1
        load := loadDontCare
        store := storeStore
        stencilLoad := loadDontCare
        stencilStore := storeDontCare
        initialLayout := layoutUndefined
        finalLayout }
  else []

/-- The depth buffer as an attachment. -/
def depthAttachment (l : PassLayout) (format : Code) : Attachment :=
  { format
    samples := l.samples
    load := loadClear
    store := storeDontCare
    stencilLoad := loadClear
    stencilStore := storeDontCare
    initialLayout := layoutUndefined
    finalLayout := layoutDepthAttachment }

/-- The attachments and the references into them. -/
def attachmentSet (l : PassLayout) : AttachmentSet :=
  let colors := l.colorAttachments
  let resolves := l.resolveAttachments
  { attachments := colors ++ resolves ++ (l.depthFormat.map l.depthAttachment).toList
    colors := refs 0 colors.length layoutColorAttachment
    resolves := refs colors.length resolves.length layoutColorAttachment
    depth := l.depthFormat.map fun _ ↦
      ⟨UInt32.ofNat (colors.length + resolves.length), layoutDepthAttachment⟩ }

end PassLayout

end RenderTargets.Vulkan
