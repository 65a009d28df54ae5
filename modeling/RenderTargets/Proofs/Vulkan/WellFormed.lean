import RenderTargets.Proofs.Step.Trap
import RenderTargets.Proofs.Vulkan.Compatible
/-!
# What the driver is asked for when a pipeline is made

A pipeline and the shape that it is built for go to the driver as two calls, made from different
fields of one description. `PipelineInfo.IsWellFormed` says what the driver asks of the two
together: one location for each attribute, color formats for color, depth formats for depth, one
sample count, and a blend state for each color attachment.

The calls themselves are followed one by one (`Pipeline.Asked`), through every way in which making a
pipeline can end, so that what is said of them does not need a pipeline to come out: the shape is
asked for before the vertex layout is looked at, and the driver may fail at any call. A call that
failed is in the trace with what was asked for (`Call.asked`).

A valid description gives most of it, but two things its check does not look at, and the driver gets
them as they are: the format of the depth buffer, and attributes that occur more than once
(`Pipeline.isWellFormed_infoOf_iff`).
-/

namespace RenderTargets

/-- A pipeline of a valid description renders to at least one attachment, which holds color. -/
theorem PipelineDesc.color_of_validate {d : PipelineDesc} (h : d.validate = .ok ()) :
    d.signature.colorCount ≠ 0 ∧ d.signature.colorFormat.isDepth = false := by
  rw [validate] at h
  obtain ⟨-, h⟩ := throw_bind_eq_ok_iff.1 h
  obtain ⟨hcount, h⟩ := throw_bind_eq_ok_iff.1 h
  obtain ⟨hcolor, -⟩ := throw_bind_eq_ok_iff.1 h
  exact ⟨hcount, by simpa using hcolor⟩

/-- Depth, if there is any, is kept in a depth format. -/
def Signature.HoldsDepth (s : Signature) : Prop := ∀ f, s.depthFormat = some f → f.isDepth = true

/-- No attribute occurs twice. -/
def VertexLayout.ReadsOnce (l : VertexLayout) : Prop := (l.map (·.attr)).Nodup

namespace Vulkan

open StepWith Run

/-! ### Formats and locations -/

/-- The number is that of a color format. -/
def IsColorCode (c : Code) : Prop := ∃ f, formatOfCode? c = some f ∧ f.isDepth = false

/-- The number is that of a depth format. -/
def IsDepthCode (c : Code) : Prop := ∃ f, formatOfCode? c = some f ∧ f.isDepth = true

theorem formatOfCode?_formatCode (f : Format) : formatOfCode? (formatCode f) = some f := by
  cases f <;> rfl

theorem attrLocation_injective : Function.Injective attrLocation := by
  intro a b h
  cases a <;> cases b <;> first | rfl | cases h

/-- The context has a depth format for depth of 24 bits. -/
def Context.HasDepth (ctx : Context) : Prop := IsDepthCode ctx.depthCode

namespace Context

variable {ctx : Context} {f : Format}

theorem isColorCode_formatCode (hf : f.isDepth = false) : IsColorCode (ctx.formatCode f) := by
  have hne : f ≠ .depth24Stencil8 := by
    rintro rfl
    cases hf
  rw [formatCode, if_neg hne]
  exact ⟨f, formatOfCode?_formatCode f, hf⟩

/-- Depth stays depth, also if it is stood in for. -/
theorem isDepthCode_formatCode_iff (hctx : ctx.HasDepth) :
    IsDepthCode (ctx.formatCode f) ↔ f.isDepth = true := by
  rw [formatCode]
  split
  · next hf => exact iff_of_true hctx (hf ▸ rfl)
  · simp [IsDepthCode, formatOfCode?_formatCode]

end Context

/-- The locations follow the attributes. -/
theorem location_vertexAttributes? {layout rest : VertexLayout} {i : ℕ} {l : List VertexAttribute}
    (h : vertexAttributes? layout i rest = some l) :
    l.map (·.location) = (rest.map (·.attr)).map attrLocation := by
  induction rest generalizing i l with
  | nil =>
    obtain rfl := Option.some.inj h
    rfl
  | cons c rest ih =>
    obtain ⟨offset, -, h⟩ := Option.bind_eq_some_iff.1 h
    obtain ⟨more, hmore, h⟩ := Option.bind_eq_some_iff.1 h
    obtain rfl := Option.some.inj h
    rw [List.map_cons, ih hmore]
    rfl

theorem location_vertexInput? {layout : VertexLayout} {v : VertexInput}
    (h : vertexInput? layout = some v) :
    v.attributes.map (·.location) = (layout.map (·.attr)).map attrLocation := by
  obtain ⟨stride, -, h⟩ := Option.bind_eq_some_iff.1 h
  obtain ⟨l, hl, h⟩ := Option.bind_eq_some_iff.1 h
  obtain rfl := Option.some.inj h
  exact location_vertexAttributes? hl

/-! ### What belongs together -/

namespace AttachmentSet

/-- The attachment that a reference is to. -/
def at? (s : AttachmentSet) (r : AttachmentRef) : Option Attachment :=
  s.attachments[r.index.toNat]?

/-- A pass of the shape renders to color, with so many samples for each pixel. -/
structure HoldsColor (s : AttachmentSet) (samples : Flags) : Prop where
  /-- Something is rendered to. -/
  nonempty : s.colors ≠ []
  /-- What is rendered to as color holds color. -/
  colors : ∀ r ∈ s.colors, ∃ a, s.at? r = some a ∧ IsColorCode a.format
  /-- All have the same samples. -/
  samples : ∀ a ∈ s.attachments, a.samples = samples

/-- What is rendered to as depth holds depth. -/
def HoldsDepth (s : AttachmentSet) : Prop :=
  ∀ r, s.depth = some r → ∃ a, s.at? r = some a ∧ IsDepthCode a.format

end AttachmentSet

/-- A pipeline and the shape of its passes are what the driver takes together. -/
structure PipelineInfo.IsWellFormed (info : PipelineInfo) (shape : AttachmentSet) : Prop where
  /-- The attributes are read at different places. -/
  locations : (info.vertices.attributes.map (·.location)).Nodup
  /-- Color goes to color, with the samples of the pipeline. -/
  color : shape.HoldsColor info.samples
  /-- Depth goes to depth. -/
  depth : shape.HoldsDepth
  /-- There is a blend state for each color attachment. -/
  blends : info.blends = shape.colors.length

namespace PassLayout

variable {format : Code} {count : UInt32} {samples : Flags} {depthFormat : Option Code}
  {r : AttachmentRef} {a : Attachment}

/-- A stand-in has no more attachments than words. -/
theorem length_compatible_le :
    (compatible format count samples depthFormat).attachmentSet.attachments.length ≤
      UInt32.size := by
  have hcount := count.toNat_lt_size
  cases depthFormat <;> simp [attachmentSet, compatible] <;> omega

theorem at?_of_refers (h : (compatible format count samples depthFormat).attachmentSet.Refers r a) :
    (compatible format count samples depthFormat).attachmentSet.at? r = some a :=
  (AttachmentSet.refers_iff length_compatible_le).1 h

theorem length_colors_compatible :
    (compatible format count samples depthFormat).attachmentSet.colors.length = count.toNat := by
  simp [attachmentSet, compatible]

/-- Every color attachment of a stand-in has its color format. -/
theorem at?_color_compatible
    (hr : r ∈ (compatible format count samples depthFormat).attachmentSet.colors) :
    ∃ a, (compatible format count samples depthFormat).attachmentSet.at? r = some a ∧
      a.format = format := by
  obtain ⟨i, hi, rfl⟩ := List.mem_map.1 hr
  have hi : i < (compatible format count samples depthFormat).colors.length := by
    simpa using hi
  obtain ⟨a, ha, hformat, -⟩ := refers_color layoutColorAttachment hi
  refine ⟨a, at?_of_refers ha, ?_⟩
  have hi : i < count.toNat := by simpa [compatible] using hi
  simpa [compatible, hi] using hformat

/-- Every attachment of a stand-in has its samples. -/
theorem samples_compatible
    (ha : a ∈ (compatible format count samples depthFormat).attachmentSet.attachments) :
    a.samples = samples := by
  simp only [attachmentSet, compatible, colorAttachments, resolveAttachments] at ha
  cases depthFormat <;> simp [depthAttachment] at ha <;> grind

end PassLayout

namespace Pipeline

variable {ctx : Context} {d : PipelineDesc} {s : Shader} {vertices : VertexInput}
  {layout : Object .pipelineLayout} {pass : Object .renderPass}

/-- The shape that a pipeline is built for. -/
def shapeOf (ctx : Context) (d : PipelineDesc) : AttachmentSet :=
  (standIn ctx d.signature d.signature.samples).attachmentSet

/-- The shape for a valid description renders to color. -/
theorem holdsColor_shapeOf (h : d.validate = .ok ()) :
    (shapeOf ctx d).HoldsColor d.signature.samples where
  nonempty hnil := by
    have hlength : (shapeOf ctx d).colors.length = d.signature.colorCount.toNat :=
      PassLayout.length_colors_compatible
    rw [hnil] at hlength
    exact (PipelineDesc.color_of_validate h).1 (UInt32.toNat_inj.1 hlength.symm)
  colors r hr := by
    obtain ⟨a, ha, hformat⟩ := PassLayout.at?_color_compatible hr
    exact ⟨a, ha, hformat ▸ Context.isColorCode_formatCode (PipelineDesc.color_of_validate h).2⟩
  samples a ha := PassLayout.samples_compatible ha

/-- It renders to depth if and only if the description says a format for depth. -/
theorem holdsDepth_shapeOf_iff (hctx : ctx.HasDepth) :
    (shapeOf ctx d).HoldsDepth ↔ d.signature.HoldsDepth := by
  have hdepth : ∀ f, d.signature.depthFormat = some f → ∃ r a, (shapeOf ctx d).depth = some r ∧
      (shapeOf ctx d).at? r = some a ∧ a.format = ctx.formatCode f := by
    intro f hf
    have hstandIn : (standIn ctx d.signature d.signature.samples).depthFormat =
        some (ctx.formatCode f) := by
      rw [standIn, PassLayout.compatible, hf, Option.map_some]
    obtain ⟨r, a, hr, ha, hformat, -⟩ := PassLayout.refers_depth hstandIn
    exact ⟨r, a, hr, PassLayout.at?_of_refers ha, hformat⟩
  constructor
  · intro hholds f hf
    obtain ⟨r, a, hr, ha, hformat⟩ := hdepth f hf
    obtain ⟨b, hb, hcode⟩ := hholds r hr
    obtain rfl := Option.some.inj (ha.symm.trans hb)
    exact (Context.isDepthCode_formatCode_iff hctx).1 (hformat ▸ hcode)
  · intro hholds r hr
    rcases hf : d.signature.depthFormat with _ | f
    · rw [shapeOf, standIn, hf] at hr
      cases hr
    · obtain ⟨q, a, hq, ha, hformat⟩ := hdepth f hf
      obtain rfl := Option.some.inj (hr.symm.trans hq)
      exact ⟨a, ha, hformat ▸ (Context.isDepthCode_formatCode_iff hctx).2 (hholds f hf)⟩

/-- Pipeline and shape are well-formed if and only if, besides, no attribute occurs twice. -/
theorem isWellFormed_infoOf_iff (hctx : ctx.HasDepth) (h : d.validate = .ok ())
    (hv : vertexInput? d.layout = some vertices) :
    (infoOf d s d.signature.samples vertices layout pass).IsWellFormed (shapeOf ctx d) ↔
      d.signature.HoldsDepth ∧ d.layout.ReadsOnce := by
  have hlocations : (vertices.attributes.map (·.location)).Nodup ↔ d.layout.ReadsOnce := by
    rw [location_vertexInput? hv, List.nodup_map_iff attrLocation_injective, VertexLayout.ReadsOnce]
  rw [← holdsDepth_shapeOf_iff hctx, ← hlocations]
  constructor
  · intro hwell
    exact ⟨hwell.depth, hwell.locations⟩
  · rintro ⟨hdepth, hnodup⟩
    exact ⟨hnodup, holdsColor_shapeOf h, hdepth, PassLayout.length_colors_compatible.symm⟩

/-! ### What is asked for -/

variable {l k : List Call}

/-- Calls, the latest first, that ask for shapes of a description only, and for pipelines of it only
once there is a shape. -/
inductive Asked (ctx : Context) (d : PipelineDesc) (s : Shader) : List Call → Prop
  /-- Nothing is asked for. -/
  | nil : Asked ctx d s []
  /-- Something else is done. -/
  | other {c l} (before : Asked ctx d s l)
      (shape : ∀ pass shape, c.asked ≠ .createRenderPass pass shape)
      (pipeline : ∀ o info, c.asked ≠ .createPipeline o info) : Asked ctx d s (c :: l)
  /-- A shape is asked for, maybe in vain. -/
  | shape {c p l} (before : Asked ctx d s l)
      (asked : c.asked = .createRenderPass p (shapeOf ctx d)) : Asked ctx d s (c :: l)
  /-- A pipeline is asked for, maybe in vain. -/
  | pipeline {c o p v t l} (before : Asked ctx d s l)
      (built : .createRenderPass p (shapeOf ctx d) ∈ l) (read : vertexInput? d.layout = some v)
      (asked : c.asked = .createPipeline o (infoOf d s d.signature.samples v t p)) :
      Asked ctx d s (c :: l)

/-- The pipeline is that of the description, for its shape, which was asked for. -/
def Builds (ctx : Context) (d : PipelineDesc) (s : Shader) (info : PipelineInfo) (l : List Call) :
    Prop :=
  ∃ vertices layout, vertexInput? d.layout = some vertices ∧
    info = infoOf d s d.signature.samples vertices layout info.pass ∧
    .createRenderPass info.pass (shapeOf ctx d) ∈ l

theorem Builds.cons {info : PipelineInfo} {c : Call} (h : Builds ctx d s info l) :
    Builds ctx d s info (c :: l) := by
  obtain ⟨vertices, layout, hv, hinfo, hpass⟩ := h
  exact ⟨vertices, layout, hv, hinfo, List.mem_cons_of_mem _ hpass⟩

namespace Asked

theorem eq_shapeOf (h : Asked ctx d s l) {c : Call} (hmem : c ∈ l) {shape : AttachmentSet}
    (hasked : c.asked = .createRenderPass pass shape) : shape = shapeOf ctx d := by
  induction h with
  | nil => cases hmem
  | other _ hother _ ih =>
    rcases List.mem_cons.1 hmem with rfl | hmem
    · exact (hother _ _ hasked).elim
    · exact ih hmem
  | shape _ hshape ih =>
    rcases List.mem_cons.1 hmem with rfl | hmem
    · cases hasked.symm.trans hshape
      rfl
    · exact ih hmem
  | pipeline _ _ _ hpipeline ih =>
    rcases List.mem_cons.1 hmem with rfl | hmem
    · cases hasked.symm.trans hpipeline
    · exact ih hmem

theorem builds (h : Asked ctx d s l) {c : Call} (hmem : c ∈ l) {o : Object .pipeline}
    {info : PipelineInfo} (hasked : c.asked = .createPipeline o info) : Builds ctx d s info l := by
  induction h with
  | nil => cases hmem
  | other _ _ hother ih =>
    rcases List.mem_cons.1 hmem with rfl | hmem
    · exact (hother _ _ hasked).elim
    · exact (ih hmem).cons
  | shape _ hshape ih =>
    rcases List.mem_cons.1 hmem with rfl | hmem
    · cases hasked.symm.trans hshape
    · exact (ih hmem).cons
  | pipeline _ built read hpipeline ih =>
    rcases List.mem_cons.1 hmem with rfl | hmem
    · cases hasked.symm.trans hpipeline
      exact ⟨_, _, read, rfl, List.mem_cons_of_mem _ built⟩
    · exact (ih hmem).cons

end Asked

/-- Since the calls `k`, calls with `R` were made. -/
def CallsSince (k : List Call) (R : List Call → Prop) (h : Host) : Prop :=
  ∃ l, h.driver.calls = l ++ k ∧ R l

section Calls

variable {R R' : List Call → Prop} {name : CallName} {kind : ObjectKind} {action : String}

theorem CallsSince.mono {h : Host} (hh : CallsSince k R h) (hR : ∀ l, R l → R' l) :
    CallsSince k R' h := by
  obtain ⟨l, hl, hr⟩ := hh
  exact ⟨l, hl, hR l hr⟩

theorem CallsSince.push {h : Host} {c : Call} {d : Driver} (hh : CallsSince k R h)
    (hd : d.calls = c :: h.driver.calls) (hc : ∀ l, R l → R' (c :: l)) :
    CallsSince k R' { h with driver := d } := by
  obtain ⟨l, hl, hr⟩ := hh
  exact ⟨c :: l, hd.trans (congrArg _ hl), hc l hr⟩

theorem trapsIn_driving {α : Type} {f : Driver → α × Driver} {P T : Host → Prop} :
    TrapsIn P (Run.driving f) T := by
  intro h _ t ht
  have hok : Run.driving f h = .ok (f h.driver).1 { h with driver := (f h.driver).2 } := rfl
  rw [hok] at ht
  cases ht

/-- An object is asked for. -/
theorem endsIn_work_create {c : Object kind → Call} (hmade : ∀ o l, R l → R' (c o :: l))
    (hfailed : ∀ code l, R l → R (.failed name (c .null) code :: l)) :
    EndsIn (CallsSince k R) (Run.work action (Driver.create name c))
      (fun o ↦ CallsSince k fun l ↦ R' l ∧ c o ∈ l) (CallsSince k R) := by
  refine .of_meets (meets_work ?_ ?_ fun _ _ h ↦ h) (.bind_any trapsIn_driving fun r ↦ ?_)
  · intro h o e hh he
    obtain ⟨rfl, rfl⟩ := Driver.create_ok he
    exact hh.push rfl fun l hl ↦ ⟨hmade _ l hl, List.mem_cons_self⟩
  · intro h code e hh he
    rw [Driver.create_error he]
    exact hh.push rfl (hfailed code)
  · cases r with
    | ok o => exact .pure
    | error code => exact .refuse

/-- An object is given up. -/
theorem endsIn_destroy {o : Object kind} {T : Host → Prop}
    (hdestroy : ∀ l, R l → R (.destroy o.any :: l)) :
    EndsIn (CallsSince k R) (Run.destroy o) (fun _ ↦ CallsSince k R) T := by
  refine .of_meets (meets_changeDriver fun h hh ↦ ?_) .update
  rw [Driver.destroy]
  split
  · exact hh
  · exact hh.push (congrArg _ Driver.continues_forget.calls) hdestroy

end Calls

theorem Asked.destroy {o : AnyObject} (h : Asked ctx d s l) :
    Asked ctx d s (.destroy o :: l) := h.other nofun nofun

theorem endsIn_createRenderPass :
    EndsIn (CallsSince k (Asked ctx d s))
      (createRenderPass (standIn ctx d.signature d.signature.samples))
      (fun pass ↦ CallsSince k fun l ↦ Asked ctx d s l ∧ .createRenderPass pass (shapeOf ctx d) ∈ l)
      (CallsSince k (Asked ctx d s)) :=
  endsIn_work_create (fun _ _ h ↦ .shape h rfl) fun _ _ h ↦ .shape h rfl

theorem endsIn_build :
    EndsIn (CallsSince k fun l ↦ Asked ctx d s l ∧ .createRenderPass pass (shapeOf ctx d) ∈ l)
      (build d s d.signature.samples layout pass)
      (fun o ↦ CallsSince k fun l ↦ Asked ctx d s l ∧ ∃ info, .createPipeline o info ∈ l)
      (CallsSince k (Asked ctx d s)) := by
  refine .bind (Q := fun v h ↦ vertexInput? d.layout = some v ∧
    CallsSince k (fun l ↦ Asked ctx d s l ∧ .createRenderPass pass (shapeOf ctx d) ∈ l) h)
    (.orTrap (fun v hv h hh ↦ ⟨hv, hh⟩) fun h hh ↦ hh.mono fun _ hl ↦ hl.1) fun v ↦
    .assume fun hv ↦ ?_
  have hmade (o : Object .pipeline) (l : List Call)
      (hl : Asked ctx d s l ∧ .createRenderPass pass (shapeOf ctx d) ∈ l) :
      Asked ctx d s (.createPipeline o (infoOf d s d.signature.samples v layout pass) :: l) :=
    .pipeline hl.1 hl.2 hv rfl
  exact (endsIn_work_create hmade fun code l hl ↦
    ⟨.pipeline hl.1 hl.2 hv rfl, List.mem_cons_of_mem _ hl.2⟩).mono (fun _ hh ↦ hh)
    (fun o h hh ↦ hh.mono fun l hl ↦ ⟨hl.1, _, hl.2⟩) fun h hh ↦ hh.mono fun _ hl ↦ hl.1

theorem endsIn_buildForStandIn :
    EndsIn (CallsSince k (Asked ctx d s)) (buildForStandIn ctx d s d.signature.samples layout)
      (fun o ↦ CallsSince k fun l ↦ Asked ctx d s l ∧ ∃ info, .createPipeline o info ∈ l)
      (CallsSince k (Asked ctx d s)) := by
  refine .bind endsIn_createRenderPass fun pass ↦ ?_
  refine .bind (Q := fun result h ↦ CallsSince k (fun l ↦ Asked ctx d s l ∧
    ∀ o, result = .ok o → ∃ info, .createPipeline o info ∈ l) h) ?_ fun result ↦ ?_
  · refine .attempt (endsIn_build.mono (fun _ hh ↦ hh) (fun o h hh ↦ hh.mono fun l hl ↦ ?_)
      fun _ hh ↦ hh) fun e h hh ↦ hh.mono fun l hl ↦ ⟨hl, nofun⟩
    refine ⟨hl.1, fun o' ho ↦ ?_⟩
    obtain rfl := Except.ok.inj ho
    exact hl.2
  · refine .bind (endsIn_destroy fun l hl ↦ ⟨hl.1.destroy, fun o ho ↦ ?_⟩) fun _ ↦
      .ofChecked (fun o ho h hh ↦ hh.mono fun l hl ↦ ⟨hl.1, hl.2 o ?_⟩) fun h hh ↦
        hh.mono fun l hl ↦ hl.1
    · obtain ⟨info, hinfo⟩ := hl.2 o ho
      exact ⟨info, List.mem_cons_of_mem _ hinfo⟩
    · cases result <;> cases ho
      rfl

/-- Another object is asked for. -/
theorem endsIn_work_other {name : CallName} {kind : ObjectKind} {action : String}
    {c : Object kind → Call} (hshape : ∀ o pass shape, (c o).asked ≠ .createRenderPass pass shape)
    (hpipeline : ∀ o q info, (c o).asked ≠ .createPipeline q info) :
    EndsIn (CallsSince k (Asked ctx d s)) (Run.work action (Driver.create name c))
      (fun _ ↦ CallsSince k (Asked ctx d s)) (CallsSince k (Asked ctx d s)) :=
  (endsIn_work_create (fun o _ hl ↦ hl.other (hshape o) (hpipeline o)) fun _ _ hl ↦
    hl.other (hshape .null) (hpipeline .null)).mono
      (fun _ hh ↦ hh) (fun _ _ hh ↦ hh.mono fun _ hl ↦ hl.1) fun _ hh ↦ hh

theorem endsIn_createWith {setLayout : Object .setLayout} :
    EndsIn (CallsSince k (Asked ctx d s)) (createWith ctx d s d.signature.samples setLayout)
      (fun p ↦ CallsSince k fun l ↦ Asked ctx d s l ∧ ∃ info, .createPipeline p.pipeline info ∈ l)
      (CallsSince k (Asked ctx d s)) := by
  refine .bind (endsIn_work_other nofun nofun) fun _ ↦ ?_
  refine .bind (.undoing endsIn_buildForStandIn (endsIn_destroy fun _ hl ↦ hl.destroy)) fun _ ↦ ?_
  exact .pure fun _ hh ↦ hh

/-- What is asked for to make a pipeline. If there is anything, the description is valid. -/
structure Asks (ctx : Context) (d : PipelineDesc) (s : Shader) (l : List Call) : Prop where
  /-- The calls. -/
  asked : Asked ctx d s l
  /-- The description. -/
  valid : l ≠ [] → d.validate = .ok ()
  /-- The driver has its sample count. -/
  samples : l ≠ [] → d.signature.samples ∈ sampleCounts

theorem Asks.nil : Asks ctx d s [] := ⟨.nil, fun h ↦ absurd rfl h, fun h ↦ absurd rfl h⟩

/-- **A description that is refused asks for nothing.** A valid one asks for its shape and its
pipeline at most, and for the pipeline that it answers. -/
theorem endsIn_create :
    EndsIn (CallsSince k (· = [])) (create ctx d s)
      (fun p ↦ CallsSince k fun l ↦ Asks ctx d s l ∧ ∃ info, .createPipeline p.pipeline info ∈ l)
      (CallsSince k (Asks ctx d s)) := by
  have hnone : ∀ l, l = [] → Asks ctx d s l := fun _ hl ↦ hl ▸ .nil
  refine .bind (Q := fun _ h ↦ d.validate = .ok () ∧ CallsSince k (· = []) h)
    (.ofChecked (fun _ ha h hh ↦ ?_) fun h hh ↦ hh.mono hnone) fun _ ↦ .assume fun hvalid ↦ ?_
  · rcases hv : d.validate with e | ⟨⟩
    · rw [hv] at ha
      cases ha
    · exact ⟨rfl, hh⟩
  · split
    · exact .refuse fun h _ hh ↦ CallsSince.mono (h := h) hh hnone
    · next samples hsamples =>
      have hall : ∀ l, Asked ctx d s l → Asks ctx d s l :=
        fun l hl ↦ ⟨hl, fun _ ↦ hvalid, fun _ ↦ mem_of_sampleFlag? hsamples⟩
      obtain rfl := eq_of_sampleFlag? hsamples
      have hunshare : EndsIn (CallsSince k (Asked ctx d s)) Run.unshare
          (fun _ ↦ CallsSince k (Asked ctx d s)) (CallsSince k (Asked ctx d s)) :=
        .of_meets (.update fun _ hh ↦ hh) .update
      -- The description is valid from here on, so that only the calls have to be followed.
      suffices hmake : EndsIn (CallsSince k (Asked ctx d s)) _
          (fun (p : Pipeline) ↦ CallsSince k fun l ↦
            Asked ctx d s l ∧ ∃ info, .createPipeline p.pipeline info ∈ l)
          (CallsSince k (Asked ctx d s)) from
        hmake.mono (fun _ hh ↦ hh.mono fun _ hl ↦ hl ▸ .nil)
          (fun _ _ hh ↦ hh.mono fun l hl ↦ ⟨hall l hl.1, hl.2⟩) fun _ hh ↦ hh.mono hall
      refine .bind (Q := fun _ ↦ CallsSince k (Asked ctx d s))
        (.of_meets (.update fun _ hh ↦ hh) .update) fun _ ↦ ?_
      refine .bind (.undoing (endsIn_work_other nofun nofun) hunshare) fun setLayout ↦ ?_
      refine .bind (.undoing endsIn_createWith (.bind (endsIn_destroy fun _ hl ↦ hl.destroy)
        fun _ ↦ hunshare)) fun p ↦ ?_
      exact .bind (.note fun _ _ hh ↦ hh) fun _ ↦ .pure fun _ hh ↦ hh

end Pipeline

namespace Device

open Pipeline

/-- What is asked for when a device makes a pipeline. -/
theorem endsIn_createPipeline (s : Device × Host) (p : PipelineDesc) :
    EndsIn (· = s) (createPipeline p)
      (fun id t ↦ CallsSince s.2.driver.calls (fun l ↦ ∃ shader, Asks s.1.context p shader l ∧
        ∃ q info, t.1.pipelines.get? id = some q ∧ .createPipeline q.pipeline info ∈ l) t.2)
      fun t ↦ CallsSince s.2.driver.calls (fun l ↦ ∃ shader, Asks s.1.context p shader l) t.2 := by
  rintro s rfl
  rw [createPipeline, RunOn.part_bind_apply]
  have hfault : ∀ shader (h : Host), CallsSince s.2.driver.calls (Asks s.1.context p shader) h →
      CallsSince s.2.driver.calls (fun l ↦ ∃ shader, Asks s.1.context p shader l) h :=
    fun shader h hh ↦ hh.mono fun l hl ↦ ⟨shader, hl⟩
  refine EndsIn.bind (P := fun t ↦ CallsSince s.2.driver.calls (· = []) t.2)
    (Q := fun _ t ↦ CallsSince s.2.driver.calls (· = []) t.2)
    (.orFail (fun _ _ _ ht ↦ ht) fun t ht ↦ hfault default t.2 (ht.mono fun l hl ↦ hl ▸ .nil))
    (fun shader ↦ ?_) s ⟨[], rfl, rfl⟩
  refine .bind (Q := fun q t ↦ CallsSince s.2.driver.calls (fun l ↦ Asks s.1.context p shader l ∧
    ∃ info, .createPipeline q.pipeline info ∈ l) t.2) (.snd fun _ ↦ endsIn_create.mono
      (fun _ hh ↦ hh) (fun _ _ hh ↦ hh) (hfault shader)) fun q ↦ ?_
  refine .bind (Q := fun r t ↦ s.1.pipelines.insert? q = some r ∧
    CallsSince s.2.driver.calls (fun l ↦ Asks s.1.context p shader l ∧
      ∃ info, .createPipeline q.pipeline info ∈ l) t.2)
    (.orTrap (fun r hr t ht ↦ ⟨hr, ht⟩) fun t ht ↦ hfault shader t.2 (ht.mono fun _ hl ↦ hl.1))
    fun ⟨id, pipelines⟩ ↦ .assume fun hr ↦ ?_
  have hfound : pipelines.get? id = some q := Slot.Map.get?_insert?_self hr
  refine .bind (.of_meets (.update fun t ht ↦ ?_) .update) fun _ ↦ .pure fun _ ht ↦ ht
  exact CallsSince.mono (h := t.2) ht fun l ⟨hl, info, hinfo⟩ ↦ ⟨shader, hl, q, info, hfound, hinfo⟩

/-- Whatever becomes of the command, what was asked for is `Asks`, and an answer was asked for. -/
theorem exists_asks (s : Device × Host) (p : PipelineDesc) : ∃ asked shader,
    ((createPipeline p).last s).2.driver.calls = asked ++ s.2.driver.calls ∧
    Asks s.1.context p shader asked ∧
    ∀ id t, createPipeline p s = .ok id t → ∃ q info,
      t.1.pipelines.get? id = some q ∧ .createPipeline q.pipeline info ∈ asked := by
  obtain ⟨hok, hfault⟩ := endsIn_createPipeline s p s rfl
  rcases hx : createPipeline p s with ⟨id, t⟩ | ⟨e, t⟩
  · obtain ⟨asked, hcalls, shader, hasks, hmade⟩ := hok id t hx
    refine ⟨asked, shader, by rw [last_of_ok hx, hcalls], hasks, fun id' t' h ↦ ?_⟩
    cases h
    exact hmade
  · obtain ⟨asked, hcalls, shader, hasks⟩ := hfault e t hx
    exact ⟨asked, shader, by rw [last_of_error hx, hcalls], hasks, fun _ _ h ↦ nomatch h⟩

theorem hasDepth_depthCode (g : Gpu) : IsDepthCode g.depthCode := by
  rw [Gpu.depthCode]
  split
  · exact ⟨_, formatOfCode?_formatCode _, rfl⟩
  · exact ⟨_, formatOfCode?_formatCode _, rfl⟩

theorem answers_openGpu {c : Choice} : Answers (openGpu c) fun r ↦ r.1.HasDepth :=
  .skip fun _ ↦ .skip fun _ ↦ .skip fun _ ↦ .skip fun _ ↦ .skip fun _ ↦
    .pure (hasDepth_depthCode c.gpu)

/-- Wherever a device gets, it has a format for depth of 24 bits. -/
theorem Reached.hasDepth {h : List (GraphicsDevice.Command × Option ResourceId)} {s : Device × Host}
    (hs : Reached h s) : s.1.context.HasDepth := by
  obtain ⟨s₀, cs, ⟨w, size, config, builtIn, k, -, hcreate⟩, hmoves⟩ := Reached.moves hs
  obtain ⟨choice, hopened, -⟩ := (answers_create k s₀.1 s₀.2 hcreate).gpu
  exact hmoves.keeps (I := fun s ↦ s.1.context.HasDepth) (fun move hs ↦ move.onward.context ▸ hs)
    (hopened.holds answers_openGpu)

/-- **What a device asks for when it makes a pipeline is well-formed if and only if depth is kept in
a depth format and no attribute occurs twice.** The description is any; the calls are all that are
made until the command ends, also if it fails or traps. A description that is not valid makes no
call. Every shape that is asked for, also in vain, has color formats for color and the samples of
the pipeline, and every pipeline is to be built for such a shape, which was made, with a blend state
for each of its color attachments. -/
theorem createPipeline_asks {h : List (GraphicsDevice.Command × Option ResourceId)}
    {s : Device × Host} (hs : Reached h s) (p : PipelineDesc) : ∃ calls : List Call,
    ((createPipeline p).last s).2.driver.calls = calls ++ s.2.driver.calls ∧
    (calls ≠ [] → p.validate = .ok () ∧ p.signature.samples ∈ sampleCounts) ∧
    (∀ pass shape, .createRenderPass pass shape ∈ calls.map Call.asked →
      shape.HoldsColor p.signature.samples ∧ (shape.HoldsDepth ↔ p.signature.HoldsDepth)) ∧
    (∀ o info, .createPipeline o info ∈ calls.map Call.asked → ∃ shape,
      .createRenderPass info.pass shape ∈ calls ∧ info.samples = p.signature.samples ∧
      info.blends = shape.colors.length ∧
      (info.IsWellFormed shape ↔ p.signature.HoldsDepth ∧ p.layout.ReadsOnce)) ∧
    ∀ id t, createPipeline p s = .ok id t → ∃ q info,
      t.1.pipelines.get? id = some q ∧ .createPipeline q.pipeline info ∈ calls := by
  obtain ⟨calls, shader, hcalls, hasks, hmade⟩ := exists_asks s p
  refine ⟨calls, hcalls, fun hne ↦ ⟨hasks.valid hne, hasks.samples hne⟩, fun pass shape hmem ↦ ?_,
    fun o info hmem ↦ ?_, hmade⟩
  · obtain ⟨c, hc, hasked⟩ := List.mem_map.1 hmem
    obtain rfl := hasks.asked.eq_shapeOf hc hasked
    have hvalid := hasks.valid (List.ne_nil_of_mem hc)
    exact ⟨holdsColor_shapeOf hvalid, holdsDepth_shapeOf_iff hs.hasDepth⟩
  · obtain ⟨c, hc, hasked⟩ := List.mem_map.1 hmem
    obtain ⟨vertices, layout, hv, hinfo, hshape⟩ := hasks.asked.builds hc hasked
    have hvalid := hasks.valid (List.ne_nil_of_mem hc)
    refine ⟨_, hshape, ?_, ?_, ?_⟩ <;> rw [hinfo]
    · rfl
    · exact PassLayout.length_colors_compatible.symm
    · exact isWellFormed_infoOf_iff hs.hasDepth hvalid hv

/-- The device makes the pipeline. -/
def makesPipeline (p : PipelineDesc) (s : Device × Host) : Bool :=
  match createPipeline p s with
  | .ok _ _ => true
  | .error _ _ => false

theorem exists_ok_of_makesPipeline {p : PipelineDesc} {s : Device × Host} (h : makesPipeline p s) :
    ∃ id t, createPipeline p s = .ok id t := by
  rw [makesPipeline] at h
  split at h
  · exact ⟨_, _, ‹_›⟩
  · cases h

/-- The pipeline for a quad in a pass with depth and four samples is well-formed. -/
theorem createPipeline_asks_plain : ∃ l, ∃ s : Device × Host, Reached l s ∧
    ∃ id t, createPipeline (plainPipeline ⟨2, .bgra8Unorm, some .depth24Stencil8, 4⟩) s = .ok id t ∧
    ∃ o info shape, .createPipeline o info ∈ t.2.driver.calls ∧
      .createRenderPass info.pass shape ∈ t.2.driver.calls ∧ info.IsWellFormed shape := by
  obtain ⟨s, hs, hcheck⟩ := exists_new plainSurface [] (fun s ↦
    (settleAll ([.createShader plainShader].map GraphicsDevice.Command.answer) s).any
      (makesPipeline (plainPipeline ⟨2, .bgra8Unorm, some .depth24Stencil8, 4⟩)))
    (by decide +kernel)
  obtain ⟨t, ht, hmakes⟩ := GraphicsDevice.exists_accepted IsNew Happens hs hcheck
  obtain ⟨id, u, hu⟩ := exists_ok_of_makesPipeline hmakes
  obtain ⟨asked, hcalls, -, -, hpipelines, hmade⟩ := createPipeline_asks ht
    (plainPipeline ⟨2, .bgra8Unorm, some .depth24Stencil8, 4⟩)
  rw [last_of_ok hu] at hcalls
  obtain ⟨q, info, -, hinfo⟩ := hmade id u hu
  obtain ⟨shape, hshape, -, -, hiff⟩ := hpipelines _ info (List.mem_map.2 ⟨_, hinfo, rfl⟩)
  refine ⟨_, t, ht, id, u, hu, q.pipeline, info, shape, ?_, ?_, hiff.2 ⟨?_, ?_⟩⟩
  · exact hcalls ▸ List.mem_append_left _ hinfo
  · exact hcalls ▸ List.mem_append_left _ hshape
  · rintro f ⟨⟩
    rfl
  · show (List.map _ _).Nodup
    decide

/-- A pipeline for passes whose depth buffer is to hold color. -/
def colorAsDepth : PipelineDesc := plainPipeline ⟨1, .bgra8Unorm, some .rgba8Unorm, 1⟩

/-- A pipeline that reads two positions of each vertex. -/
def twoPositions : PipelineDesc :=
  { plainPipeline ⟨1, .bgra8Unorm, none, 1⟩ with
    layout := [⟨.position, .pair⟩, ⟨.position, .pair⟩] }

/-- Both are made, and neither is well-formed. -/
theorem createPipeline_asks_unfit : ∃ l, ∃ s : Device × Host, Reached l s ∧
    ∀ p ∈ [colorAsDepth, twoPositions], ∃ id t, createPipeline p s = .ok id t ∧
      ∃ o info shape, .createPipeline o info ∈ t.2.driver.calls ∧
        .createRenderPass info.pass shape ∈ t.2.driver.calls ∧ ¬info.IsWellFormed shape := by
  obtain ⟨s, hs, hcheck⟩ := exists_new plainSurface [] (fun s ↦
    (settleAll ([.createShader plainShader].map GraphicsDevice.Command.answer) s).any fun t ↦
      [colorAsDepth, twoPositions].all (makesPipeline · t)) (by decide +kernel)
  obtain ⟨t, ht, hmakes⟩ := GraphicsDevice.exists_accepted IsNew Happens hs hcheck
  have hdepth : t.1.context.HasDepth := Reached.hasDepth ht
  refine ⟨_, t, ht, fun p hp ↦ ?_⟩
  obtain ⟨id, u, hu⟩ := exists_ok_of_makesPipeline (List.all_eq_true.1 hmakes p hp)
  obtain ⟨asked, shader, hcalls, hasks, hmade⟩ := exists_asks t p
  rw [last_of_ok hu] at hcalls
  obtain ⟨q, info, -, hinfo⟩ := hmade id u hu
  obtain ⟨vertices, layout, hv, he, hshape⟩ := hasks.asked.builds hinfo rfl
  have hiff : info.IsWellFormed (shapeOf t.1.context p) ↔
      p.signature.HoldsDepth ∧ p.layout.ReadsOnce := by
    rw [he]
    exact isWellFormed_infoOf_iff hdepth (hasks.valid (List.ne_nil_of_mem hinfo)) hv
  refine ⟨id, u, hu, _, info, _, hcalls ▸ List.mem_append_left _ hinfo,
    hcalls ▸ List.mem_append_left _ hshape, fun hwell ↦ ?_⟩
  obtain ⟨hholds, honce⟩ := hiff.1 hwell
  rcases List.mem_pair.1 hp with rfl | rfl
  · cases hholds _ rfl
  · revert honce
    show ¬(List.map _ _).Nodup
    decide

end Device

end Vulkan

end RenderTargets
