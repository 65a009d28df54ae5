import RenderTargets.App.Application
import RenderTargets.Recorder.Basic
import RenderTargets.Report.Descriptions
/-!
# Reports of the application and the recorder

What the application shows, what the recorder has recorded, and how many resources it made.
-/

namespace RenderTargets.Report

open App

instance : Reported Config := ⟨fun c ↦ record
  [("display_size", report [c.displayWidth, c.displayHeight]),
   ("window_title", report c.windowTitle),
   ("offscreen_size", report [c.targetWidth, c.targetHeight]),
   ("sample_count", report c.samples), ("attachment_clear_colors", report c.clearColors),
   ("display_clear_color", report c.displayClearColor),
   ("fallback_clear_color", report c.fallbackClearColor), ("angle_step", report c.angleStep),
   ("fallback_text_scale", report c.fallbackTextScale),
   ("fallback_text_color", report c.fallbackTextColor), ("cube_position", report c.cubePosition),
   ("fov_y_degrees", report c.fovYDegrees), ("z_near", report c.zNear), ("z_far", report c.zFar),
   ("aspect", report c.aspect)]⟩

instance : Reported Targets := ⟨fun t ↦ record
  [("surfaces", report t.surfaces), ("pass", report t.pass), ("samples", report t.samples)]⟩

instance : Reported Offscreen := ⟨fun o ↦ record
  [("mesh", report o.mesh), ("shader", report o.shader), ("pipeline", report o.pipeline),
   ("angles", report [o.transform.angleX, o.transform.angleY])]⟩

instance : Reported Composite := ⟨fun c ↦ record
  [("mesh", report c.mesh), ("shader", report c.shader), ("pipeline", report c.pipeline),
   ("panels", report c.panels), ("clear_color", report c.clearColor)]⟩

instance : Reported Scene := ⟨fun s ↦ record
  [("targets", report s.targets), ("offscreen", report s.offscreen),
   ("composite", report s.composite)]⟩

/-- What kind of thing is shown, and details of it. -/
def ofMode : Option Mode → String × Report
  | none => ("none", nothing)
  | some (.fallback f) => ("fallback", record [("message", report f.message)])
  | some (.scene s) => ("mrt", report s)

instance : Reported Application := ⟨fun a ↦ record
  [("state", report a.state.name), ("owned", report a.arena.length),
   ("mode", report (ofMode a.mode).1), ("detail", (ofMode a.mode).2),
   ("title", report a.config.windowTitle)]⟩

/-- Angles and matrices of a cube over some frames, the present one first. -/
def ofMotion (t : CubeTransform) : (frames : Nat) → List Report
  | 0 => []
  | n + 1 =>
    record [("angles", report [t.angleX, t.angleY]), ("mvp", report t.matrix)] ::
      ofMotion t.advance n

/-- What is built on given surfaces. -/
def ofBuilder (b : TargetsBuilder) (x y z : TextureId) : Report := record
  [("store", report b.storeAction.name),
   ("surfaces", report ((List.range targetCount).map b.surfaceDesc)),
   ("pass", report (b.passDesc x y z))]

instance : Reported Text.Cell := ⟨fun c ↦ report [c.column, c.row]⟩
instance : Reported Text.Batch := ⟨fun b ↦ list [report b.color, report b.rects]⟩

instance : Reported Command where
  report
    | .beginPass pass colors => list [text "BeginPass", report pass, report colors]
    | .viewport rect topLeft => list [text "ApplyViewport", report rect, report topLeft]
    | .drawState s =>
      list [text "ApplyDrawState", report s.pipeline, report s.mesh, report s.textures]
    | .uniforms stage data => list [text "ApplyUniforms", report stage.name, bytes data]
    | .draw group => list [text "Draw", report group]
    | .fillRects color rects => list [text "FillRects", report color, report rects]
    | .endPass => list [text "EndPass"]
    | .commitFrame => list [text "CommitFrame"]

/-- The counts of a recorder. -/
def ofRecorder (r : Recorder) : Report := record
  [("created", report r.created.toList), ("destroyed", report r.destroyed.toList),
   ("total", report [r.created.total, r.destroyed.total, r.liveCount]),
   ("frames", report r.frames), ("in_pass", report r.active.isSome), ("order", report r.order)]

end RenderTargets.Report
