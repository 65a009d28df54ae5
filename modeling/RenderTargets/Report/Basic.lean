import RenderTargets.Number.Vector
/-!
# Reports

A report shows a value to somebody outside: a tree of numbers, words, lists and records. Whoever
writes reports down decides how a leaf is spelled; what belongs into the report of a value, and
under which key, is decided here.

A type whose values can be reported is an instance of `Reported`.
-/

namespace RenderTargets

/-- A value as it is shown. -/
inductive Report where
  /-- Nothing. -/
  | nothing
  /-- Yes or no. -/
  | flag (b : Bool)
  /-- A whole number. -/
  | number (z : Int)
  /-- A single precision number. -/
  | single (x : Single)
  /-- Words. -/
  | text (s : String)
  /-- Raw bytes. -/
  | bytes (data : List UInt8)
  /-- Values in order. -/
  | list (values : List Report)
  /-- Values by name. -/
  | record (fields : List (String × Report))
  deriving Inhabited, Repr

/-- A type whose values can be shown. -/
class Reported (α : Type) where
  /-- The value as it is shown. -/
  report : α → Report

export Reported (report)

namespace Report

instance : Reported Report := ⟨id⟩
instance : Reported Unit := ⟨fun _ ↦ nothing⟩
instance : Reported Bool := ⟨flag⟩
instance : Reported Nat := ⟨fun n ↦ number n⟩
instance : Reported Int := ⟨number⟩
instance : Reported UInt8 := ⟨fun w ↦ number w.toNat⟩
instance : Reported UInt32 := ⟨fun w ↦ number w.toNat⟩
instance : Reported Int32 := ⟨fun w ↦ number w.toInt⟩
instance : Reported String := ⟨text⟩
instance : Reported Single := ⟨single⟩

instance {α : Type} [Reported α] : Reported (List α) := ⟨fun l ↦ list (l.map report)⟩
instance : Reported (List UInt8) := ⟨bytes⟩
instance {α : Type} [Reported α] : Reported (Option α) := ⟨fun a ↦ a.elim nothing report⟩
instance {α β : Type} [Reported α] [Reported β] : Reported (α × β) :=
  ⟨fun p ↦ list [report p.1, report p.2]⟩

instance : Reported Vec2 := ⟨fun v ↦ report [v.x, v.y]⟩
instance : Reported Vec3 := ⟨fun v ↦ report [v.x, v.y, v.z]⟩
instance : Reported Vec4 := ⟨fun v ↦ report v.toList⟩
instance : Reported Mat4 := ⟨fun m ↦ report m.toList⟩

end Report

end RenderTargets
