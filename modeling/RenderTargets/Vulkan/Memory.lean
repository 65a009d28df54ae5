import RenderTargets.Vulkan.Host
/-!
# Memory of the GPU

Images and buffers get memory of their own. The driver is asked how much is needed, and memory is
set aside unless that question went wrong.
-/

namespace RenderTargets.Vulkan

open Log

/-- The largest number that a double precision number of 53 bits reaches without gaps. -/
def doubleLimit : Nat := 0x20000000000000

/-- The quotient rounded to the nearest whole number, a half to the even neighbour. -/
def roundQuotient (n d : Nat) : Nat :=
  let q := n / d
  let r := n % d
  if 2 * r < d then q
  else if d < 2 * r then q + 1
  else if q % 2 = 0 then q else q + 1

/-- The nearest double precision number to a natural number, which is again one. -/
def nearestDouble (n : Nat) : Nat :=
  if n < doubleLimit then n
  else
    let unit := Nat.pow 2 (n.log2 - 52)
    roundQuotient n unit * unit

/-- Bytes as megabytes with two places. -/
def megabytes (size : Nat) : String :=
  let hundredths := roundQuotient (nearestDouble size * 100) 0x100000
  let places := hundredths % 100
  s!"{hundredths / 100}.{if places < 10 then 0 else places / 10}{places % 10}"

/-- Bytes that an image needs. -/
def imageSize : Nat := 4096

/-- Sets memory aside for an object that needs `size` bytes, asked for by `question`. -/
def allocate (name : String) (question : CallName) (size : Nat) : Run (Object .memory) := do
  match ← Run.driving (Driver.query question ()) with
  | .ok () =>
    let memory ← Run.driving fun d ↦ d.fresh .memory
    Run.changeDriver (·.push (.allocateMemory memory))
    return memory
  | .error _ =>
    let shown := (← get).driver.failingSize.getD size
    note .error source
      s!"Out of GPU memory for '{name}' ({megabytes shown} MB): NoCompatibleMemoryTypeFound"
    .fail .outOfMemory

/-- Gives memory back. -/
def free (memory : Object .memory) : Run Unit := Run.changeDriver (·.push (.freeMemory memory))

end RenderTargets.Vulkan
