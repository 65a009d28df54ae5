import RenderTargets.Vulkan.Call
import RenderTargets.Vulkan.Config
/-!
# A scripted driver

A driver that keeps a trace of the calls made on it instead of drawing. Every call succeeds, unless
the **script** names it: a line of the script says which call of a name fails, counted from the
first one, and with which code. A call that fails hands nothing out.

## What the driver knows

The GPUs, layers and surface are given. Of what was made the driver keeps what later answers depend
on: how many objects of each kind there were, which image of a swapchain comes next, what is in the
memory behind a buffer, and which messenger receives messages.

The trace is kept with the latest call first. A call that failed is kept with what was asked for.
-/

namespace RenderTargets.Vulkan

/-- Bytes of a field that the driver writes a name into. -/
def nameCapacity : Nat := 256

/-- The name that is read from such a field. It ends at the first NUL character; there is none if
the field holds no NUL. -/
def nameInField? (written : String) : Option String :=
  let name := String.ofList (written.toList.takeWhile (· ≠ '\x00'))
  if name.utf8ByteSize < nameCapacity then some name else none

/-- A family of queues of a GPU. -/
structure QueueFamily where
  /-- What its queues can do. -/
  flags : Flags
  /-- Its queues can show images on the surface; nothing if that cannot be found out. -/
  presents : Option Bool
  deriving DecidableEq, Inhabited, Repr

/-- A GPU. -/
structure Gpu where
  /-- Its type by number. -/
  type : Int
  /-- Its name. -/
  name : String
  /-- Its limits. -/
  limits : Limits
  /-- It has depth buffers of the format with 24 bits. -/
  hasDepth24 : Bool
  /-- It has depth buffers of the format with 32 bits. -/
  hasDepth32 : Bool
  /-- Its families of queues. -/
  families : List QueueFamily
  deriving DecidableEq, Inhabited, Repr

/-- What a surface offers. -/
structure SurfaceOffer where
  /-- Formats. -/
  formats : List SurfaceFormat
  /-- Ways of showing images. -/
  modes : List Code
  /-- Sizes and numbers of images. -/
  capabilities : SurfaceCapabilities
  deriving DecidableEq, Inhabited, Repr

/-- A line of the script. -/
structure Failure where
  /-- The call. -/
  name : CallName
  /-- Which one, from one. -/
  nth : Nat
  /-- What it answers. -/
  code : ResultCode
  deriving DecidableEq, Inhabited, Repr

/-- What the driver knows of a swapchain. -/
structure ImageRing where
  /-- The swapchain. -/
  swapchain : Object .swapchain
  /-- Its images. -/
  images : List (Object .screenImage)
  /-- Position of the image to hand out next. -/
  next : Nat := 0
  deriving DecidableEq, Inhabited, Repr

/-- The memory behind a buffer. -/
structure BufferMemory where
  /-- The buffer. -/
  buffer : Object .buffer
  /-- Its bytes. -/
  bytes : List UInt8
  deriving DecidableEq, Inhabited, Repr

/-- The state of the driver. -/
structure Driver where
  /-- There is a driver at all. -/
  installed : Bool := true
  /-- Layers that can be switched on. -/
  layers : List String := []
  /-- The GPUs. -/
  gpus : List Gpu := []
  /-- The surface. -/
  surface : SurfaceOffer
  /-- How many images a swapchain gets, if not as many as asked for. -/
  imageCount : Option Nat := none
  /-- Size in the answer of a query for memory that fails, if not the true one. -/
  failingSize : Option Nat := none
  /-- The script. -/
  script : List Failure := []
  /-- The calls counted so far. -/
  counted : List CallName := []
  /-- The kinds of the objects made so far. -/
  made : List ObjectKind := []
  /-- The calls made so far, the latest first. -/
  calls : List Call := []
  /-- The swapchains. -/
  rings : List ImageRing := []
  /-- The memory behind buffers, the oldest buffer first. -/
  memory : List BufferMemory := []
  /-- The messenger and the severities it receives. -/
  messenger : Option (Object .messenger × Flags) := none
  deriving Repr

namespace Driver

/-- The calls made so far, the earliest first. -/
def trace (d : Driver) : List Call := d.calls.reverse

/-- The driver after a call. -/
def push (d : Driver) (c : Call) : Driver := { d with calls := c :: d.calls }

/-- How many calls of a name were counted. -/
def count (d : Driver) (name : CallName) : Nat := d.counted.count name

/-- The code with which the script lets the `nth` call of a name fail. -/
def scripted (d : Driver) (name : CallName) (nth : Nat) : Option ResultCode :=
  (d.script.find? fun f ↦ f.name == name && f.nth == nth).map (·.code)

/-- Counts a call and answers how the script lets it fail. -/
def tally (d : Driver) (name : CallName) : Option ResultCode × Driver :=
  (d.scripted name (d.count name + 1), { d with counted := name :: d.counted })

/-- An object that was not there before. -/
def fresh (d : Driver) (kind : ObjectKind) : Object kind × Driver :=
  (⟨d.made.count kind + 1⟩, { d with made := kind :: d.made })

/-- Makes a call that hands out nothing. -/
def perform (name : CallName) (c : Call) (d : Driver) : Except ResultCode Unit × Driver :=
  match d.tally name with
  | (some code, d) => (.error code, d.push (.failed name c code))
  | (none, d) => (.ok (), d.push c)

/-- Makes a call that hands out an object. -/
def create {kind : ObjectKind} (name : CallName) (c : Object kind → Call) (d : Driver) :
    Except ResultCode (Object kind) × Driver :=
  match d.tally name with
  | (some code, d) => (.error code, d.push (.failed name (c .null) code))
  | (none, d) =>
    let (o, d) := d.fresh kind
    (.ok o, d.push (c o))

/-- Asks for something. -/
def query {α : Type} (name : CallName) (answer : α) (d : Driver) : Except ResultCode α × Driver :=
  match d.tally name with
  | (some code, d) => (.error code, d)
  | (none, d) => (.ok answer, d)

/-- Asks for a list within `fuel` attempts. An attempt is two questions, for the length and for the
contents, and is made again if the second answer is that the list did not fit. -/
def enumerateWithin {α : Type} (name : CallName) (answer : List α) :
    (fuel : Nat) → Driver → Except ResultCode (List α) × Driver
  | 0, d => (.ok answer, d)
  | fuel + 1, d =>
    match query name () d with
    | (.error code, d) => (.error code, d)
    | (.ok (), d) =>
      match query name answer d with
      | (.error code, d) =>
        if code = .incomplete then enumerateWithin name answer fuel d else (.error code, d)
      | (.ok l, d) => (.ok l, d)

/-- Asks for a list. An attempt is repeated at most once for each line of the script. -/
def enumerate {α : Type} (name : CallName) (answer : List α) (d : Driver) :
    Except ResultCode (List α) × Driver :=
  enumerateWithin name answer (d.script.length + 1) d

/-- Forgets what is known of an object. -/
def forget (d : Driver) (o : AnyObject) : Driver :=
  match o.kind with
  | .buffer => { d with memory := d.memory.filter (·.buffer.number != o.number) }
  | .messenger =>
    { d with messenger := d.messenger.filter fun m ↦ m.1.number != o.number }
  | _ => d

/-- Destroys an object; nothing happens to the null object. -/
def destroy (o : AnyObject) (d : Driver) : Driver :=
  if o.number = 0 then d else (d.forget o).push (.destroy o)

/-! ### Calls with a memory of their own -/

/-- Makes a messenger. -/
def createMessenger (severity : Flags) (d : Driver) :
    Except ResultCode (Object .messenger) × Driver :=
  match d.create .createMessenger (.createMessenger · severity) with
  | (.ok o, d) => (.ok o, { d with messenger := some (o, severity) })
  | r => r

/-- Several objects that were not there before. -/
def freshMany (d : Driver) (kind : ObjectKind) : (n : Nat) → List (Object kind) × Driver
  | 0 => ([], d)
  | n + 1 =>
    let (o, d) := d.fresh kind
    let (more, d) := d.freshMany kind n
    (o :: more, d)

/-- Makes a swapchain with its images. -/
def createSwapchain (info : SwapchainInfo) (d : Driver) :
    Except ResultCode (Object .swapchain) × Driver :=
  match d.create .createSwapchain (.createSwapchain · info) with
  | (.ok o, d) =>
    let (images, d) := d.freshMany .screenImage (d.imageCount.getD info.minImages.toNat)
    (.ok o, { d with rings := { swapchain := o, images } :: d.rings })
  | r => r

/-- What is known of a swapchain. -/
def ring? (d : Driver) (o : Object .swapchain) : Option ImageRing :=
  d.rings.find? (·.swapchain == o)

/-- The images of a swapchain. -/
def swapchainImages (o : Object .swapchain) (d : Driver) :
    Except ResultCode (List (Object .screenImage)) × Driver :=
  d.enumerate .swapchainImages ((d.ring? o).elim [] (·.images))

/-- Hands out the next image of a swapchain. -/
def handOut (o : Object .swapchain) (signal : Object .semaphore) (code : ResultCode)
    (d : Driver) : Nat × Driver :=
  let index := (d.ring? o).elim 0 (·.next)
  let rings := d.rings.map fun r ↦
    if r.swapchain == o then { r with next := (r.next + 1) % r.images.length } else r
  (index, { d with rings }.push (.acquire o signal index code))

/-- Asks for an image to render into. Only a negative code hands out no image. The null swapchain
has none. -/
def acquire (o : Object .swapchain) (signal : Object .semaphore) (d : Driver) :
    Except ResultCode (Nat × ResultCode) × Driver :=
  let (scripted, d) := d.tally .acquire
  let code := scripted.getD (if o.isNull then .outOfDate else .success)
  if code.number < 0 ∨ o.isNull then
    (.error code, d.push (.failed .acquire (.acquire o signal 0 code) code))
  else
    let (index, d) := d.handOut o signal code
    (.ok (index, code), d)

/-- Hands an image over to be shown, and answers the code. -/
def present (queue : Object .queue) (wait : Object .semaphore) (o : Object .swapchain)
    (index : Nat) (d : Driver) : ResultCode × Driver :=
  let (scripted, d) := d.tally .present
  let code := scripted.getD .success
  (code, d.push (.present queue wait o index code))

/-- Puts zeroed memory behind a buffer. -/
def bindBuffer (o : Object .buffer) (size : Nat) (d : Driver) : Except ResultCode Unit × Driver :=
  match d.perform .bindBufferMemory (.bindBufferMemory o) with
  | (.ok (), d) =>
    (.ok (), { d with memory := d.memory ++ [⟨o, List.replicate size 0⟩] })
  | r => r

/-- Writes bytes to the start of the memory behind a buffer. -/
def write (o : Object .buffer) (bytes : List UInt8) (d : Driver) : Driver :=
  { d with memory := d.memory.map fun m ↦
      if m.buffer == o then { m with bytes := bytes ++ m.bytes.drop bytes.length } else m }

/-- The script with one more line: the `nth` call of a name from now on fails. -/
def addFailure (d : Driver) (name : CallName) (nth : Nat) (code : ResultCode) : Driver :=
  { d with script := ⟨name, d.count name + nth, code⟩ :: d.script }

end Driver

end RenderTargets.Vulkan
