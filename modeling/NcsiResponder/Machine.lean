import Mathlib.Logic.Function.Basic
import NcsiResponder.Network

/-!
# The firmware machine

The engine's code runs in `Fw`: a state monad over `Machine` that stops with a
`Fault` where C would dereference NULL, index past an array or never leave a
loop. A `Machine` is the static storage of ncsi.c and of the one port object
(`Engine`), the HAL calls made so far, and the indices of received bytes read so
far. Both logs are newest first.
-/

namespace NcsiResponder

/-- `gPackageState.port[0]`: NULL, or the one port object of this firmware image. -/
inductive PortPtr where
  | null
  | gPort
  deriving DecidableEq, Repr

/-- The static storage of ncsi.c, and the port object it points to. -/
structure Engine where
  gLocalPackageId : UInt8
  gLocalChannelId : UInt8
  gNcsiComputeChecksum : Bool
  frame : FrameVar → NetworkFrame
  /-- `gPackageState.selected` -/
  selected : Bool
  /-- `gPackageState.port[0]` -/
  port0 : PortPtr
  /-- `state` of the port object, whether or not it is registered -/
  state : ChannelState

/-- Static storage with the logs of HAL calls and of received bytes read. -/
structure Machine where
  engine : Engine
  calls : List HalCall
  reads : List Nat

/-- What stops the engine. -/
inductive Fault where
  /-- a NULL port was dereferenced -/
  | nullDeref
  /-- a loop that never leaves -/
  | diverges
  /-- an index outside its array -/
  | outOfBounds
  deriving DecidableEq, Repr

/-- Engine code. -/
abbrev Fw := StateT Machine (Except Fault)

/-- Received memory from a pointer on: `off` is the pointer's distance from the
    start of the received frame. -/
structure RxPtr where
  mem : Nat → UInt8
  off : Nat

/-- The pointer to a received frame. -/
def RxPtr.ofFrame (mem : Nat → UInt8) : RxPtr := ⟨mem, 0⟩

/-- `&p[i]` -/
def RxPtr.add (p : RxPtr) (i : Nat) : RxPtr := ⟨p.mem, p.off + i⟩

/-- The byte at `p[i]`, without reading it. -/
def RxPtr.byte (p : RxPtr) (i : Nat) : UInt8 := p.mem (p.off + i)

/-- The first `len` bytes from the pointer on, as handed to the HAL with a length. -/
def RxPtr.take (p : RxPtr) (len : Nat) : List UInt8 := (List.range len).map p.byte

/-! ## Primitive steps -/

/-- Read `p[i]`. -/
def RxPtr.rd (p : RxPtr) (i : Nat) : Fw UInt8 :=
  modifyGet fun m => (p.byte i, { m with reads := (p.off + i) :: m.reads })

/-- `ncsi_rd16(&p[i])` on received memory. -/
def RxPtr.rd16 (p : RxPtr) (i : Nat) : Fw UInt16 := do
  let b₀ ← p.rd i
  let b₁ ← p.rd (i + 1)
  return BigEndian.be16 b₀ b₁

/-- `ncsi_rd32(&p[i])` on received memory. -/
def RxPtr.rd32 (p : RxPtr) (i : Nat) : Fw UInt32 := do
  let b₀ ← p.rd i
  let b₁ ← p.rd (i + 1)
  let b₂ ← p.rd (i + 2)
  let b₃ ← p.rd (i + 3)
  return BigEndian.be32 b₀ b₁ b₂ b₃

/-- The static storage. -/
def getEngine : Fw Engine := do return (← get).engine

/-- Assign to static storage. -/
def modifyEngine (f : Engine → Engine) : Fw Unit :=
  modify fun m => { m with engine := f m.engine }

/-- `*port` for a port pointer: a fault when it is NULL. -/
def deref (port : PortPtr) : Fw ChannelState := do
  match port with
  | .null => throw .nullDeref
  | .gPort => return (← getEngine).state

/-- Assign to the fields of `port->state`. -/
def assign (port : PortPtr) (f : ChannelState → ChannelState) : Fw Unit := do
  match port with
  | .null => throw .nullDeref
  | .gPort => modifyEngine fun e => { e with state := f e.state }

/-- Make a HAL call: `answer` gives the reply from the calls so far, `entry` the log
    entry of the call with that reply. -/
def halCall {α : Type} (answer : List HalCall → α) (entry : α → HalCall) : Fw α :=
  modifyGet fun m =>
    (answer m.calls, { m with calls := entry (answer m.calls) :: m.calls })

/-! ## HAL functions -/

section Hal

variable (hal : Hal)

def boardConfigReadPackageID : Fw UInt8 := halCall hal.readPackageID .readPackageID

def boardConfigReadChannelID : Fw UInt8 := halCall hal.readChannelID .readChannelID

def networkInitPort (resetPhy : ReloadType) : Fw Unit := halCall (fun _ => ()) fun _ => .initPort resetPhy

def networkIsLinkUp : Fw Bool := halCall hal.isLinkUp .isLinkUp

def networkResetLink : Fw Unit := halCall (fun _ => ()) fun _ => .resetLink

def networkSetMACAddr (macHigh16 : UInt16) (macLow32 index : UInt32) (enable : Bool) : Fw Unit :=
  halCall (fun _ => ()) fun _ => .setMACAddr macHigh16 macLow32 index enable

def networkPassthroughRxPacket : Fw Bool := halCall hal.passthroughRxPacket .passthroughRxPacket

def networkTxFrame (frame : List UInt8) : Fw Bool :=
  halCall (fun calls => hal.txFrame calls frame) (.txFrame frame)

def miiGetPhy : Fw UInt8 := halCall hal.getPhy .getPhy

def miiReadRegister (phy reg : UInt8) : Fw Int32 :=
  halCall (fun calls => hal.readRegister calls phy reg) (.readRegister phy reg)

def miiReset (phy : UInt8) : Fw Bool := halCall (fun calls => hal.miiReset calls phy) (.miiReset phy)

end Hal

end NcsiResponder
