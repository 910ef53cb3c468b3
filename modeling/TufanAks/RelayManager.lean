import TufanAks.Device.Registers
import TufanAks.Machine.Run
import TufanAks.SystemConfig

/-!
# `RelayManager.cpp`

The driver of the ten relays behind an MCP23S17 port expander.  A `RelayManager` holds the members
of the class and the chip behind its SPI bus (`Device.Bus`): every register write can be lost and
every read can fail, in any pattern.  The relays are active-low: a relay is energised when its pin
is an output (IODIR bit 0) that is driven low (OLAT bit 0).

What the manager has done is recorded: each register write with the chip before and after it
(`writes`), each run through the power-up order of the registers (`inits`) and each result of
`verifyOutputs` (`verified`).
-/

namespace TufanAks

def MCP23S17_IODIRA : UInt8 := 0x00
def MCP23S17_IODIRB : UInt8 := 0x01
def MCP23S17_OLATA : UInt8 := 0x14
def MCP23S17_OLATB : UInt8 := 0x15

/-- The registers of the chip. -/
abbrev Registers := UInt8 → UInt8

/-- The power-on content: all latches low, all pins inputs. -/
def powerOnRegisters : Registers := fun reg =>
  if reg = MCP23S17_IODIRA ∨ reg = MCP23S17_IODIRB then 0xFF else 0x00

/-- A register write that was issued, with the shadow state and the chip at that time. -/
structure RegisterWrite where
  s_relayState : UInt16
  before : Registers
  after : Registers

/-- A run through the power-up order: the shadow state and the chip at its start, and the outcomes
of its four writes. -/
structure InitSequence where
  s_relayState : UInt16
  chip : Registers
  succeeds : ℕ → Bool

/-- The members of the class, the bus with the chip, and what has been done so far. -/
structure RelayManager where
  s_relayState : UInt16 := 0
  /-- Whether the SPI device handle exists. -/
  s_spiDev : Bool := false
  s_initialized : Bool := false
  s_actuatorFault : Bool := false
  s_lastVerifyMs : UInt32 := 0
  s_verifyStarted : Bool := false
  bus : Device.Bus UInt8 UInt8
  writes : List RegisterWrite := []
  inits : List InitSequence := []
  verified : List Bool := []

namespace RelayManager

/-- The registers of the chip. -/
abbrev chip (r : RelayManager) : Registers := r.bus.regs

def writeRegister (reg value : UInt8) (r : RelayManager) : RelayManager :=
  if !r.s_spiDev then r
  else
    let bus := r.bus.write reg value
    { r with bus := bus, writes := r.writes ++ [⟨r.s_relayState, r.chip, bus.regs⟩] }

/-- The low and the high byte of the inverted shadow state. -/
def expOlatA (s_relayState : UInt16) : UInt8 := (~~~s_relayState).toUInt8
def expOlatB (s_relayState : UInt16) : UInt8 := (~~~s_relayState >>> 8).toUInt8

/-- Write the inverted shadow state to the two latches. -/
def writeOutputs (r : RelayManager) : RelayManager :=
  writeRegister MCP23S17_OLATB (expOlatB r.s_relayState)
    (writeRegister MCP23S17_OLATA (expOlatA r.s_relayState) r)

/-- The power-up order of `begin` and `reinitAndReassert`: the latches are set high before the pins
become outputs. -/
def initRegisters (r : RelayManager) : RelayManager :=
  let r := { r with inits := r.inits ++ [⟨r.s_relayState, r.chip, r.bus.succeeds⟩] }
  let r := writeRegister MCP23S17_OLATA 0xFF r
  let r := writeRegister MCP23S17_OLATB 0xFF r
  let r := writeRegister MCP23S17_IODIRA 0x00 r
  writeRegister MCP23S17_IODIRB 0x00 r

def reinitAndReassert (r : RelayManager) : RelayManager := writeOutputs (initRegisters r)

/-- The registers that are read back, in order. -/
def outputRegisters : List UInt8 :=
  [MCP23S17_OLATA, MCP23S17_OLATB, MCP23S17_IODIRA, MCP23S17_IODIRB]

/-- What they should hold. -/
def expectedOutputs (s_relayState : UInt16) : List UInt8 :=
  [expOlatA s_relayState, expOlatB s_relayState, 0x00, 0x00]

/-- The body of `verifyOutputs`. -/
def checkOutputs (r : RelayManager) : Bool × RelayManager :=
  -- nothing to verify, or nothing to read it with
  if !r.s_initialized || !r.s_spiDev then (true, r)
  else
    let (readings, bus) := r.bus.readAll outputRegisters
    let r := { r with bus := bus }
    if readings = some (expectedOutputs r.s_relayState) then (true, r)
    else
      let r := { reinitAndReassert r with s_actuatorFault := true }
      -- the outputs are read once more, for the log
      (false, { r with bus := (r.bus.readAll outputRegisters).2 })

def verifyOutputs (r : RelayManager) : Bool × RelayManager :=
  let (ok, r) := checkOutputs r
  (ok, { r with verified := r.verified ++ [ok] })

/-- `begin`, with the outcomes of the two driver calls. -/
def begin (busInitialized deviceAdded : Bool) (r : RelayManager) : Bool × RelayManager :=
  if !busInitialized then (false, r)
  else if !deviceAdded then (false, r)
  else
    let r := initRegisters { r with s_spiDev := true }
    let r := { r with s_relayState := 0, s_initialized := true }
    (true, (verifyOutputs r).2)

def setRelay (channel : UInt8) (state : Bool) (r : RelayManager) : RelayManager :=
  if r.s_initialized = false ∨ channel.toNat ≥ RELAY_TOTAL_CHANNELS then r
  else
    let cur :=
      if state then r.s_relayState ||| 1 <<< channel.toUInt16
      else r.s_relayState &&& ~~~(1 <<< channel.toUInt16)
    (verifyOutputs (writeOutputs { r with s_relayState := cur })).2

def allOn (r : RelayManager) : RelayManager :=
  if !r.s_initialized then r
  else
    let cur := (1 <<< UInt16.ofNat RELAY_TOTAL_CHANNELS) - 1
    (verifyOutputs (writeOutputs { r with s_relayState := cur })).2

/-- `allOff`; only the log depends on `silent`. -/
def allOff (_silent : Bool) (r : RelayManager) : RelayManager :=
  let r := { r with s_relayState := 0 }
  let r := writeRegister MCP23S17_OLATA 0xFF r
  let r := writeRegister MCP23S17_OLATB 0xFF r
  (verifyOutputs r).2

def getRelayState (channel : UInt8) (r : RelayManager) : Bool :=
  if channel.toNat ≥ RELAY_TOTAL_CHANNELS then false
  else (r.s_relayState >>> channel.toUInt16) &&& 0x01 = 1

def verifyIfDue (nowMs : UInt32) (r : RelayManager) : RelayManager :=
  if !r.s_initialized then r
  -- the first call starts the period
  else if !r.s_verifyStarted then { r with s_verifyStarted := true, s_lastVerifyMs := nowMs }
  else if nowMs - r.s_lastVerifyMs < RELAY_VERIFY_PERIOD_MS then r
  else (verifyOutputs { r with s_lastVerifyMs := nowMs }).2

def hasActuatorFault (r : RelayManager) : Bool := r.s_actuatorFault

def clearActuatorFault (r : RelayManager) : RelayManager := { r with s_actuatorFault := false }

/-! ### The class as a machine -/

/-- One call of a public function, or a change of the chip's registers that the manager did not
make. -/
inductive Action
  | begin (busInitialized deviceAdded : Bool)
  | setRelay (channel : UInt8) (state : Bool)
  | allOn
  | allOff (silent : Bool)
  | verifyOutputs
  | verifyIfDue (nowMs : UInt32)
  | clearActuatorFault
  | chip (change : Registers → Registers)

/-- The chip after a change from outside. -/
def changeChip (change : Registers → Registers) (r : RelayManager) : RelayManager :=
  { r with bus := { r.bus with regs := change r.bus.regs } }

/-- Perform one action. -/
def step (r : RelayManager) : Action → RelayManager
  | .begin busInitialized deviceAdded => (begin busInitialized deviceAdded r).2
  | .setRelay channel state => setRelay channel state r
  | .allOn => allOn r
  | .allOff silent => allOff silent r
  | .verifyOutputs => (verifyOutputs r).2
  | .verifyIfDue nowMs => verifyIfDue nowMs r
  | .clearActuatorFault => clearActuatorFault r
  | .chip change => changeChip change r

end RelayManager

end TufanAks
