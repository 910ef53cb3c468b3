import TufanAks.E22Config
import TufanAks.SystemConfig

/-!
# `LoraLink.cpp`

How the radio module is configured at boot.  `LoraHal` is the hardware behind `ILoraHal`: the
answers that it is going to give, a clock that only waiting advances, and what the module has been
sent so far.  Nothing is assumed about the answers, so a statement about every `LoraHal` is about
every behaviour of the hardware.

The loop of `waitAuxReady` runs with fuel, and so does whatever calls it; `none` means that the fuel
ran out.
-/

namespace TufanAks

/-! ### The hardware -/

/-- What `uartRead` returns, and the bytes that it has received. -/
structure UartAnswer where
  len : Int32
  bytes : ℕ → UInt8

/-- A buffer of zeros after the read.  It is untouched beyond the length returned, and altogether by
a length of at most zero. -/
def UartAnswer.buffer (answer : UartAnswer) : ℕ → UInt8 := fun i =>
  if (i : ℤ) < answer.len.toInt then answer.bytes i else 0

/-- What the module notices of a call. -/
inductive HalCall
  | setModePins (m0Level m1Level : ℕ)
  | uartFlush
  | uartWrite (data : List UInt8)
  | uartRead (len : ℕ) (timeoutMs : UInt32)
  deriving DecidableEq

/-- The clock, the answers to come and the calls so far. -/
structure LoraHal where
  clock : UInt64
  aux : ℕ → Bool
  answers : ℕ → UartAnswer
  calls : List HalCall := []

namespace LoraHal

def setModePins (m0Level m1Level : ℕ) (hal : LoraHal) : LoraHal :=
  { hal with calls := hal.calls ++ [.setModePins m0Level m1Level] }

def isAuxReady (hal : LoraHal) : Bool × LoraHal :=
  (hal.aux 0, { hal with aux := fun n => hal.aux (n + 1) })

def uartFlush (hal : LoraHal) : LoraHal := { hal with calls := hal.calls ++ [.uartFlush] }

def uartWrite (data : List UInt8) (hal : LoraHal) : LoraHal :=
  { hal with calls := hal.calls ++ [.uartWrite data] }

/-- A read into a buffer of zeros: what it returns and the buffer after it. -/
def uartRead (len : ℕ) (timeoutMs : UInt32) (hal : LoraHal) : (Int32 × (ℕ → UInt8)) × LoraHal :=
  (((hal.answers 0).len, (hal.answers 0).buffer),
    { hal with
      answers := fun n => hal.answers (n + 1)
      calls := hal.calls ++ [.uartRead len timeoutMs] })

def delayMs (ms : UInt32) (hal : LoraHal) : LoraHal :=
  { hal with clock := hal.clock + ms.toUInt64 }

def nowMs (hal : LoraHal) : UInt64 := hal.clock

end LoraHal

namespace LoraLink

/-- The conversion of an `int` to `size_t`. -/
def sizeT (n : Int32) : ℕ := n.toUInt32.toNat

/-! ### Waiting -/

/-- The loop of `waitAuxReady`. -/
def waitAuxLoop (t0 : UInt64) (timeoutMs : UInt32) : ℕ → LoraHal → Option (Bool × LoraHal)
  | 0, _ => none
  | fuel + 1, hal =>
    if hal.nowMs - t0 < timeoutMs.toUInt64 then
      let (ready, hal) := hal.isAuxReady
      if ready then some (true, hal) else waitAuxLoop t0 timeoutMs fuel (hal.delayMs 10)
    else some (false, hal)

def waitAuxReady (fuel : ℕ) (timeoutMs : UInt32) (hal : LoraHal) : Option (Bool × LoraHal) :=
  waitAuxLoop hal.nowMs timeoutMs fuel hal

/-! ### Configuration -/

/-- The refresh of the key when the registers are right; what it is answered is logged only. -/
def refreshCrypt (hal : LoraHal) : LoraHal :=
  let hal := hal.uartFlush
  let hal := hal.uartWrite e22_buildWriteCryptTempCommand
  (hal.uartRead 5 LORA_CFG_READ_TIMEOUT_MS).2

/-- The query for the registers, and what its answer leads to: whether they have to be written. -/
def readRegisters (hal : LoraHal) : Bool × LoraHal :=
  let hal := hal.uartFlush
  let hal := hal.uartWrite e22_buildReadAllCommand
  let ((readLen, readResp), hal) := hal.uartRead E22_RESPONSE_LEN LORA_CFG_READ_TIMEOUT_MS
  if readLen > 0 ∧ e22_isErrorResponse readResp (sizeT readLen) then (true, hal)
  else
    match e22_parseRegResponse readResp (sizeT readLen) with
    | none => (true, hal)
    | some current =>
      if e22_regsEqual current E22_CONTRACT_REGS then (false, refreshCrypt hal) else (true, hal)

/-- The permanent write; its confirmation is logged only. -/
def writeRegisters (fuel : ℕ) (hal : LoraHal) : Option LoraHal := do
  let hal := hal.uartFlush
  let hal := hal.uartWrite (e22_buildWriteCommand E22_CONTRACT_REGS)
  let hal := hal.delayMs 50
  let (flashDone, hal) ← waitAuxReady fuel LORA_AUX_CFG_TIMEOUT_MS hal
  if !flashDone then return hal
  else return (hal.uartRead E22_RESPONSE_LEN LORA_CFG_READ_TIMEOUT_MS).2

/-- What is done in the configuration mode. -/
def configureRegisters (fuel : ℕ) (hal : LoraHal) : Option LoraHal :=
  let (needsWrite, hal) := readRegisters hal
  if needsWrite then writeRegisters fuel hal else some hal

/-- The return to the normal mode; whether AUX gets ready is logged only. -/
def leaveConfigMode (fuel : ℕ) (hal : LoraHal) : Option LoraHal :=
  let hal := hal.setModePins LORA_MODE_NORMAL_M0_LEVEL LORA_MODE_NORMAL_M1_LEVEL
  (waitAuxReady fuel LORA_AUX_MODE_TIMEOUT_MS hal).map Prod.snd

def configureE22 (fuel : ℕ) (hal : LoraHal) : Option LoraHal := do
  let hal := hal.setModePins LORA_MODE_CONFIG_M0_LEVEL LORA_MODE_CONFIG_M1_LEVEL
  let (ready, hal) ← waitAuxReady fuel LORA_AUX_MODE_TIMEOUT_MS hal
  let hal ← if !ready then some hal else configureRegisters fuel hal
  leaveConfigMode fuel hal

end LoraLink

end TufanAks
