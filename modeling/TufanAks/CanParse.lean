import TufanAks.VehicleData
import TufanAks.Word.BigEndian

/-!
# `CanParse`

The payload parsers of `lib/CanParse`.  A C++ parser `bool parse(msg, out)` that returns `false`
leaves `out` unchanged; here it is a function into `Option`, `none` standing for `false`.

The six cell parsers `parseLbBmsE015` to `parseLbBmsE020` differ only in the four cells they
write; they are `parseCellGroup` at the first of these cells.
-/

namespace TufanAks

open Word

/-- `twai_message_t`: the identifier, the two format flags, the data length code and the payload. -/
structure twai_message_t where
  identifier : UInt32
  extd : Bool := false
  rtr : Bool := false
  data_length_code : UInt8 := 8
  data : Fin 8 → UInt8
  deriving DecidableEq

/-- The big-endian word in `data[2j]`, `data[2j+1]`. -/
def twai_message_t.word (msg : twai_message_t) (j : Fin 4) : UInt16 :=
  be16 (msg.data ⟨2 * j, by omega⟩) (msg.data ⟨2 * j + 1, by omega⟩)

/-- `struct MotorStatus`. -/
structure MotorStatus where
  rpm : Int16 := 0
  motorVoltageDeciV : UInt16 := 0
  errorFlags : UInt8 := 0
  isRunning : Bool := false
  isValid : Bool := false
  deriving DecidableEq

/-- `struct ChargerCommand`. -/
structure ChargerCommand where
  chargeVoltageSetpointDeciV : UInt16 := 0
  chargeCurrentSetpointDeciA : UInt16 := 0
  deriving DecidableEq

namespace CanParse

def parseMotorStatus (msg : twai_message_t) : Option MotorStatus :=
  if msg.data_length_code < 8 then none
  else some
    { rpm := (msg.word 0).toInt16
      motorVoltageDeciV := msg.word 1
      errorFlags := msg.data 7 &&& 0xFE
      isRunning := (msg.data 7 &&& 0x01) != 0
      isValid := true }

def parseLbBmsE000 (msg : twai_message_t) (out : TelemetryData) : Option TelemetryData :=
  if msg.data_length_code < 8 then none
  else some
    { out with
      TEL_bmsCurrentCentiA := (msg.word 0).toInt16.toInt32 * 10
      TEL_bmsPackVoltageDeciV := msg.word 1
      TEL_bmsSocHundredths := msg.word 2
      TEL_bmsSoc2Hundredths := msg.word 3
      TEL_bmsDataValid := true }

def parseCharger1806E5F4 (msg : twai_message_t) : Option ChargerCommand :=
  if msg.data_length_code < 4 then none
  else some
    { chargeVoltageSetpointDeciV := msg.word 0
      chargeCurrentSetpointDeciA := msg.word 1 }

def parseLbBmsE001 (msg : twai_message_t) (out : TelemetryData) : Option TelemetryData :=
  if msg.data_length_code < 8 then none
  else
    let temp1 := (msg.data 6).toInt8
    let temp2 := (msg.data 7).toInt8
    some
      { out with
        TEL_bmsCellVoltageMinDeciMv := msg.word 0
        TEL_bmsCellVoltageMaxDeciMv := msg.word 1
        TEL_bmsCellVoltageAvgDeciMv := msg.word 2
        TEL_bmsTempHighestC := if temp1 ≥ temp2 then temp1 else temp2
        TEL_bmsTempLowestC := if temp1 ≤ temp2 then temp1 else temp2 }

/-- The cells after `word j / 10` is written into cell `first + j` for `j < 4`. -/
def writeCells (first : ℕ) (word : Fin 4 → UInt16) (cells : Fin 24 → UInt16) (i : Fin 24) :
    UInt16 :=
  if h : first ≤ i ∧ i < first + 4 then word ⟨i - first, by omega⟩ / 10 else cells i

/-- The common body of the six cell parsers: four cells from `first` on. -/
def parseCellGroup (first : ℕ) (msg : twai_message_t) (out : TelemetryData) :
    Option TelemetryData :=
  if msg.data_length_code < 8 then none
  else some { out with TEL_bmsCellVoltages := writeCells first msg.word out.TEL_bmsCellVoltages }

def parseLbBmsE015 := parseCellGroup 0
def parseLbBmsE016 := parseCellGroup 4
def parseLbBmsE017 := parseCellGroup 8
def parseLbBmsE018 := parseCellGroup 12
def parseLbBmsE019 := parseCellGroup 16
def parseLbBmsE020 := parseCellGroup 20

/-- `enum class BmsPackVoltageFault`. -/
inductive BmsPackVoltageFault
  | NONE
  | UNDERVOLTAGE
  | OVERVOLTAGE
  deriving DecidableEq

def checkPackVoltageFault (packVoltageDeciV criticalMinDeciV criticalMaxDeciV : UInt16) :
    BmsPackVoltageFault :=
  if packVoltageDeciV ≤ criticalMinDeciV then .UNDERVOLTAGE
  else if packVoltageDeciV ≥ criticalMaxDeciV then .OVERVOLTAGE
  else .NONE

/-- The common body of `isMotorStatusTimedOut` and `isBmsStatusTimedOut`, on 32-bit ticks. -/
def isStatusTimedOut (hasSeen lastValid : Bool) (now lastTick timeoutTicks : UInt32) : Bool :=
  if !hasSeen || !lastValid then false else decide (now - lastTick ≥ timeoutTicks)

def isMotorStatusTimedOut := isStatusTimedOut
def isBmsStatusTimedOut := isStatusTimedOut

/-! ### The cell parsers only reject short frames -/

theorem parseCellGroup_eq_none_iff (first : ℕ) (msg : twai_message_t) (out : TelemetryData) :
    parseCellGroup first msg out = none ↔ msg.data_length_code < 8 := by
  simp [parseCellGroup]

end CanParse

end TufanAks
