import TufanAks.CanManager
import TufanAks.Text.Decimal

/-!
# `Telemetry.cpp` and `TelemetrySanitize.h`

How a telemetry packet becomes the line that goes out over LoRa.  The CAN task completes the data of
the manager to a packet (`packet`), the send callback passes it through `sanitizeForUplink`, and
`sendStatus` formats it.
-/

namespace TufanAks

/-! ### `TelemetrySanitize.h` -/

def INT32_MIN : Int32 := -2147483648

def sanitizeSystemState (raw : UInt8) : UInt8 :=
  if raw ≥ 1 ∧ raw ≤ 4 then raw else 4

def sanitizeSoc (raw : UInt16) : UInt16 :=
  if raw > 10000 then 10000 else raw

def sanitizeCurrent (raw : Int32) : Int32 :=
  if raw = INT32_MIN then INT32_MIN + 1 else raw

def sanitizeForUplink (raw : TelemetryData) : TelemetryData :=
  { raw with
    TEL_bmsSystemState := sanitizeSystemState raw.TEL_bmsSystemState
    TEL_bmsSocHundredths := sanitizeSoc raw.TEL_bmsSocHundredths
    TEL_bmsCurrentCentiA := sanitizeCurrent raw.TEL_bmsCurrentCentiA }

/-! ### The packet -/

def TEL_SPD_X10_MAX : UInt16 := 3000

/-- What `rpmToSpeedKmhX10Impl` returns: it clamps the speed. -/
abbrev SpeedKmhX10 := { speed : UInt16 // speed ≤ TEL_SPD_X10_MAX }

/-- The packet that the CAN task puts into the queue. -/
def CanManager.packet (speed : SpeedKmhX10) (timestampMs : UInt32) (c : CanManager) :
    TelemetryData :=
  { c.s_telemetryData with TEL_speedKmhX10 := speed, TEL_timestampMs := timestampMs }

/-! ### The class -/

/-- The members of the class. -/
structure Telemetry where
  TEL_isInitialized : Bool := false
  TEL_sequenceCounter : UInt32 := 0

namespace Telemetry

def begin (_t : Telemetry) : Telemetry where
  TEL_isInitialized := true
  TEL_sequenceCounter := 0

/-- The arguments of the format, in order. -/
def arguments (seq : UInt32) (d : TelemetryData) : List ℤ :=
  [LORA_PROTOCOL_VERSION, seq.toNat, d.TEL_motorRpm.toInt, d.TEL_motorVoltageDeciV.toNat,
    d.TEL_motorErrorFlags.toNat, if d.TEL_motorDataValid then 1 else 0,
    if d.TEL_motorTimeoutActive then 1 else 0, d.TEL_bmsCellVoltageMaxDeciMv.toNat,
    d.TEL_bmsCellVoltageMinDeciMv.toNat, d.TEL_bmsTempHighestC.toInt, d.TEL_bmsTempLowestC.toInt,
    d.TEL_bmsSystemState.toNat, d.TEL_bmsPackVoltageDeciV.toNat, d.TEL_bmsCurrentCentiA.toInt,
    d.TEL_bmsSocHundredths.toNat, if d.TEL_bmsDataValid then 1 else 0, d.TEL_timestampMs.toNat,
    d.TEL_speedKmhX10.toNat]

/-- What `snprintf` formats: the tag and the arguments, separated by commas, and a line ending. -/
def format (seq : UInt32) (d : TelemetryData) : List Char :=
  [','].intercalate ("TEL".toList :: (arguments seq d).map Text.decimal) ++ ['\r', '\n']

/-- The size of `TEL_payload`, which holds one character less. -/
def payloadSize : ℕ := 192

/-- `sendStatus`, with the answer of `uart_write_bytes`: the characters handed to the UART, and the
state after the call. -/
def sendStatus (TEL_written : ℤ) (d : TelemetryData) (t : Telemetry) :
    Option (List Char) × Telemetry :=
  if !t.TEL_isInitialized then (none, t)
  else
    let TEL_payload := format t.TEL_sequenceCounter d
    let TEL_payloadLength := TEL_payload.length
    if TEL_payloadLength ≤ 0 then (none, t)
    else
      let TEL_txLength :=
        if TEL_payloadLength < payloadSize then TEL_payloadLength else payloadSize - 1
      (some (TEL_payload.take TEL_txLength),
        if TEL_written < 0 then t
        else { t with TEL_sequenceCounter := t.TEL_sequenceCounter + 1 })

end Telemetry

end TufanAks
