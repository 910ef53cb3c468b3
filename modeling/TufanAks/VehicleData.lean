import Mathlib.Data.Fintype.Pi
import Mathlib.Data.UInt

/-!
# `VehicleData.h`

`TelemetryData`, the record that the CAN parsers fill, the tasks exchange and the VCU decides on.
Every field has the width of its C++ type; the default value is the zero-initialised record
(`TelemetryData d = {}`).
-/

namespace TufanAks

/-- `struct TelemetryData`. -/
structure TelemetryData where
  TEL_motorRpm : Int16 := 0
  TEL_motorVoltageDeciV : UInt16 := 0
  TEL_motorErrorFlags : UInt8 := 0
  TEL_motorDataValid : Bool := false
  TEL_motorTimeoutActive : Bool := false
  /-- Cell voltages in mV, filled from `0xE015` to `0xE020`. -/
  TEL_bmsCellVoltages : Fin 24 → UInt16 := fun _ => 0
  /-- Largest cell word of `0xE001`, byte[2:3]. -/
  TEL_bmsCellVoltageMaxDeciMv : UInt16 := 0
  /-- Smallest cell word of `0xE001`, byte[0:1]. -/
  TEL_bmsCellVoltageMinDeciMv : UInt16 := 0
  TEL_bmsCellVoltageAvgDeciMv : UInt16 := 0
  TEL_bmsSystemState : UInt8 := 0
  TEL_cellVoltageDataValid : Bool := false
  TEL_cellVoltageTimeoutActive : Bool := false
  TEL_bmsPackVoltageDeciV : UInt16 := 0
  TEL_bmsCurrentCentiA : Int32 := 0
  TEL_bmsSocHundredths : UInt16 := 0
  TEL_bmsSoc2Hundredths : UInt16 := 0
  TEL_bmsTempHighestC : Int8 := 0
  TEL_bmsTempLowestC : Int8 := 0
  TEL_bmsDataValid : Bool := false
  TEL_bmsTimeoutActive : Bool := false
  TEL_timestampMs : UInt32 := 0
  TEL_speedKmhX10 : UInt16 := 0
  deriving DecidableEq

end TufanAks
