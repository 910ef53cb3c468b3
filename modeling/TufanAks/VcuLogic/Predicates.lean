import TufanAks.BmsAlgo
import TufanAks.SystemConfig

/-!
# `VcuLogic.h`

The states and events of the VCU and the pure safety predicates on a telemetry snapshot.  The cell
thresholds are those of `BmsAlgo.h`, in mV; the cell fields they are compared with are the raw
words of `0xE001`.
-/

namespace TufanAks.VcuLogic

/-- `enum class VcuState`. -/
inductive VcuState
  | INIT
  | IDLE
  | READY
  | DRIVE
  | EMERGENCY_STOP
  | FAULT
  deriving DecidableEq, Repr

/-- `enum class VcuEvent`. -/
inductive VcuEvent
  | NONE
  | START_REQUEST
  | DRIVE_ENABLE
  | EMERGENCY_STOP
  | FAULT_DETECTED
  | RESET
  deriving DecidableEq, Repr

def isCurrentCritical (bmsCurrentCentiA : Int32) : Bool :=
  bmsCurrentCentiA.toInt ≥ BMS_CRITICAL_MAX_CHARGE_CURRENT_CENTI_A ||
    bmsCurrentCentiA.toInt ≤ -BMS_CRITICAL_MAX_DISCHARGE_CURRENT_CENTI_A

def isCurrentWarning (bmsCurrentCentiA : Int32) : Bool :=
  bmsCurrentCentiA.toInt ≥ BMS_WARN_MAX_CHARGE_CURRENT_CENTI_A ||
    bmsCurrentCentiA.toInt ≤ -BMS_WARN_MAX_DISCHARGE_CURRENT_CENTI_A

def isTempCritical (bmsTempHighestC : Int8) : Bool :=
  bmsTempHighestC.toInt ≥ BMS_CRITICAL_MAX_TEMP_C

def isTempWarning (bmsTempHighestC : Int8) : Bool :=
  bmsTempHighestC.toInt ≥ BMS_WARN_MAX_TEMP_C

def hasWarningCondition (d : TelemetryData) : Bool :=
  if !d.TEL_bmsDataValid then false
  else if d.TEL_cellVoltageDataValid &&
      d.TEL_bmsCellVoltageMinDeciMv < BMS_CELL_UNDERVOLT_WARN_MV then true
  else if d.TEL_cellVoltageDataValid &&
      d.TEL_bmsCellVoltageMaxDeciMv > BMS_CELL_OVERVOLT_WARN_MV then true
  else
    d.TEL_bmsPackVoltageDeciV ≤ BMS_WARN_MIN_PACK_VOLTAGE_DECI_V ||
      d.TEL_bmsPackVoltageDeciV ≥ BMS_WARN_MAX_PACK_VOLTAGE_DECI_V ||
      isTempWarning d.TEL_bmsTempHighestC || isCurrentWarning d.TEL_bmsCurrentCentiA

def hasCriticalCondition (d : TelemetryData) (currentState : VcuState) : Bool :=
  if d.TEL_motorErrorFlags != 0 || (d.TEL_bmsDataValid && d.TEL_bmsSystemState == 4) then true
  else if d.TEL_motorTimeoutActive && currentState != .IDLE then true
  else if d.TEL_bmsTimeoutActive && currentState != .IDLE then true
  else if !d.TEL_bmsDataValid then false
  else if d.TEL_cellVoltageDataValid &&
      d.TEL_bmsCellVoltageMinDeciMv < BMS_CELL_UNDERVOLT_CRIT_MV then true
  else if d.TEL_cellVoltageDataValid &&
      d.TEL_bmsCellVoltageMaxDeciMv > BMS_CELL_OVERVOLT_CRIT_MV then true
  else
    d.TEL_bmsPackVoltageDeciV ≤ BMS_CRITICAL_MIN_PACK_VOLTAGE_DECI_V ||
      d.TEL_bmsPackVoltageDeciV ≥ BMS_CRITICAL_MAX_PACK_VOLTAGE_DECI_V ||
      isTempCritical d.TEL_bmsTempHighestC || isCurrentCritical d.TEL_bmsCurrentCentiA

def isResetInterlockSatisfied (d : TelemetryData) (currentState : VcuState) : Bool :=
  if d.TEL_motorErrorFlags != 0 || (d.TEL_bmsDataValid && d.TEL_bmsSystemState == 4) then false
  else if hasCriticalCondition d currentState then false
  else true

def isReadyEntryPermitted (d : TelemetryData) : Bool :=
  if !d.TEL_bmsDataValid then false
  else if hasCriticalCondition d .IDLE then false
  else if hasWarningCondition d then false
  -- `#if MOTOR_DRIVER_PRESENT`
  else if MOTOR_DRIVER_PRESENT && !d.TEL_motorDataValid then false
  else true

/-! ### What the predicates have to do with each other -/

/-- Outside `IDLE` all states judge a snapshot alike. -/
theorem hasCriticalCondition_congr (d : TelemetryData) {s t : VcuState} (hs : s ≠ .IDLE)
    (ht : t ≠ .IDLE) : hasCriticalCondition d s = hasCriticalCondition d t := by
  simp [hasCriticalCondition, hs, ht]

/-- Outside `IDLE` the two timeout flags are critical too; nothing else depends on the state. -/
theorem hasCriticalCondition_eq_or (d : TelemetryData) {s : VcuState} (hs : s ≠ .IDLE) :
    hasCriticalCondition d s
      = (hasCriticalCondition d .IDLE || d.TEL_motorTimeoutActive || d.TEL_bmsTimeoutActive) := by
  simp only [hasCriticalCondition]
  cases d.TEL_motorTimeoutActive <;> cases d.TEL_bmsTimeoutActive <;> simp [hs]

/-- The reset interlock is the absence of a critical condition: its first test repeats the first
test of `hasCriticalCondition`. -/
theorem isResetInterlockSatisfied_eq (d : TelemetryData) (s : VcuState) :
    isResetInterlockSatisfied d s = !hasCriticalCondition d s := by
  unfold isResetInterlockSatisfied
  split_ifs with h hc
  · simp [hasCriticalCondition, h]
  · simp [hc]
  · simp [hc]

/-- A permitted READY entry is judged in the `IDLE` context. -/
theorem not_critical_of_isReadyEntryPermitted {d : TelemetryData}
    (h : isReadyEntryPermitted d = true) : hasCriticalCondition d .IDLE = false := by
  unfold isReadyEntryPermitted at h
  split_ifs at h with h1 h2
  · simpa using h2

end TufanAks.VcuLogic
