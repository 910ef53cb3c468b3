import TufanAks.BmsNextionPacket
import TufanAks.DisplayHMI.Screen
import TufanAks.RelayManager
import TufanAks.VcuLogic.Predicates

/-!
# `vTask_HMI_Display`

The task of `main.cpp` that shows the state of the vehicle.  One iteration of its loop peeks twice
into the queue with the telemetry: the first record goes to `updateScreen`, the second to
`buildBmsNextionCommands`.  The touch commands, which the iteration reads after that, are the
subject of `DisplayHMI`.
-/

namespace TufanAks

def HMI_EMA_ALPHA : Float32 := 0.15

/-- The default of the parameter `maxBytes`. -/
def BMS_NEXTION_MAX_BYTES : ℕ := 90

def HMI_mapVcuState : VcuLogic.VcuState → HMI_VcuState
  | .INIT => .INIT
  | .IDLE => .IDLE
  | .READY => .READY
  | .DRIVE => .DRIVE
  | .EMERGENCY_STOP => .EMERGENCY_STOP
  | .FAULT => .FAULT

def HMI_areAllContactorsClosed (r : RelayManager) : Bool :=
  (List.range RELAY_TOTAL_CHANNELS).all fun REL_channel =>
    r.getRelayState (UInt8.ofNat REL_channel)

/-- The display, the smoothed values and the static variables of the task. -/
structure HmiTask where
  HMI_display : Screen := {}
  HMI_smoothedRpm : Float32 := 0
  HMI_smoothedSpeed : Float32 := 0
  BMS_hmiCache : BmsNextionCache := {}
  BMS_lastCellUpdateMs : UInt32 := 0
  BMS_firstRun : Bool := true

/-- What an iteration reads besides the telemetry: whether the queue exists, the state of the VCU,
the relays and the clock. -/
structure HmiInputs where
  queueExists : Bool
  vcuState : VcuLogic.VcuState
  relays : RelayManager
  nowMs : UInt32

namespace HmiTask

/-- One step of the moving average. -/
def ema (target smoothed : Float32) : Float32 :=
  (HMI_EMA_ALPHA * target) + ((1.0 - HMI_EMA_ALPHA) * smoothed)

/-- The smoothed values after a record. -/
def smooth (TEL_data : TelemetryData) (t : HmiTask) : HmiTask :=
  { t with
    HMI_smoothedRpm := ema TEL_data.TEL_motorRpm.toFloat32 t.HMI_smoothedRpm
    HMI_smoothedSpeed := ema (TEL_data.TEL_speedKmhX10.toFloat32 / 10.0) t.HMI_smoothedSpeed }

/-- The data for `updateScreen`, once the values are smoothed. -/
def screenData (inputs : HmiInputs) (TEL_data : Option TelemetryData) (t : HmiTask) :
    HMI_DisplayData :=
  match TEL_data with
  | none =>
    { HMI_currentBattery := HMI_BATTERY_NO_DATA
      HMI_bmsTemperatureC := HMI_TEMP_NO_DATA
      HMI_vcuState := HMI_mapVcuState inputs.vcuState
      HMI_contactorClosed := HMI_areAllContactorsClosed inputs.relays }
  | some TEL_data =>
    { HMI_currentSpeed := t.HMI_smoothedSpeed.toUInt16
      HMI_currentBattery := HMI_batteryDisplayValue HMI_SOC_SOURCE_VERIFIED
        TEL_data.TEL_bmsDataValid TEL_data.TEL_bmsSocHundredths
      HMI_motorRpm := t.HMI_smoothedRpm.toUInt16
      HMI_motorErrorFlags := TEL_data.TEL_motorErrorFlags
      HMI_motorDataValid := TEL_data.TEL_motorDataValid
      HMI_motorTimeoutActive := TEL_data.TEL_motorTimeoutActive
      HMI_bmsTemperatureC := HMI_temperatureDisplayValue HMI_TEMP_SOURCE_VERIFIED
        TEL_data.TEL_bmsDataValid TEL_data.TEL_bmsTempHighestC.toInt16
      HMI_bmsPackVoltageDeciV := TEL_data.TEL_bmsPackVoltageDeciV
      HMI_bmsPackCurrentCentiA := TEL_data.TEL_bmsCurrentCentiA
      HMI_vcuState := HMI_mapVcuState inputs.vcuState
      HMI_contactorClosed := HMI_areAllContactorsClosed inputs.relays }

/-- The first half of an iteration: `updateScreen`. -/
def showScreen (inputs : HmiInputs) (peeked : Option TelemetryData) (t : HmiTask) :
    List NextionCommand × HmiTask :=
  let TEL_data := if inputs.queueExists then peeked else none
  let t :=
    match TEL_data with
    | none => t
    | some TEL_data => t.smooth TEL_data
  let (sent, HMI_display) := t.HMI_display.updateScreen (t.screenData inputs TEL_data)
  (sent, { t with HMI_display })

/-- The pack as it is shown without valid data. -/
def BMS_rawNoData : BmsPackData where
  cellVoltageMv _ := HMI_CELL_VOLTAGE_NO_DATA

/-- What `computePack` is replaced by without valid data. -/
def BMS_compNoData : BmsComputed :=
  { (default : BmsComputed) with
    cellMaxMv := HMI_CELL_VOLTAGE_NO_DATA
    cellMinMv := HMI_CELL_VOLTAGE_NO_DATA
    warningLevel := BMS_WARN_CRITICAL }

/-- The variables `BMS_raw` and `BMS_comp`. -/
def packToShow (peeked : Option TelemetryData) : BmsPackData × BmsComputed :=
  match peeked with
  | none => (BMS_rawNoData, BMS_compNoData)
  | some TEL_data =>
    if TEL_data.TEL_bmsDataValid then
      (hmiPackData TEL_data, computePack (hmiPackData TEL_data))
    else (BMS_rawNoData, BMS_compNoData)

/-- The second half of an iteration: `buildBmsNextionCommands`, at most once a second for the
cells. -/
def showCells (inputs : HmiInputs) (peeked : Option TelemetryData) (t : HmiTask) :
    List NextionCommand × HmiTask :=
  if !inputs.queueExists then ([], t)
  else
    let (BMS_raw, BMS_comp) := packToShow peeked
    let due := inputs.nowMs - t.BMS_lastCellUpdateMs ≥ 1000
    let forceRefresh := t.BMS_firstRun
    let updateCells := t.BMS_firstRun || due
    let (sent, BMS_hmiCache) :=
      buildBmsNextionCommands BMS_comp BMS_raw t.BMS_hmiCache forceRefresh updateCells
        BMS_NEXTION_MAX_BYTES
    (sent.map fun x => x.1.command x.2,
      { t with
        BMS_hmiCache
        BMS_firstRun := false
        BMS_lastCellUpdateMs := if updateCells then inputs.nowMs else t.BMS_lastCellUpdateMs })

/-- One iteration of the loop up to the touch commands, with what the queue yields at the first and
at the second look: the commands sent, and the task after it. -/
def iteration (inputs : HmiInputs) (peeked peekedAgain : Option TelemetryData) (t : HmiTask) :
    List NextionCommand × HmiTask :=
  let (screen, t) := t.showScreen inputs peeked
  let (cells, t) := t.showCells inputs peekedAgain
  (screen ++ cells, t)

end HmiTask

end TufanAks
