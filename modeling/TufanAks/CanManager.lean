import TufanAks.CanParse
import TufanAks.Machine.Run
import TufanAks.SystemConfig

/-!
# `CanManager.cpp`

The receiving side of the CAN manager.  A `CanManager` holds the members of the class; log output is
left out, the variables that throttle it are kept.  The events that `notifyFaultIfNeeded` passes to
a bound callback are recorded in `events`.

The TWAI driver and the tick counter are outside the repository's control: a `Poll` is what they
answer during one `processRxMessages` call.  An `Action` is one call of `begin`,
`setEventCallback` or `processRxMessages`.
-/

namespace TufanAks

open CanParse

/-! ### `BmsFreshness.h` and `MotorFaultDebounce.h` -/

/-- `struct BmsFreshnessResult`. -/
structure BmsFreshnessResult where
  dataValid : Bool
  timeoutActive : Bool

def bms_id_fresh (seen : Bool) (now lastTick timeoutTicks : UInt32) : Bool :=
  if !seen then false else decide (now - lastTick < timeoutTicks)

def bms_evaluate_freshness (sawE000 : Bool) (lastE000 : UInt32) (sawE001 : Bool)
    (lastE001 now timeoutTicks : UInt32) : BmsFreshnessResult :=
  let e000Fresh := bms_id_fresh sawE000 now lastE000 timeoutTicks
  let e001Fresh := bms_id_fresh sawE001 now lastE001 timeoutTicks
  { dataValid := e000Fresh && e001Fresh
    timeoutActive := sawE000 && !e000Fresh || sawE001 && !e001Fresh }

/-- The answer and the counter after the call. -/
def motorErrorFaultConfirmed (errorFlags : UInt8) (consecutiveCount debounceFrames : UInt16) :
    Bool × UInt16 :=
  if errorFlags = 0 then (false, 0)
  else
    let count := if consecutiveCount < 0xFFFF then consecutiveCount + 1 else consecutiveCount
    (decide (count ≥ debounceFrames), count)

/-! ### The class -/

/-- `enum class CAN_Event`. -/
inductive CAN_Event
  | NONE
  | FAULT_DETECTED
  deriving DecidableEq, Repr

/-- The members of the class and the events delivered so far. -/
structure CanManager where
  isInitialized : Bool := false
  s_motorStatus : MotorStatus := {}
  s_telemetryData : TelemetryData := {}
  /-- Whether the mutex exists. -/
  s_mutex : Bool := false
  CAN_lastMotorStatusTick : UInt32 := 0
  CAN_hasSeenMotorStatus : Bool := false
  CAN_motorTimeoutLogged : Bool := false
  CAN_motorErrorConsecutive : UInt16 := 0
  CAN_busOffLogged : Bool := false
  CAN_busRecoveredLogged : Bool := false
  CAN_rxQueueFullCount : UInt32 := 0
  CAN_rxRemoteFrameCount : UInt32 := 0
  CAN_lastRxQueueFullLogTick : UInt32 := 0
  CAN_lastBmsE000Tick : UInt32 := 0
  CAN_hasSeen_BmsE000 : Bool := false
  CAN_lastBmsE001Tick : UInt32 := 0
  CAN_hasSeen_BmsE001 : Bool := false
  CAN_bmsTimeoutLogged : Bool := false
  CAN_lastCellVoltageTick : UInt32 := 0
  CAN_hasSeen_CellVoltage : Bool := false
  CAN_cellVoltageTimeoutLogged : Bool := false
  CAN_cellVoltageSeenMask : UInt8 := 0
  CAN_cellVoltageComplete : Bool := false
  CAN_bmsPackFaultFlags : UInt8 := 0
  s_chargerCommand : ChargerCommand := {}
  CAN_lastChargerTick : UInt32 := 0
  CAN_hasSeenCharger : Bool := false
  CAN_chargerValid : Bool := false
  CAN_chargerStaleLogged : Bool := false
  /-- Whether a callback is bound. -/
  CAN_eventCallback : Bool := false
  /-- The events passed to the callback so far, oldest first. -/
  events : List CAN_Event := []

namespace CanManager

/-- `begin`, with the outcomes of the mutex creation and of the driver start; the frame that the
bit rate detection reads is discarded. -/
def begin (mutexCreated driverStarted : Bool) (c : CanManager) : CanManager :=
  if c.isInitialized then c
  else if !mutexCreated then { c with s_mutex := false }
  -- the mutex is deleted again when the driver does not start
  else if !driverStarted then { c with s_mutex := false }
  else { c with s_mutex := true, isInitialized := true }

def setEventCallback (bound : Bool) (c : CanManager) : CanManager :=
  { c with CAN_eventCallback := bound }

def notifyFaultIfNeeded (CAN_previousFlags CAN_currentFlags : UInt8) (c : CanManager) :
    CanManager :=
  if CAN_currentFlags = 0 ∨ CAN_currentFlags = CAN_previousFlags then c
  else if c.CAN_eventCallback then { c with events := c.events ++ [.FAULT_DETECTED] }
  else c

/-! ### The handlers -/

/-- The magnitude of the signed motor speed, as stored in `TEL_motorRpm`. -/
def motorRpmMagnitude (rpm : Int16) : Int16 :=
  (if rpm < 0 then -rpm.toInt32 else rpm.toInt32).toUInt32.toUInt16.toInt16

def handleMotorStatus (msg : twai_message_t) (tick : UInt32) (c : CanManager) : CanManager :=
  match parseMotorStatus msg with
  | none => c
  | some parsed =>
    if !c.s_mutex then c
    else
      let CAN_previousConfirmedFlags := c.s_telemetryData.TEL_motorErrorFlags
      let (CAN_motorFaultConfirmed, count) := motorErrorFaultConfirmed parsed.errorFlags
        c.CAN_motorErrorConsecutive MOTOR_ERROR_DEBOUNCE_FRAMES
      -- an error is reported only after enough faulty frames in a row
      let CAN_confirmedErrorFlags := if CAN_motorFaultConfirmed then parsed.errorFlags else 0
      notifyFaultIfNeeded CAN_previousConfirmedFlags CAN_confirmedErrorFlags
        { c with
          s_motorStatus := parsed
          CAN_lastMotorStatusTick := tick
          CAN_hasSeenMotorStatus := true
          CAN_motorTimeoutLogged := false
          CAN_motorErrorConsecutive := count
          s_telemetryData :=
            { c.s_telemetryData with
              TEL_motorRpm := motorRpmMagnitude parsed.rpm
              TEL_motorVoltageDeciV := parsed.motorVoltageDeciV
              TEL_motorErrorFlags := CAN_confirmedErrorFlags
              TEL_motorDataValid := parsed.isValid
              TEL_motorTimeoutActive := false } }

def handleLbBmsE000 (msg : twai_message_t) (tick : UInt32) (c : CanManager) : CanManager :=
  if !c.s_mutex then c
  else
    match parseLbBmsE000 msg {} with
    | none => c
    | some parsed =>
      let CAN_packVoltFault := checkPackVoltageFault parsed.TEL_bmsPackVoltageDeciV
        BMS_CRITICAL_MIN_PACK_VOLTAGE_DECI_V BMS_CRITICAL_MAX_PACK_VOLTAGE_DECI_V
      let CAN_newPackFaultFlags : UInt8 :=
        (if CAN_packVoltFault = .UNDERVOLTAGE then 0x01 else 0) |||
          (if CAN_packVoltFault = .OVERVOLTAGE then 0x02 else 0)
      -- the validity flag of `parsed` is not taken over, `updateBmsValidity` sets it
      notifyFaultIfNeeded c.CAN_bmsPackFaultFlags CAN_newPackFaultFlags
        { c with
          s_telemetryData :=
            { c.s_telemetryData with
              TEL_bmsPackVoltageDeciV := parsed.TEL_bmsPackVoltageDeciV
              TEL_bmsCurrentCentiA := parsed.TEL_bmsCurrentCentiA
              TEL_bmsSocHundredths := parsed.TEL_bmsSocHundredths
              TEL_bmsSoc2Hundredths := parsed.TEL_bmsSoc2Hundredths }
          CAN_lastBmsE000Tick := tick
          CAN_hasSeen_BmsE000 := true
          CAN_bmsPackFaultFlags := CAN_newPackFaultFlags }

def handleLbBmsE001 (msg : twai_message_t) (tick : UInt32) (c : CanManager) : CanManager :=
  if !c.s_mutex then c
  else
    match parseLbBmsE001 msg {} with
    | none => c
    | some parsed =>
      { c with
        s_telemetryData :=
          { c.s_telemetryData with
            TEL_bmsCellVoltageMinDeciMv := parsed.TEL_bmsCellVoltageMinDeciMv
            TEL_bmsCellVoltageMaxDeciMv := parsed.TEL_bmsCellVoltageMaxDeciMv
            TEL_bmsCellVoltageAvgDeciMv := parsed.TEL_bmsCellVoltageAvgDeciMv
            TEL_bmsTempHighestC := parsed.TEL_bmsTempHighestC
            TEL_bmsTempLowestC := parsed.TEL_bmsTempLowestC }
        CAN_lastBmsE001Tick := tick
        CAN_hasSeen_BmsE001 := true }

/-- The common body of the six cell handlers: the four cells from `4 * k` on, bit `k` of the seen
mask. -/
def handleCellGroup (parse : twai_message_t → TelemetryData → Option TelemetryData) (k : ℕ)
    (msg : twai_message_t) (tick : UInt32) (c : CanManager) : CanManager :=
  match parse msg {} with
  | none => c
  | some parsed =>
    -- the tick is shared by the six frames, the mask only ever grows here
    let mask := c.CAN_cellVoltageSeenMask ||| 1 <<< UInt8.ofNat k
    let complete := mask == 0x3F
    { c with
      s_telemetryData :=
        { c.s_telemetryData with
          TEL_bmsCellVoltages := fun i =>
            if 4 * k ≤ i ∧ i < 4 * k + 4 then parsed.TEL_bmsCellVoltages i
            else c.s_telemetryData.TEL_bmsCellVoltages i
          TEL_cellVoltageDataValid :=
            if complete then true else c.s_telemetryData.TEL_cellVoltageDataValid }
      CAN_lastCellVoltageTick := tick
      CAN_hasSeen_CellVoltage := true
      CAN_cellVoltageSeenMask := mask
      CAN_cellVoltageComplete := if complete then true else c.CAN_cellVoltageComplete }

def handleLbBmsE015 := handleCellGroup parseLbBmsE015 0
def handleLbBmsE016 := handleCellGroup parseLbBmsE016 1
def handleLbBmsE017 := handleCellGroup parseLbBmsE017 2
def handleLbBmsE018 := handleCellGroup parseLbBmsE018 3
def handleLbBmsE019 := handleCellGroup parseLbBmsE019 4
def handleLbBmsE020 := handleCellGroup parseLbBmsE020 5

def handleCharger1806E5F4 (msg : twai_message_t) (tick : UInt32) (c : CanManager) : CanManager :=
  if !c.s_mutex then c
  else
    match parseCharger1806E5F4 msg with
    | none => c
    | some parsed =>
      { c with
        s_chargerCommand := parsed
        CAN_lastChargerTick := tick
        CAN_hasSeenCharger := true
        CAN_chargerValid := true
        CAN_chargerStaleLogged := false }

/-! ### The validity updates -/

def updateMotorStatusValidity (CAN_nowTick : UInt32) (c : CanManager) : CanManager :=
  if !c.s_mutex then c
  else if isMotorStatusTimedOut c.CAN_hasSeenMotorStatus c.s_motorStatus.isValid CAN_nowTick
      c.CAN_lastMotorStatusTick (pdMS_TO_TICKS CAN_MOTOR_STATUS_TIMEOUT_MS) then
    { c with
      s_motorStatus := { c.s_motorStatus with isValid := false }
      s_telemetryData :=
        { c.s_telemetryData with TEL_motorDataValid := false, TEL_motorTimeoutActive := true }
      CAN_motorTimeoutLogged := true }
  else c

def updateBmsValidity (CAN_nowTick : UInt32) (c : CanManager) : CanManager :=
  if !c.s_mutex then c
  else
    let CAN_bmsFresh := bms_evaluate_freshness c.CAN_hasSeen_BmsE000 c.CAN_lastBmsE000Tick
      c.CAN_hasSeen_BmsE001 c.CAN_lastBmsE001Tick CAN_nowTick
      (pdMS_TO_TICKS CAN_BMS_STATUS_TIMEOUT_MS)
    { c with
      s_telemetryData :=
        { c.s_telemetryData with
          TEL_bmsDataValid := CAN_bmsFresh.dataValid
          TEL_bmsTimeoutActive := CAN_bmsFresh.timeoutActive }
      CAN_bmsTimeoutLogged := CAN_bmsFresh.timeoutActive }

def updateCellVoltageValidity (CAN_nowTick : UInt32) (c : CanManager) : CanManager :=
  if !c.s_mutex then c
  else if c.CAN_hasSeen_CellVoltage = true ∧
      CAN_nowTick - c.CAN_lastCellVoltageTick ≥ pdMS_TO_TICKS CAN_CELL_VOLTAGE_TIMEOUT_MS then
    -- the only place that clears the mask, and only for data that was valid
    let c :=
      if c.s_telemetryData.TEL_cellVoltageDataValid then
        { c with
          s_telemetryData := { c.s_telemetryData with TEL_cellVoltageDataValid := false }
          CAN_cellVoltageComplete := false
          CAN_cellVoltageSeenMask := 0 }
      else c
    { c with
      s_telemetryData := { c.s_telemetryData with TEL_cellVoltageTimeoutActive := true }
      CAN_cellVoltageTimeoutLogged := true }
  else if c.s_telemetryData.TEL_cellVoltageDataValid then
    { c with
      s_telemetryData := { c.s_telemetryData with TEL_cellVoltageTimeoutActive := false }
      CAN_cellVoltageTimeoutLogged := false }
  else c

def updateChargerValidity (CAN_nowTick : UInt32) (c : CanManager) : CanManager :=
  if !c.s_mutex then c
  else if isBmsStatusTimedOut c.CAN_hasSeenCharger c.CAN_chargerValid CAN_nowTick
      c.CAN_lastChargerTick (pdMS_TO_TICKS CAN_CHARGER_TIMEOUT_MS) then
    { c with CAN_chargerValid := false, CAN_chargerStaleLogged := true }
  else c

/-! ### `processRxMessages` -/

/-- The alerts that `twai_read_alerts` reports. -/
structure Alerts where
  TWAI_ALERT_BUS_OFF : Bool
  TWAI_ALERT_BUS_RECOVERED : Bool
  TWAI_ALERT_RX_QUEUE_FULL : Bool
  tick : UInt32

/-- What `twai_receive` returns. -/
inductive RxResult
  | message (msg : twai_message_t)
  | timeout
  | error

/-- One `twai_receive` call and the tick count at which its frame is handled. -/
structure Reception where
  result : RxResult
  tick : UInt32

/-- What the driver and the tick counter answer during one `processRxMessages` call. -/
structure Poll where
  alerts : Option Alerts := none
  receptions : List Reception := []
  motorTick : UInt32
  bmsTick : UInt32
  cellTick : UInt32
  chargerTick : UInt32

def handleAlerts (a : Alerts) (c : CanManager) : CanManager :=
  let c :=
    if a.TWAI_ALERT_BUS_OFF && !c.CAN_busOffLogged then
      { c with CAN_busOffLogged := true, CAN_busRecoveredLogged := false }
    else c
  let c :=
    if a.TWAI_ALERT_BUS_RECOVERED && !c.CAN_busRecoveredLogged then
      { c with CAN_busRecoveredLogged := true, CAN_busOffLogged := false }
    else c
  if a.TWAI_ALERT_RX_QUEUE_FULL then
    { c with
      CAN_rxQueueFullCount := c.CAN_rxQueueFullCount + 1
      CAN_lastRxQueueFullLogTick :=
        if a.tick - c.CAN_lastRxQueueFullLogTick ≥ pdMS_TO_TICKS CAN_RX_STATS_LOG_INTERVAL_MS then
          a.tick
        else c.CAN_lastRxQueueFullLogTick }
  else c

/-- The two switches over the identifier; `handleLbBmsStub` and unknown frames only log. -/
def dispatch (msg : twai_message_t) (tick : UInt32) (c : CanManager) : CanManager :=
  if msg.extd then
    if msg.identifier = CAN_ID_LB_BMS_E000 then handleLbBmsE000 msg tick c
    else if msg.identifier = CAN_ID_LB_CHARGER_CMD then handleCharger1806E5F4 msg tick c
    else if msg.identifier = CAN_ID_LB_BMS_E001 then handleLbBmsE001 msg tick c
    else if msg.identifier = CAN_ID_LB_BMS_E015 then handleLbBmsE015 msg tick c
    else if msg.identifier = CAN_ID_LB_BMS_E016 then handleLbBmsE016 msg tick c
    else if msg.identifier = CAN_ID_LB_BMS_E017 then handleLbBmsE017 msg tick c
    else if msg.identifier = CAN_ID_LB_BMS_E018 then handleLbBmsE018 msg tick c
    else if msg.identifier = CAN_ID_LB_BMS_E019 then handleLbBmsE019 msg tick c
    else if msg.identifier = CAN_ID_LB_BMS_E020 then handleLbBmsE020 msg tick c
    else c
  else if msg.identifier = CAN_ID_MOTOR_STATUS then handleMotorStatus msg tick c
  else c

/-- One received frame: remote frames are counted and skipped. -/
def handleMessage (msg : twai_message_t) (tick : UInt32) (c : CanManager) : CanManager :=
  if msg.rtr then { c with CAN_rxRemoteFrameCount := c.CAN_rxRemoteFrameCount + 1 }
  else dispatch msg tick c

/-- The receive loop: at most `n` frames, up to the first timeout or error. -/
def drain : ℕ → List Reception → CanManager → CanManager
  | 0, _, c => c
  | _ + 1, [], c => c
  | n + 1, rx :: rest, c =>
    match rx.result with
    | .timeout => c
    | .error => c
    | .message msg => drain n rest (handleMessage msg rx.tick c)

def processRxMessages (p : Poll) (c : CanManager) : CanManager :=
  if !c.isInitialized then c
  else
    let c := match p.alerts with
      | some a => handleAlerts a c
      | none => c
    let c := drain CAN_RX_DRAIN_MAX p.receptions c
    let c := updateMotorStatusValidity p.motorTick c
    let c := updateBmsValidity p.bmsTick c
    let c := updateCellVoltageValidity p.cellTick c
    updateChargerValidity p.chargerTick c

/-! ### The class as a machine -/

/-- One call of a public function. -/
inductive Action
  | begin (mutexCreated driverStarted : Bool)
  | setEventCallback (bound : Bool)
  | processRxMessages (p : Poll)

/-- Perform one call. -/
def step (c : CanManager) : Action → CanManager
  | .begin mutexCreated driverStarted => begin mutexCreated driverStarted c
  | .setEventCallback bound => setEventCallback bound c
  | .processRxMessages p => processRxMessages p c

/-- The manager after the calls `as` on a fresh object. -/
abbrev after (as : List Action) : CanManager := Machine.exec step {} as

end CanManager

end TufanAks
