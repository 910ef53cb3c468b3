import TufanAks.CanManager
import TufanAks.DisplayHMI
import TufanAks.HmiTask
import TufanAks.LoraLink.UartInit
import TufanAks.LoraTask
import TufanAks.RelayActuatorAdapter
import TufanAks.Telemetry

/-!
# `main.cpp`: the firmware

`app_main` starts the relay driver and the state machine and then four tasks, which run side by
side: the CAN task fills the queue `TEL_sensorDataQueue` of length one and posts faults, the VCU
task and the display task look at the queue, the display task posts what the operator asks for, and
the LoRa task sends what is in the queue.

A task is cut into steps, and remembers in its program counter (`CanPc`, `VcuPc`, `HmiPc`, `LoraPc`)
which step comes next.  An `Action` is the next step of one of the tasks, with what the hardware
answers during it, or something that happens outside: bytes arrive from the display, the registers
of the relay chip change.  A run is any list of actions.

Two steps are longer than what the hardware does at once.  A call of `VcuLogic::run` is one step,
and so is `updateScreen` with the reads before it; but the VCU task has a core of its own, and the
other tasks share the other one, so that a step of one of these can fall into a call of `run`, and a
step of `run` between two reads.  The schedules here are those in which that does not happen.
`Cores` cuts the two steps further, and has the rest.

Log output, the watchdog and the delays are left out.  So is `sendTorqueCommand`, the torque sink:
without a motor driver it only logs.
-/

namespace TufanAks

/-! ### Where the tasks are -/

/-- The steps of `vTask_CAN_Comm`. -/
inductive CanPc
  | begin
  | processRxMessages
  /-- The events of the last call that have not been passed on; after them the snapshot is
  published. -/
  | notify (events : List CAN_Event)
  /-- The task has deleted itself. -/
  | deleted
  deriving DecidableEq

/-- The steps of `vTask_VCU_Logic`. -/
inductive VcuPc
  | peek
  | run
  deriving DecidableEq

/-- The steps of `vTask_HMI_Display`. -/
inductive HmiPc
  | begin (retry_count : ℕ)
  | updateScreen
  | buildBmsNextionCommands
  | readTouchCommand
  | degraded
  deriving DecidableEq

/-- The steps of `vTask_LoRa_UKS`. -/
inductive LoraPc
  | begin (uart_failedAttempts : ℕ)
  | configureE22
  | loop (LO_bootMs : UInt64)
  | telemetryDisabled
  deriving DecidableEq

/-- What the tasks own and what they share. -/
structure Firmware where
  /-- The content of the queue. -/
  TEL_sensorDataQueue : Option TelemetryData := none
  vcu : VcuLogic.Vcu RelayManager
  vcuPc : VcuPc := .peek
  can : CanManager := {}
  canPc : CanPc := .begin
  /-- The receiving side of the display. -/
  HMI_display : DisplayHMI := {}
  /-- Its sending side, with the variables of the task. -/
  hmi : HmiTask := {}
  hmiPc : HmiPc := .begin 0
  LO_sched : UplinkScheduler := LoraTask.LO_sched
  loraPc : LoraPc := .begin 0

namespace Firmware

open VcuLogic (VcuEvent postEvent setTelemetryData setTorqueSink)
open RelayActuatorAdapter (relayActuator)

/-! ### The CAN task -/

def WHEEL_DIAMETER_M : Float32 := 0.56

def GEAR_RATIO : Float32 := 1.0

def MOTOR_RPM_IS_WHEEL_RPM : Bool := true

def rpmToSpeedKmhX10Impl (rpm : UInt16) (wheelDiameterM gearRatio : Float32)
    (motorRpmIsWheelRpm : Bool) : UInt16 :=
  let absRpm := rpm.toFloat32
  let wheelRpm := if motorRpmIsWheelRpm then absRpm else absRpm / gearRatio
  let km_h := wheelRpm * 3.14159265 * wheelDiameterM * 60.0 / 1000.0
  let spd_x10 := km_h * 10.0
  if spd_x10 ≥ TEL_SPD_X10_MAX.toFloat32 then TEL_SPD_X10_MAX else spd_x10.toUInt16

def rpmToSpeedKmhX10 (rpm : UInt16) : UInt16 :=
  rpmToSpeedKmhX10Impl rpm WHEEL_DIAMETER_M GEAR_RATIO MOTOR_RPM_IS_WHEEL_RPM

/-- The record that the task publishes at the time `us`, `esp_timer_get_time()`. -/
def snapshot (us : UInt64) (d : TelemetryData) : TelemetryData :=
  { d with
    TEL_speedKmhX10 := rpmToSpeedKmhX10 d.TEL_motorRpm.toUInt16
    TEL_timestampMs := (us / 1000).toUInt32 }

def CAN_handleEvent (CAN_event : CAN_Event) (f : Firmware) : Firmware :=
  match CAN_event with
  | .FAULT_DETECTED => { f with vcu := postEvent .FAULT_DETECTED f.vcu }
  | .NONE => f

/-- What the CAN task finds in its next step. -/
structure CanInput where
  mutexCreated : Bool := true
  driverStarted : Bool := true
  poll : CanManager.Poll
  us : UInt64

def canStep (input : CanInput) (f : Firmware) : Firmware :=
  match f.canPc with
  | .begin =>
    let can := (f.can.setEventCallback true).begin input.mutexCreated input.driverStarted
    { f with can, canPc := if can.isInitialized then .processRxMessages else .deleted }
  | .processRxMessages =>
    let can := f.can.processRxMessages input.poll
    { f with can, canPc := .notify (can.events.drop f.can.events.length) }
  | .notify (CAN_event :: events) => CAN_handleEvent CAN_event { f with canPc := .notify events }
  | .notify [] =>
    { f with
      TEL_sensorDataQueue := some (snapshot input.us f.can.s_telemetryData)
      canPc := .processRxMessages }
  | .deleted => f

/-! ### The VCU task -/

def vcuStep (f : Firmware) : Firmware :=
  match f.vcuPc with
  | .peek =>
    let vcu := match f.TEL_sensorDataQueue with
      | some TEL_data => setTelemetryData TEL_data f.vcu
      | none => f.vcu
    { f with vcu, vcuPc := .run }
  | .run => { f with vcu := VcuLogic.run relayActuator f.vcu, vcuPc := .peek }

/-! ### The display task -/

/-- Attempts to start the display, at most. -/
def HMI_BEGIN_ATTEMPTS : ℕ := 5

/-- The event that a touch command asks for; an unknown command is logged only. -/
def commandEvent (HMI_incomingCommand : UInt8) : Option VcuEvent :=
  if HMI_incomingCommand = HMI_CMD_START then some .START_REQUEST
  else if HMI_incomingCommand = HMI_CMD_RESET then some .RESET
  else if HMI_incomingCommand = HMI_CMD_EMERGENCY_STOP then some .EMERGENCY_STOP
  else if HMI_incomingCommand = HMI_CMD_DRIVE_ENABLE then some .DRIVE_ENABLE
  else none

/-- What the display task finds in its next step. -/
structure HmiInput where
  driverInstalled : Bool := true
  nowMs : UInt32

/-- What `updateScreen` and `buildBmsNextionCommands` read besides the queue. -/
def hmiInputs (input : HmiInput) (f : Firmware) : HmiInputs where
  queueExists := true
  vcuState := f.vcu.s_state
  relays := f.vcu.s_relays
  nowMs := input.nowMs

def hmiStep (input : HmiInput) (f : Firmware) : Firmware :=
  match f.hmiPc with
  | .begin retry_count =>
    let HMI_display := f.HMI_display.begin input.driverInstalled
    let hmi := { f.hmi with HMI_display := f.hmi.HMI_display.begin input.driverInstalled }
    { f with
      HMI_display
      hmi
      hmiPc :=
        if HMI_display.HMI_isInitialized then .updateScreen
        else if retry_count + 1 < HMI_BEGIN_ATTEMPTS then .begin (retry_count + 1)
        else .degraded }
  | .updateScreen =>
    { f with
      hmi := (f.hmi.showScreen (hmiInputs input f) f.TEL_sensorDataQueue).2
      hmiPc := .buildBmsNextionCommands }
  | .buildBmsNextionCommands =>
    { f with
      hmi := (f.hmi.showCells (hmiInputs input f) f.TEL_sensorDataQueue).2
      hmiPc := .readTouchCommand }
  | .readTouchCommand =>
    let vcu := match f.HMI_display.readTouchCommand.1.bind commandEvent with
      | some event => postEvent event f.vcu
      | none => f.vcu
    { f with
      HMI_display := f.HMI_display.step .readTouchCommand
      vcu
      hmiPc := .updateScreen }
  | .degraded => f

/-! ### The LoRa task -/

/-- What the LoRa task finds in its next step; the packet in the queue is not part of it. -/
structure LoraInput where
  /-- Whether a round of `EspLoraHal::begin` succeeds, all three calls to the driver. -/
  uartInit : Bool
  pass : LoraTask.Pass

def loraStep (input : LoraInput) (f : Firmware) : Firmware :=
  match f.loraPc with
  | .begin uart_failedAttempts =>
    { f with
      loraPc :=
        if input.uartInit then .configureE22
        else if uart_init_retry_decision (uart_failedAttempts + 1) LORA_UART_MAX_INIT_ATTEMPTS =
            .GIVE_UP_DISABLED then .telemetryDisabled
        else .begin (uart_failedAttempts + 1) }
  -- what is configured is the radio module only
  | .configureE22 => { f with loraPc := .loop input.pass.nowMs }
  | .loop LO_bootMs =>
    { f with
      LO_sched :=
        LoraTask.pass LO_bootMs f.LO_sched { input.pass with live := f.TEL_sensorDataQueue } }
  | .telemetryDisabled => f

/-! ### The firmware as a machine -/

/-- The next step of a task, or something that happens outside. -/
inductive Action
  | can (input : CanInput)
  | vcu
  | hmi (input : HmiInput)
  | lora (input : LoraInput)
  /-- Bytes arrive from the display. -/
  | receive (bytes : List UInt8)
  /-- The registers of the relay chip change. -/
  | chip (change : Registers → Registers)

/-- Perform one action. -/
def step (f : Firmware) : Action → Firmware
  | .can input => canStep input f
  | .vcu => vcuStep f
  | .hmi input => hmiStep input f
  | .lora input => loraStep input f
  | .receive bytes => { f with HMI_display := f.HMI_display.step (.receive bytes) }
  | .chip change =>
    { f with vcu := { f.vcu with s_relays := RelayManager.changeChip change f.vcu.s_relays } }

/-- What the hardware and FreeRTOS answer while `app_main` runs. -/
structure BootInput where
  busInitialized : Bool := true
  deviceAdded : Bool := true
  /-- The two allocations of `VcuLogic::init`. -/
  eventQueueCreated : Bool := true
  mutexCreated : Bool := true
  sensorQueueCreated : Bool := true
  /-- The relay chip at power-on, and the outcomes of the transfers to it. -/
  chip : Registers
  succeeds : ℕ → Bool

/-- The firmware when the tasks start: what `app_main` leaves, if it gets so far. -/
def booted (input : BootInput) : Firmware where
  vcu := setTorqueSink true
    (RelayActuatorAdapter.boot input.chip input.succeeds input.eventQueueCreated input.mutexCreated)

/-- `app_main`; `none` means that it returns without starting the tasks. -/
def app_main (input : BootInput) : Option Firmware :=
  if !(RelayManager.begin input.busInitialized input.deviceAdded
      { bus := ⟨input.chip, input.succeeds⟩ }).1 then none
  else if !input.sensorQueueCreated then none
  else some (booted input)

/-- The firmware after the actions `as` from the start of the tasks. -/
abbrev after (input : BootInput) (as : List Action) : Firmware :=
  Machine.exec step (booted input) as

end Firmware

end TufanAks
