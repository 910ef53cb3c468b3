import TufanAks.AppMain
import TufanAks.VcuLogic.Phases

/-!
# `main.cpp` on two cores

The VCU task runs on core 1, the other tasks share core 0.  So `Firmware` is cut further here, where
a step of it touches more than once what the tasks share: a call of `VcuLogic::run` is a step for
each of its phases, and before `updateScreen` the display task reads the queue, the state and the
ten relays in a step each.  The actions are those of `Firmware`, of which the two tasks only need
more; any other action can fall in between.  A read sees the last write.
-/

namespace TufanAks

open VcuLogic (VcuState RunPc)

/-- What the display task has read for the next `updateScreen`, and what it reads next. -/
inductive Reading
  | queue
  | state (TEL_data : Option TelemetryData)
  /-- The relays before `REL_channel` are on. -/
  | relay (TEL_data : Option TelemetryData) (vcuState : VcuState) (REL_channel : ℕ)
  | done (TEL_data : Option TelemetryData) (vcuState : VcuState) (contactorClosed : Bool)

/-- The tasks, and how far the VCU task has come in `run` and the display task in its reads. -/
structure Cores where
  tasks : Firmware
  runPc : RunPc := .eStopPending
  reading : Reading := .queue

namespace Cores

open Firmware (Action BootInput HmiInput hmiInputs)
open RelayActuatorAdapter (relayActuator)

/-! ### The VCU task -/

/-- The look at the queue, or one phase of `run`. -/
def vcuStep (c : Cores) : Cores :=
  match c.tasks.vcuPc with
  | .peek => { c with tasks := Firmware.vcuStep c.tasks }
  | .run =>
    let (vcu, runPc) := VcuLogic.runStep relayActuator c.runPc c.tasks.vcu
    { c with
      tasks := { c.tasks with vcu, vcuPc := if runPc = .eStopPending then .peek else .run }
      runPc }

/-! ### The display task -/

/-- One of the reads before `updateScreen`. -/
def read (f : Firmware) : Reading → Reading
  | .queue => .state f.TEL_sensorDataQueue
  | .state TEL_data => .relay TEL_data f.vcu.s_state 0
  | .relay TEL_data vcuState REL_channel =>
    if !f.vcu.s_relays.getRelayState (UInt8.ofNat REL_channel) then .done TEL_data vcuState false
    else if REL_channel + 1 < RELAY_TOTAL_CHANNELS then .relay TEL_data vcuState (REL_channel + 1)
    else .done TEL_data vcuState true
  | .done TEL_data vcuState contactorClosed => .done TEL_data vcuState contactorClosed

/-- The task with the values smoothed. -/
def smoothed (TEL_data : Option TelemetryData) (hmi : HmiTask) : HmiTask :=
  match TEL_data with
  | none => hmi
  | some TEL_data => hmi.smooth TEL_data

/-- The data for `updateScreen`: nothing in them is read at the time of the call. -/
def shownData (input : HmiInput) (f : Firmware) (TEL_data : Option TelemetryData)
    (vcuState : VcuState) (contactorClosed : Bool) : HMI_DisplayData :=
  { (smoothed TEL_data f.hmi).screenData (hmiInputs input f) TEL_data with
    HMI_vcuState := HMI_mapVcuState vcuState
    HMI_contactorClosed := contactorClosed }

/-- A read, the call of `updateScreen`, or another step of the task. -/
def hmiStep (input : HmiInput) (c : Cores) : Cores :=
  match c.tasks.hmiPc, c.reading with
  | .updateScreen, .done TEL_data vcuState contactorClosed =>
    let hmi := smoothed TEL_data c.tasks.hmi
    let data := shownData input c.tasks TEL_data vcuState contactorClosed
    { c with
      tasks := { c.tasks with
        hmi := { hmi with HMI_display := (hmi.HMI_display.updateScreen data).2 }
        hmiPc := .buildBmsNextionCommands }
      reading := .queue }
  | .updateScreen, reading => { c with reading := read c.tasks reading }
  | _, _ => { c with tasks := Firmware.hmiStep input c.tasks }

/-! ### The two cores as a machine -/

/-- Perform one action. -/
def step (c : Cores) : Action → Cores
  | .vcu => vcuStep c
  | .hmi input => hmiStep input c
  | a => { c with tasks := Firmware.step c.tasks a }

/-- The tasks when they start. -/
def booted (input : BootInput) : Cores := { tasks := Firmware.booted input }

/-- The cores after the actions `as` from the start of the tasks. -/
abbrev after (input : BootInput) (as : List Action) : Cores := Machine.exec step (booted input) as

end Cores

end TufanAks
