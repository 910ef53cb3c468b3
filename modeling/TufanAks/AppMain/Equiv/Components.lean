import TufanAks.AppMain
import TufanAks.CanManager.Equiv.Validity
import TufanAks.Machine.Component
import TufanAks.VcuLogic.Equiv.Interlocks

/-!
# The components of the firmware

However the tasks are scheduled, the state machine sees calls of its public functions and changes of
its actuator, the CAN manager sees calls of the CAN task, and the display sees arriving bytes and
calls of the display task: `vcuComponent`, `canComponent` and `displayComponent` are the views that
these have of a run.  The scheduler of the uplink sees passes of the LoRa task (`uplink_step`).
-/

namespace TufanAks.Firmware

open Machine
open RelayActuatorAdapter (relayActuator)

/-! ### The state machine -/

/-- The calls into the state machine, and the changes of its actuator, during one action. -/
def vcuActs (f : Firmware) : Action → List (VcuLogic.Action RelayManager)
  | .can _ =>
    match f.canPc with
    | .notify (.FAULT_DETECTED :: _) => [.postEvent .FAULT_DETECTED]
    | _ => []
  | .vcu =>
    match f.vcuPc with
    | .peek => f.TEL_sensorDataQueue.toList.map .setTelemetryData
    | .run => [.run]
  | .hmi _ =>
    match f.hmiPc with
    | .readTouchCommand =>
      (f.HMI_display.readTouchCommand.1.bind commandEvent).toList.map .postEvent
    | _ => []
  | .chip change => [.actuator (RelayManager.changeChip change)]
  | _ => []

theorem vcu_step (f : Firmware) (a : Action) :
    (step f a).vcu = exec (VcuLogic.step relayActuator) f.vcu (vcuActs f a) := by
  cases a with
  | can input =>
    rcases hpc : f.canPc with _ | _ | (_ | ⟨_ | _, events⟩) | _
    all_goals simp [step, canStep, vcuActs, hpc, CAN_handleEvent, VcuLogic.step]
  | vcu =>
    cases hpc : f.vcuPc with
    | run => simp [step, vcuStep, vcuActs, hpc, VcuLogic.step]
    | peek =>
      cases hqueue : f.TEL_sensorDataQueue with
      | none => simp [step, vcuStep, vcuActs, hpc, hqueue]
      | some d => simp [step, vcuStep, vcuActs, hpc, hqueue, VcuLogic.step]
  | hmi input =>
    cases hpc : f.hmiPc with
    | readTouchCommand =>
      cases hevent : f.HMI_display.readTouchCommand.1.bind commandEvent with
      | none => simp [step, hmiStep, vcuActs, hpc, hevent]
      | some event => simp [step, hmiStep, vcuActs, hpc, hevent, VcuLogic.step]
    | _ => simp [step, hmiStep, vcuActs, hpc]
  | lora input => cases hpc : f.loraPc <;> simp [step, loraStep, vcuActs, hpc]
  | receive bytes => rfl
  | chip change => rfl

/-- An action is at most one call. -/
theorem vcuActs_le_one (f : Firmware) (a : Action) :
    vcuActs f a = [] ∨ ∃ call, vcuActs f a = [call] := by
  cases a with
  | can input =>
    rcases hpc : f.canPc with _ | _ | (_ | ⟨_ | _, events⟩) | _
    all_goals simp [vcuActs, hpc]
  | vcu =>
    cases hpc : f.vcuPc with
    | run => simp [vcuActs, hpc]
    | peek => cases hqueue : f.TEL_sensorDataQueue <;> simp [vcuActs, hpc, hqueue]
  | hmi input =>
    cases hpc : f.hmiPc with
    | readTouchCommand =>
      cases hevent : f.HMI_display.readTouchCommand.1.bind commandEvent <;>
        simp [vcuActs, hpc, hevent]
    | _ => simp [vcuActs, hpc]
  | lora | receive | chip => simp [vcuActs]

def vcuComponent : Component step vcu (VcuLogic.step relayActuator) := ⟨vcuActs, vcu_step⟩

/-- The state machine is in a reachable state. -/
theorem reachable_vcu (b : BootInput) (as : List Action) : VcuLogic.Reachable (after b as).vcu := by
  refine vcuComponent.invariant VcuLogic.Reachable (fun _ a h => VcuLogic.reachable_step h a) ?_ as
  exact @VcuLogic.reachable_step _ relayActuator _
    (VcuLogic.reachable_init relayActuator _ _ _) (.setTorqueSink true)

/-! ### The CAN manager -/

/-- The calls into the CAN manager during one action. -/
def canActs (f : Firmware) : Action → List CanManager.Action
  | .can input =>
    match f.canPc with
    | .begin => [.setEventCallback true, .begin input.mutexCreated input.driverStarted]
    | .processRxMessages => [.processRxMessages input.poll]
    | _ => []
  | _ => []

theorem can_step (f : Firmware) (a : Action) :
    (step f a).can = exec CanManager.step f.can (canActs f a) := by
  cases a with
  | can input =>
    rcases hpc : f.canPc with _ | _ | (_ | ⟨_ | _, events⟩) | _
    all_goals simp [step, canStep, canActs, hpc, CAN_handleEvent, CanManager.step]
  | vcu => cases hpc : f.vcuPc <;> simp [step, vcuStep, canActs, hpc]
  | hmi input => cases hpc : f.hmiPc <;> simp [step, hmiStep, canActs, hpc]
  | lora input => cases hpc : f.loraPc <;> simp [step, loraStep, canActs, hpc]
  | receive bytes => rfl
  | chip change => rfl

def canComponent : Component step can CanManager.step := ⟨canActs, can_step⟩

/-- The calls of the CAN task during a run. -/
abbrev canCalls (b : BootInput) (as : List Action) : List CanManager.Action :=
  canComponent.trace (booted b) as

theorem can_after (b : BootInput) (as : List Action) :
    (after b as).can = CanManager.after (canCalls b as) := canComponent.view_exec _ _

/-! ### The display -/

/-- What the receiving side of the display sees of one action. -/
def displayActs (f : Firmware) : Action → List DisplayHMI.Action
  | .hmi input =>
    match f.hmiPc with
    | .begin _ => [.begin input.driverInstalled]
    | .readTouchCommand => [.readTouchCommand]
    | _ => []
  | .receive bytes => [.receive bytes]
  | _ => []

theorem display_step (f : Firmware) (a : Action) :
    (step f a).HMI_display = exec DisplayHMI.step f.HMI_display (displayActs f a) := by
  cases a with
  | can input =>
    rcases hpc : f.canPc with _ | _ | (_ | ⟨_ | _, events⟩) | _
    all_goals simp [step, canStep, displayActs, hpc, CAN_handleEvent]
  | vcu => cases hpc : f.vcuPc <;> simp [step, vcuStep, displayActs, hpc]
  | hmi input =>
    cases hpc : f.hmiPc <;> simp [step, hmiStep, displayActs, hpc, DisplayHMI.step]
  | lora input => cases hpc : f.loraPc <;> simp [step, loraStep, displayActs, hpc]
  | receive bytes => rfl
  | chip change => rfl

def displayComponent : Component step HMI_display DisplayHMI.step := ⟨displayActs, display_step⟩

/-- What the display sees during a run. -/
abbrev displayCalls (b : BootInput) (as : List Action) : List DisplayHMI.Action :=
  displayComponent.trace (booted b) as

theorem display_after (b : BootInput) (as : List Action) :
    (after b as).HMI_display = DisplayHMI.after (displayCalls b as) :=
  displayComponent.view_exec _ _

/-- The other tasks leave the display task where it is, and bytes that arrive do not start the
display. -/
theorem hmi_frame (f : Firmware) {a : Action} (ha : ∀ input, a ≠ .hmi input) :
    (step f a).hmiPc = f.hmiPc ∧
      (step f a).HMI_display.HMI_isInitialized = f.HMI_display.HMI_isInitialized ∧
      (step f a).hmi = f.hmi := by
  cases a with
  | can input =>
    rcases hpc : f.canPc with _ | _ | (_ | ⟨_ | _, events⟩) | _
    all_goals simp [step, canStep, hpc, CAN_handleEvent]
  | vcu => cases hpc : f.vcuPc <;> simp [step, vcuStep, hpc]
  | hmi input => exact absurd rfl (ha input)
  | lora input => cases hpc : f.loraPc <;> simp [step, loraStep, hpc]
  | receive bytes =>
    refine ⟨rfl, ?_, rfl⟩
    show (f.HMI_display.step (.receive bytes)).HMI_isInitialized = _
    unfold DisplayHMI.step
    dsimp only
    split_ifs <;> rfl
  | chip change => exact ⟨rfl, rfl, rfl⟩

/-! ### The uplink -/

/-- The passes of the LoRa loop during one action, with the time at which the loop has started. -/
def uplinkActs (f : Firmware) : Action → List (UInt64 × LoraTask.Pass)
  | .lora input =>
    match f.loraPc with
    | .loop LO_bootMs => [(LO_bootMs, { input.pass with live := f.TEL_sensorDataQueue })]
    | _ => []
  | _ => []

/-- One pass of the loop. -/
def uplinkPass (u : UplinkScheduler) (p : UInt64 × LoraTask.Pass) : UplinkScheduler :=
  LoraTask.pass p.1 u p.2

theorem uplink_step (f : Firmware) (a : Action) :
    (step f a).LO_sched = exec uplinkPass f.LO_sched (uplinkActs f a) := by
  cases a with
  | can input =>
    rcases hpc : f.canPc with _ | _ | (_ | ⟨_ | _, events⟩) | _
    all_goals simp [step, canStep, uplinkActs, hpc, CAN_handleEvent]
  | vcu => cases hpc : f.vcuPc <;> simp [step, vcuStep, uplinkActs, hpc]
  | hmi input => cases hpc : f.hmiPc <;> simp [step, hmiStep, uplinkActs, hpc]
  | lora input => cases hpc : f.loraPc <;> simp [step, loraStep, uplinkActs, hpc, uplinkPass]
  | receive bytes => rfl
  | chip change => rfl

/-! ### The queue -/

/-- The record that an action publishes. -/
def published (f : Firmware) : Action → Option TelemetryData
  | .can input =>
    match f.canPc with
    | .notify [] => some (snapshot input.us f.can.s_telemetryData)
    | _ => none
  | _ => none

/-- Only the CAN task writes to the queue, and a new record replaces the old one. -/
theorem queue_step (f : Firmware) (a : Action) :
    (step f a).TEL_sensorDataQueue = (published f a).or f.TEL_sensorDataQueue := by
  cases a with
  | can input =>
    rcases hpc : f.canPc with _ | _ | (_ | ⟨_ | _, events⟩) | _
    all_goals simp [step, canStep, published, hpc, CAN_handleEvent]
  | vcu => cases hpc : f.vcuPc <;> simp [step, vcuStep, published, hpc]
  | hmi input => cases hpc : f.hmiPc <;> simp [step, hmiStep, published, hpc]
  | lora input => cases hpc : f.loraPc <;> simp [step, loraStep, published, hpc]
  | receive bytes => rfl
  | chip change => rfl

/-! ### A bench -/

/-- A vehicle whose hardware answers as it should. -/
def bench : BootInput where
  chip := powerOnRegisters
  succeeds := fun _ => true

def benchFrame (id : UInt32) (data : Fin 8 → UInt8) : twai_message_t :=
  { identifier := id, extd := true, data }

/-- A poll that receives one frame of each of the two BMS sources: a pack of 80 V at 0 A, with cells
of 20 °C. -/
def benchPoll : CanManager.Poll where
  receptions :=
    [⟨.message (benchFrame CAN_ID_LB_BMS_E000 fun i =>
        [0, 0, 3, 32, 19, 136, 19, 136].getD i 0), 10⟩,
      ⟨.message (benchFrame CAN_ID_LB_BMS_E001 fun _ => 20), 10⟩]
  motorTick := 11
  bmsTick := 11
  cellTick := 11
  chargerTick := 11

/-- The next steps of the CAN task and of the display task on the bench. -/
def benchCan : Action := .can { poll := benchPoll, us := 20000 }

def benchHmi : Action := .hmi { nowMs := 30 }

/-- The first record is published and copied, and the `START` command of the operator is posted; the
next step of the VCU task is `run`. -/
def startup : List Action :=
  [benchCan, benchCan, benchCan, .vcu, benchHmi, .receive [0x5A, 0x01, 0xFE], benchHmi, benchHmi,
    benchHmi]

end TufanAks.Firmware
