import TufanAks.RelayManager
import TufanAks.VcuLogic.Run

/-!
# The relay driver as the actuator of the VCU

`RelayActuatorAdapter` of `main.cpp` injects the relay driver into the state machine: each method of
`IRelayActuator` is the method of `RelayManager` with the same name.  `boot` is the part of
`app_main` that starts the two, and an `Action` is what can happen afterwards: a call into the state
machine, or a change of the chip's registers that the driver did not make.
-/

namespace TufanAks.RelayActuatorAdapter

open VcuLogic

/-- `class RelayActuatorAdapter`. -/
def relayActuator : IRelayActuator RelayManager where
  allOn := RelayManager.allOn
  allOff := RelayManager.allOff
  verifyIfDue := RelayManager.verifyIfDue
  hasActuatorFault := RelayManager.hasActuatorFault
  clearActuatorFault := RelayManager.clearActuatorFault

/-- `app_main` after a successful `RelayManager::begin`, in front of a chip with any content whose
transfers succeed or fail as `succeeds` says; an unsuccessful `begin` halts the firmware. -/
def boot (chip : Registers) (succeeds : ℕ → Bool) (queueCreated mutexCreated : Bool) :
    Vcu RelayManager :=
  init relayActuator queueCreated mutexCreated
    (RelayManager.begin true true { bus := ⟨chip, succeeds⟩ }).2

/-- A call into the state machine, or a change of the chip from outside. -/
inductive Action
  | run
  | postEvent (event : VcuEvent)
  | setTelemetryData (d : TelemetryData)
  | setTorqueSink (bound : Bool)
  | chip (change : Registers → Registers)

/-- Perform one action. -/
def step (v : Vcu RelayManager) : Action → Vcu RelayManager
  | .run => run relayActuator v
  | .postEvent event => postEvent event v
  | .setTelemetryData d => setTelemetryData d v
  | .setTorqueSink bound => setTorqueSink bound v
  | .chip change => { v with s_relays := RelayManager.changeChip change v.s_relays }

/-- The state after the actions `as` from `v`. -/
abbrev after (v : Vcu RelayManager) (as : List Action) : Vcu RelayManager := Machine.exec step v as

end TufanAks.RelayActuatorAdapter
