import TufanAks.Machine.Run
import TufanAks.VcuLogic.Predicates

/-!
# `VcuLogic.cpp`

The VCU state machine.  `Vcu σ` holds the module's static variables; `σ` is the state of whatever
implements the injected `IRelayActuator`, of which the VCU sees only the answers.  The contactor
commands and zero-torque requests that the VCU issues are recorded, in order, in `commands`.

The public functions are `init`, `run`, `postEvent`, `setTelemetryData` and `setTorqueSink`; an
`Action` is one call of one of them, or a change of the actuator's own state from outside (a chip
reset, a failing bus).  `step` performs an action, so that `Machine.exec` over `step` is any
interleaving of calls.  Log output is not modelled; the variables that throttle it are kept, since
`s_lastEstopLogMs` and `s_lastFaultLogMs` also decide when `allOff` is repeated.
-/

namespace TufanAks.VcuLogic

/-- Time between two `run` calls, in ms. -/
def TASK_PERIOD_MS : UInt32 := 20

/-- Length of the FreeRTOS event queue, `xQueueCreate(8, sizeof(VcuEvent))`. -/
def EVENT_QUEUE_LENGTH : ℕ := 8

/-- The methods of `IRelayActuator` that the VCU calls, on an implementation with state `σ`. -/
structure IRelayActuator (σ : Type*) where
  allOn : σ → σ
  allOff : (silent : Bool) → σ → σ
  verifyIfDue : (nowMs : UInt32) → σ → σ
  hasActuatorFault : σ → Bool
  clearActuatorFault : σ → σ

/-- What the VCU tells the contactors and the torque sink to do. -/
inductive Command
  | allOn
  | allOff (silent : Bool)
  | torque (value : UInt16)
  deriving DecidableEq, Repr

/-- The static variables of the module, the actuator's state and the commands issued so far. -/
structure Vcu (σ : Type*) where
  s_state : VcuState := .INIT
  /-- The queued events, oldest first; `none` is the null handle. -/
  s_eventQueue : Option (List VcuEvent) := none
  s_stateTimer : UInt32 := 0
  s_uptimeMs : UInt32 := 0
  s_TEL_latestData : TelemetryData := {}
  s_VCU_warningLogged : Bool := false
  /-- Whether the telemetry mutex has been created. -/
  s_TEL_dataMutex : Bool := false
  s_eStopPending : Bool := false
  s_faultPending : Bool := false
  s_relays : σ
  s_relaysOpenedInEstop : Bool := false
  s_relaysOpenedInFault : Bool := false
  s_lastEstopLogMs : UInt32 := 0
  s_lastFaultLogMs : UInt32 := 0
  s_lastReadyRejectReason : Option String := none
  s_lastReadyRejectLogMs : UInt32 := 0
  /-- Whether a torque sink is bound. -/
  s_torqueSink : Bool := false
  /-- The commands issued so far, oldest first. -/
  commands : List Command := []

variable {σ : Type*} (act : IRelayActuator σ)

/-! ### Helpers -/

/-- Issue one command: the actuator performs it, the torque sink is outside the model. -/
def issue (v : Vcu σ) (c : Command) : Vcu σ :=
  { v with
    s_relays := match c with
      | .allOn => act.allOn v.s_relays
      | .allOff silent => act.allOff silent v.s_relays
      | .torque _ => v.s_relays
    commands := v.commands ++ [c] }

/-- Issue commands in order. -/
def issueAll (v : Vcu σ) (cs : List Command) : Vcu σ := cs.foldl (issue act) v

def transitionTo (next : VcuState) (v : Vcu σ) : Vcu σ :=
  let v := { v with s_state := next, s_stateTimer := 0 }
  match next with
  | .EMERGENCY_STOP => { v with s_relaysOpenedInEstop := false, s_lastEstopLogMs := -1000 }
  | .FAULT => { v with s_relaysOpenedInFault := false, s_lastFaultLogMs := -1000 }
  | _ => v

/-- `xQueueReceive` without waiting: the oldest event and the rest of the queue. -/
def pollEvent (v : Vcu σ) : Option (VcuEvent × Vcu σ) :=
  match v.s_eventQueue with
  | some (event :: rest) => some (event, { v with s_eventQueue := some rest })
  | _ => none

/-- Why `isReadyEntryPermitted` refused. -/
def readyRejectReason (d : TelemetryData) : String :=
  if !d.TEL_bmsDataValid then "bmsDataValid=0"
  else if hasCriticalCondition d .IDLE then "kritik kosul aktif"
  else if hasWarningCondition d then "uyari kosulu aktif"
  else if MOTOR_DRIVER_PRESENT && !d.TEL_motorDataValid then "motorDataValid=0"
  else "bilinmiyor"

/-! ### State handlers -/

def handleReady (v : Vcu σ) : Vcu σ :=
  if v.s_stateTimer ≤ TASK_PERIOD_MS then issue act v .allOn else v

/-- What one tick of `handleEmergencyStop` or `handleFault` issues and latches. -/
structure ShutdownTick where
  commands : List Command
  relaysOpened : Bool
  lastLogMs : UInt32

/-- The common body of `handleEmergencyStop` and `handleFault`, on the state timer and the two
variables that each keeps for itself: (1) request zero torque, (2)+(3) open the contactors, then
the log line that also times the repeated `allOff`. -/
def shutdownTick (torqueSink : Bool) (stateTimer : UInt32) (relaysOpened : Bool)
    (lastLogMs : UInt32) : ShutdownTick :=
  -- (1) on entry; without a bound sink the request is dropped
  let request :=
    if stateTimer ≤ TASK_PERIOD_MS ∧ torqueSink = true then [Command.torque 0] else []
  -- (2)+(3) the first `allOff` of the visit, later one for each log line
  let opening :=
    if stateTimer ≥ VCU_CONTACTOR_OPEN_DELAY_MS then
      if relaysOpened = false then [Command.allOff false]
      else if stateTimer - lastLogMs ≥ 1000 then [Command.allOff true] else []
    else []
  { commands := request ++ opening
    relaysOpened := relaysOpened || decide (stateTimer ≥ VCU_CONTACTOR_OPEN_DELAY_MS)
    lastLogMs := if stateTimer - lastLogMs ≥ 1000 then stateTimer else lastLogMs }

def handleEmergencyStop (v : Vcu σ) : Vcu σ :=
  let t := shutdownTick v.s_torqueSink v.s_stateTimer v.s_relaysOpenedInEstop v.s_lastEstopLogMs
  { issueAll act v t.commands with
    s_relaysOpenedInEstop := t.relaysOpened, s_lastEstopLogMs := t.lastLogMs }

def handleFault (v : Vcu σ) : Vcu σ :=
  let t := shutdownTick v.s_torqueSink v.s_stateTimer v.s_relaysOpenedInFault v.s_lastFaultLogMs
  { issueAll act v t.commands with
    s_relaysOpenedInFault := t.relaysOpened, s_lastFaultLogMs := t.lastLogMs }

/-- The "periodic state logic" at the end of `run`; `handleIdle` and `handleDrive` are empty. -/
def periodic (v : Vcu σ) : Vcu σ :=
  match v.s_state with
  | .READY => handleReady act v
  | .EMERGENCY_STOP => handleEmergencyStop act v
  | .FAULT => handleFault act v
  | _ => v

/-! ### `run` -/

/-- The throttled log of a refused READY entry. -/
def logReadyReject (reason : String) (v : Vcu σ) : Vcu σ :=
  if v.s_lastReadyRejectReason ≠ some reason ∨
      v.s_stateTimer - v.s_lastReadyRejectLogMs ≥ 1000 then
    { v with s_lastReadyRejectReason := some reason, s_lastReadyRejectLogMs := v.s_stateTimer }
  else v

/-- The state-specific part of the event handling. -/
def handleEvent (event : VcuEvent) (v : Vcu σ) : Vcu σ :=
  match v.s_state, event with
  | .IDLE, .START_REQUEST =>
    -- the health of the relays is asked for separately: the predicate reads the snapshot only
    let actuatorFault := act.hasActuatorFault v.s_relays
    if isReadyEntryPermitted v.s_TEL_latestData && !actuatorFault then transitionTo .READY v
    else logReadyReject
      (if actuatorFault then "actuator fault" else readyRejectReason v.s_TEL_latestData) v
  | .READY, .DRIVE_ENABLE => transitionTo .DRIVE v
  | _, _ => v

/-- `run` from the queue on: at most one event, then the periodic state logic. -/
def runEvents (v : Vcu σ) : Vcu σ :=
  match pollEvent v with
  | none => periodic act v
  | some (event, v) =>
    -- `postEvent` queues neither of these two; the branches are a fallback
    if event = .EMERGENCY_STOP then transitionTo .EMERGENCY_STOP v
    else if event = .FAULT_DETECTED then
      if v.s_state ≠ .FAULT then transitionTo .FAULT v else v
    -- an accepted or refused `RESET` ends the call, so the handler of the state does not run
    else if event = .RESET ∧ (v.s_state = .FAULT ∨ v.s_state = .EMERGENCY_STOP) then
      if isResetInterlockSatisfied v.s_TEL_latestData v.s_state = false then v
      else transitionTo .IDLE { v with s_relays := act.clearActuatorFault v.s_relays }
    else periodic act (handleEvent act event v)

/-- The edge-triggered warning log. -/
def logWarning (v : Vcu σ) : Vcu σ :=
  { v with s_VCU_warningLogged := hasWarningCondition v.s_TEL_latestData }

/-- `run` after the two pending flags: actuator verification, actuator fault, critical check. -/
def runChecks (v : Vcu σ) : Vcu σ :=
  let v := { v with s_relays := act.verifyIfDue v.s_uptimeMs v.s_relays }
  if (v.s_state = .READY ∨ v.s_state = .DRIVE) ∧ act.hasActuatorFault v.s_relays = true then
    transitionTo .FAULT v
  else if (v.s_state = .IDLE ∨ v.s_state = .READY ∨ v.s_state = .DRIVE) ∧
      hasCriticalCondition v.s_TEL_latestData v.s_state = true then
    transitionTo .FAULT v
  else runEvents act (logWarning v)

def run (v : Vcu σ) : Vcu σ :=
  let v := { v with
    s_stateTimer := v.s_stateTimer + TASK_PERIOD_MS
    s_uptimeMs := v.s_uptimeMs + TASK_PERIOD_MS }
  -- each pending flag is consumed where it is read (`exchange(false)`)
  if v.s_eStopPending = true ∧ v.s_state ≠ .EMERGENCY_STOP then
    transitionTo .EMERGENCY_STOP { v with s_eStopPending := false }
  else
    let v := { v with s_eStopPending := false }
    if v.s_faultPending = true ∧ v.s_state ≠ .FAULT then
      transitionTo .FAULT { v with s_faultPending := false }
    else runChecks act { v with s_faultPending := false }

/-! ### The other public functions -/

/-- `init` on a fresh module, with the outcomes of the two FreeRTOS allocations. -/
def init (queueCreated mutexCreated : Bool) (relays : σ) : Vcu σ :=
  let v : Vcu σ := { s_relays := relays }
  -- a failed allocation leaves the module in `INIT`
  if queueCreated = false then v
  else
    let v := { v with s_eventQueue := some [] }
    if mutexCreated = false then v
    else transitionTo .IDLE (issue act { v with s_TEL_dataMutex := true } (.allOff false))

def postEvent (event : VcuEvent) (v : Vcu σ) : Vcu σ :=
  match v.s_eventQueue with
  | none => v
  | some queue =>
    if event = .EMERGENCY_STOP then { v with s_eStopPending := true }
    else if event = .FAULT_DETECTED then { v with s_faultPending := true }
    -- `xQueueSend` without waiting: a full queue drops the event
    else if queue.length < EVENT_QUEUE_LENGTH then
      { v with s_eventQueue := some (queue ++ [event]) }
    else v

def setTelemetryData (d : TelemetryData) (v : Vcu σ) : Vcu σ :=
  if v.s_TEL_dataMutex = false then v else { v with s_TEL_latestData := d }

def setTorqueSink (bound : Bool) (v : Vcu σ) : Vcu σ :=
  { v with s_torqueSink := bound }

/-! ### The module as a machine -/

/-- One call into the module, or a change of the actuator's state that the VCU did not command. -/
inductive Action (σ : Type*)
  | run
  | postEvent (event : VcuEvent)
  | setTelemetryData (d : TelemetryData)
  | setTorqueSink (bound : Bool)
  | actuator (change : σ → σ)

/-- Perform one action. -/
def step (v : Vcu σ) : Action σ → Vcu σ
  | .run => run act v
  | .postEvent event => postEvent event v
  | .setTelemetryData d => setTelemetryData d v
  | .setTorqueSink bound => setTorqueSink bound v
  | .actuator change => { v with s_relays := change v.s_relays }

/-- The states reached from `init` by the calls `as`. -/
abbrev after (queueCreated mutexCreated : Bool) (relays : σ) (as : List (Action σ)) : Vcu σ :=
  Machine.exec (step act) (init act queueCreated mutexCreated relays) as

/-- A condition on the state in which `run` is called. -/
def OnRun (C : Vcu σ → Prop) (v : Vcu σ) (a : Action σ) : Prop := a = .run → C v

/-! ### Observations -/

/-- `EMERGENCY_STOP` and `FAULT`, the two safe states. -/
def VcuState.safe (s : VcuState) : Prop := s = .EMERGENCY_STOP ∨ s = .FAULT

instance (s : VcuState) : Decidable s.safe := inferInstanceAs (Decidable (_ ∨ _))

/-- The commands that go to the contactors, as opposed to the torque sink. -/
def Command.isContactor : Command → Bool
  | .torque _ => false
  | _ => true

/-- The commands that open all contactors. -/
def Command.isAllOff : Command → Bool
  | .allOff _ => true
  | _ => false

/-- The last contactor command issued. -/
def lastContactorCommand (cs : List Command) : Option Command :=
  (cs.filter Command.isContactor).getLast?

/-- The contactors are commanded open: the last contactor command is an `allOff`. -/
def ContactorsOpen (v : Vcu σ) : Prop :=
  (lastContactorCommand v.commands).any Command.isAllOff = true

instance (v : Vcu σ) : Decidable (ContactorsOpen v) := inferInstanceAs (Decidable (_ = _))

/-- The latch of the current safe state: this visit has opened the contactors. -/
def relaysOpened (v : Vcu σ) : Bool :=
  match v.s_state with
  | .EMERGENCY_STOP => v.s_relaysOpenedInEstop
  | .FAULT => v.s_relaysOpenedInFault
  | _ => false

/-- The log timer of the current safe state. -/
def lastLogMs (v : Vcu σ) : UInt32 :=
  match v.s_state with
  | .EMERGENCY_STOP => v.s_lastEstopLogMs
  | .FAULT => v.s_lastFaultLogMs
  | _ => 0

/-- The event at the head of the queue. -/
def nextEvent (v : Vcu σ) : Option VcuEvent := v.s_eventQueue.bind List.head?

/-- Neither pending flag makes the next `run` change the state. -/
def FlagsStay (v : Vcu σ) : Prop :=
  (v.s_eStopPending = true → v.s_state = .EMERGENCY_STOP) ∧
    (v.s_faultPending = true → v.s_state = .FAULT)

/-- The next `run` dequeues a `RESET` in a safe state, and the interlock is `satisfied` or not. -/
def DequeuesReset (satisfied : Bool) (v : Vcu σ) : Prop :=
  v.s_state.safe ∧ FlagsStay v ∧ nextEvent v = some .RESET ∧
    isResetInterlockSatisfied v.s_TEL_latestData v.s_state = satisfied

instance (v : Vcu σ) : Decidable (FlagsStay v) := inferInstanceAs (Decidable (_ ∧ _))

instance (b : Bool) (v : Vcu σ) : Decidable (DequeuesReset b v) :=
  inferInstanceAs (Decidable (_ ∧ _))

/-! ### An undisturbed environment -/

/-- Relays that never report an actuator fault. -/
def faultFreeRelays : IRelayActuator Unit where
  allOn := id
  allOff := fun _ => id
  verifyIfDue := fun _ => id
  hasActuatorFault := fun _ => false
  clearActuatorFault := id

/-- Fresh battery data with all values well inside the warning limits. -/
def healthyData : TelemetryData :=
  { TEL_bmsPackVoltageDeciV := 800, TEL_bmsDataValid := true }

end TufanAks.VcuLogic
