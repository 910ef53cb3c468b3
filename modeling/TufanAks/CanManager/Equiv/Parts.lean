import TufanAks.CanManager.Equiv.Validity
import TufanAks.Machine.Parts

/-!
# Runs frame by frame

A call of `processRxMessages` handles the alerts, then one frame after the other, then updates the
validity flags.  `partsOf` lists what the calls of a run do in this way, and `after_eq` says that
the run of the manager is the run of these parts.  A frame is only ever handled by a manager that is
initialized (`along_partsOf`).
-/

namespace TufanAks.CanManager

/-- What a call consists of. -/
inductive Part
  | begin (mutexCreated driverStarted : Bool)
  | setEventCallback (bound : Bool)
  | alerts (a : Alerts)
  | frame (msg : twai_message_t) (tick : UInt32)
  | validity (p : Poll)

/-- The four validity updates at the end of a poll. -/
def updateValidity (p : Poll) (c : CanManager) : CanManager :=
  updateChargerValidity p.chargerTick
    (updateCellVoltageValidity p.cellTick
      (updateBmsValidity p.bmsTick (updateMotorStatusValidity p.motorTick c)))

/-- Whether a part is a received frame. -/
def Part.isFrame : Part → Bool
  | .frame _ _ => true
  | _ => false

def perform (c : CanManager) : Part → CanManager
  | .begin mutexCreated driverStarted => begin mutexCreated driverStarted c
  | .setEventCallback bound => setEventCallback bound c
  | .alerts a => handleAlerts a c
  | .frame msg tick => handleMessage msg tick c
  | .validity p => updateValidity p c

/-- The frames received up to the first timeout or error, with their ticks. -/
def messages : List Reception → List (twai_message_t × UInt32)
  | [] => []
  | rx :: rest =>
    match rx.result with
    | .message msg => (msg, rx.tick) :: messages rest
    | .timeout => []
    | .error => []

/-- The frames that a poll finds in the receive queue. -/
abbrev Poll.queued (p : Poll) : List (twai_message_t × UInt32) := messages p.receptions

/-- The parts of a poll. -/
def Poll.parts (p : Poll) : List Part :=
  p.alerts.toList.map .alerts ++
    (p.queued.take CAN_RX_DRAIN_MAX).map (fun x => .frame x.1 x.2) ++ [.validity p]

/-- The parts of a call. -/
def Action.parts (c : CanManager) : Action → List Part
  | .begin mutexCreated driverStarted => [.begin mutexCreated driverStarted]
  | .setEventCallback bound => [.setEventCallback bound]
  | .processRxMessages p => if c.isInitialized then p.parts else []

/-- The parts of the calls `as` on a fresh object. -/
def partsOf (as : List Action) : List Part :=
  Machine.trace step (fun c a => a.parts c) {} as

/-! ### The run of the parts -/

/-- **The receive loop** handles the queued frames, at most `n` of them. -/
theorem drain_eq (n : ℕ) (rxs : List Reception) (c : CanManager) :
    drain n rxs c =
      Machine.exec perform c (((messages rxs).take n).map fun x => .frame x.1 x.2) := by
  induction n generalizing rxs c with
  | zero => rfl
  | succ n ih =>
    rcases rxs with _ | ⟨rx, rest⟩
    · rfl
    unfold drain messages
    rcases rx.result with msg | _ | _
    · exact ih rest (handleMessage msg rx.tick c)
    · rfl
    · rfl

theorem exec_parts (c : CanManager) (a : Action) :
    Machine.exec perform c (a.parts c) = step c a := by
  cases a with
  | begin mutexCreated driverStarted => rfl
  | setEventCallback bound => rfl
  | processRxMessages p =>
    show Machine.exec perform c (if c.isInitialized then p.parts else []) = processRxMessages p c
    unfold processRxMessages Poll.parts
    split_ifs with hinit hnot hnot
    · simp [hinit] at hnot
    · rw [Machine.exec_append, Machine.exec_append, ← drain_eq]
      cases p.alerts with
      | none => rfl
      | some a => rfl
    · rfl
    · simp [hinit] at hnot

/-- The poll of an initialized manager. -/
theorem processRxMessages_of_initialized {c : CanManager} (hinit : c.isInitialized = true)
    (p : Poll) : processRxMessages p c = Machine.exec perform c p.parts := by
  have hparts : Action.parts c (.processRxMessages p) = p.parts := if_pos hinit
  rw [← hparts]
  exact (exec_parts c (.processRxMessages p)).symm

/-- **A run is the run of its parts.** -/
theorem after_eq (as : List Action) : after as = Machine.exec perform {} (partsOf as) :=
  (Machine.exec_trace exec_parts {} as).symm

/-! ### Parts that are no frames -/

/-- What the frames have brought: the telemetry without its flags, the state of the fault detection,
the charger command and the events. -/
structure Payload where
  telemetry : TelemetryData
  motorErrorConsecutive : UInt16
  bmsPackFaultFlags : UInt8
  chargerCommand : ChargerCommand
  events : List CAN_Event

def payload (c : CanManager) : Payload where
  telemetry :=
    { c.s_telemetryData with
      TEL_motorDataValid := false
      TEL_motorTimeoutActive := false
      TEL_bmsDataValid := false
      TEL_bmsTimeoutActive := false
      TEL_cellVoltageDataValid := false
      TEL_cellVoltageTimeoutActive := false }
  motorErrorConsecutive := c.CAN_motorErrorConsecutive
  bmsPackFaultFlags := c.CAN_bmsPackFaultFlags
  chargerCommand := c.s_chargerCommand
  events := c.events

theorem payload_handleAlerts (a : Alerts) (c : CanManager) :
    payload (handleAlerts a c) = payload c := by
  unfold handleAlerts
  dsimp only
  split_ifs <;> rfl

theorem payload_updateMotorStatusValidity (now : UInt32) (c : CanManager) :
    payload (updateMotorStatusValidity now c) = payload c := by
  unfold updateMotorStatusValidity
  split_ifs <;> rfl

theorem payload_updateBmsValidity (now : UInt32) (c : CanManager) :
    payload (updateBmsValidity now c) = payload c := by
  unfold updateBmsValidity
  split_ifs <;> rfl

theorem payload_updateCellVoltageValidity (now : UInt32) (c : CanManager) :
    payload (updateCellVoltageValidity now c) = payload c := by
  unfold updateCellVoltageValidity
  dsimp only
  split_ifs <;> rfl

theorem payload_updateChargerValidity (now : UInt32) (c : CanManager) :
    payload (updateChargerValidity now c) = payload c := by
  unfold updateChargerValidity
  split_ifs <;> rfl

theorem payload_updateValidity (p : Poll) (c : CanManager) :
    payload (updateValidity p c) = payload c := by
  rw [updateValidity, payload_updateChargerValidity, payload_updateCellVoltageValidity,
    payload_updateBmsValidity, payload_updateMotorStatusValidity]

/-- **Only frames** bring data. -/
theorem payload_perform {b : Part} (h : b.isFrame = false) (c : CanManager) :
    payload (perform c b) = payload c := by
  cases b with
  | begin mutexCreated driverStarted =>
    show payload (begin mutexCreated driverStarted c) = payload c
    unfold CanManager.begin
    split_ifs <;> rfl
  | setEventCallback bound => rfl
  | alerts a => exact payload_handleAlerts a c
  | frame msg tick => cases h
  | validity p => exact payload_updateValidity p c

/-! ### Frames are handled by an initialized manager -/

/-- What a part needs of the manager. -/
def Ready (c : CanManager) : Part → Prop
  | .frame _ _ => c.s_mutex = true
  | _ => True

/-- The frames of a poll find the mutex. -/
theorem along_frames (xs : List (twai_message_t × UInt32)) {c : CanManager}
    (hmutex : c.s_mutex = true) :
    Machine.Along perform Ready c (xs.map fun x => .frame x.1 x.2) := by
  induction xs generalizing c with
  | nil => trivial
  | cons x xs ih =>
    have hframe := (handled_handleMessage hmutex x.1 x.2).received
    exact ⟨hmutex, ih (hframe.mutex.trans hmutex)⟩

theorem along_parts {c : CanManager} (h : c.isInitialized = true → c.s_mutex = true)
    (a : Action) : Machine.Along perform Ready c (a.parts c) := by
  cases a with
  | begin mutexCreated driverStarted => exact ⟨trivial, trivial⟩
  | setEventCallback bound => exact ⟨trivial, trivial⟩
  | processRxMessages p =>
    show Machine.Along perform Ready c (if c.isInitialized then p.parts else [])
    unfold Poll.parts
    split_ifs with hinit
    · rw [Machine.along_append, Machine.along_append]
      refine ⟨⟨?_, along_frames _ ?_⟩, trivial, trivial⟩
      · cases p.alerts with
        | none => trivial
        | some a => exact ⟨trivial, trivial⟩
      · cases p.alerts with
        | none => exact h hinit
        | some a => exact (received_handleAlerts a c).mutex.trans (h hinit)
    · trivial

/-- An initialized manager has its mutex. -/
theorem mutex_step {c : CanManager} (h : c.isInitialized = true → c.s_mutex = true) (a : Action) :
    (step c a).isInitialized = true → (step c a).s_mutex = true := by
  cases a with
  | begin mutexCreated driverStarted => exact (begin_spec mutexCreated driverStarted c).2.2.1 h
  | setEventCallback bound => exact h
  | processRxMessages p =>
    show (processRxMessages p c).isInitialized = true → (processRxMessages p c).s_mutex = true
    by_cases hinit : c.isInitialized = true
    · exact fun _ => (polled_processRxMessages hinit (h hinit) p).mutex
    · rw [processRxMessages_of_not_initialized hinit]
      exact h

/-- **A frame is handled with the mutex** in every run. -/
theorem along_partsOf (as : List Action) : Machine.Along perform Ready {} (partsOf as) :=
  Machine.along_trace exec_parts (fun c => c.isInitialized = true → c.s_mutex = true)
    (fun _ a h => mutex_step h a) (fun _ a h => along_parts h a) (fun h => absurd h (by decide)) as

/-- The same for the frames of a run, one by one. -/
theorem mutex_of_partsOf {as : List Action} {pre post : List Part} {msg : twai_message_t}
    {tick : UInt32} (h : partsOf as = pre ++ .frame msg tick :: post) :
    (Machine.exec perform {} pre).s_mutex = true :=
  (Machine.along_iff_forall _ _).mp (along_partsOf as) pre (.frame msg tick) post h

/-- A poll at tick 0 that receives the frames `msgs`. -/
def messagePoll (msgs : List twai_message_t) : Poll where
  receptions := msgs.map fun msg => ⟨.message msg, 0⟩
  motorTick := 0
  bmsTick := 0
  cellTick := 0
  chargerTick := 0

end TufanAks.CanManager
