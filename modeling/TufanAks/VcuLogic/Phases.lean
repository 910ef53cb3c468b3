import TufanAks.VcuLogic.Run

/-!
# `VcuLogic::run`, phase by phase

`run` shares the two pending flags, the queue, `s_state` and the relays with the tasks on the other
core, which can post an event or look at the state while a call is in progress.  Here a call is cut
where it touches these: at the exchange of each flag, at the verification of the relays, at the
queue, at the handling of the event and at the handler of the state.  `runStep` performs one phase,
and a `RunTask` is the module together with the place that the call in progress has reached.
-/

namespace TufanAks.VcuLogic

/-- What a call of `run` does next. -/
inductive RunPc
  /-- `s_eStopPending.exchange(false)`, with which a call begins; no call is in progress. -/
  | eStopPending
  | faultPending
  | verifyIfDue
  | pollEvent
  /-- The event has been taken from the queue. -/
  | event (event : VcuEvent)
  /-- The periodic state logic. -/
  | handler
  deriving DecidableEq, Repr

variable {σ : Type*} (act : IRelayActuator σ)

/-- One phase of `run`, and where the call goes on; a call that returns is at the start of the next
one. -/
def runStep : RunPc → Vcu σ → Vcu σ × RunPc
  | .eStopPending, v =>
    let v := { v with
      s_stateTimer := v.s_stateTimer + TASK_PERIOD_MS
      s_uptimeMs := v.s_uptimeMs + TASK_PERIOD_MS }
    if v.s_eStopPending = true ∧ v.s_state ≠ .EMERGENCY_STOP then
      (transitionTo .EMERGENCY_STOP { v with s_eStopPending := false }, .eStopPending)
    else ({ v with s_eStopPending := false }, .faultPending)
  | .faultPending, v =>
    if v.s_faultPending = true ∧ v.s_state ≠ .FAULT then
      (transitionTo .FAULT { v with s_faultPending := false }, .eStopPending)
    else ({ v with s_faultPending := false }, .verifyIfDue)
  | .verifyIfDue, v =>
    -- the checks after it read what only this task writes
    let v := { v with s_relays := act.verifyIfDue v.s_uptimeMs v.s_relays }
    if (v.s_state = .READY ∨ v.s_state = .DRIVE) ∧ act.hasActuatorFault v.s_relays = true then
      (transitionTo .FAULT v, .eStopPending)
    else if (v.s_state = .IDLE ∨ v.s_state = .READY ∨ v.s_state = .DRIVE) ∧
        hasCriticalCondition v.s_TEL_latestData v.s_state = true then
      (transitionTo .FAULT v, .eStopPending)
    else (logWarning v, .pollEvent)
  | .pollEvent, v =>
    match pollEvent v with
    | none => (v, .handler)
    | some (event, v) => (v, .event event)
  | .event event, v =>
    if event = .EMERGENCY_STOP then (transitionTo .EMERGENCY_STOP v, .eStopPending)
    else if event = .FAULT_DETECTED then
      (if v.s_state ≠ .FAULT then transitionTo .FAULT v else v, .eStopPending)
    else if event = .RESET ∧ (v.s_state = .FAULT ∨ v.s_state = .EMERGENCY_STOP) then
      (if isResetInterlockSatisfied v.s_TEL_latestData v.s_state = false then v
        else transitionTo .IDLE { v with s_relays := act.clearActuatorFault v.s_relays },
        .eStopPending)
    else (handleEvent act event v, .handler)
  | .handler, v => (periodic act v, .eStopPending)

/-- The module, and the place that the call in progress has reached. -/
structure RunTask (σ : Type*) where
  vcu : Vcu σ
  runPc : RunPc := .eStopPending

/-- One phase of `run`, or another action, which is not cut. -/
def RunTask.step (r : RunTask σ) : Action σ → RunTask σ
  | .run => { vcu := (runStep act r.runPc r.vcu).1, runPc := (runStep act r.runPc r.vcu).2 }
  | a => { r with vcu := VcuLogic.step act r.vcu a }

end TufanAks.VcuLogic
