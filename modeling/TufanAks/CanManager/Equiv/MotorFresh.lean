import TufanAks.CanManager.Equiv.Parts

/-!
# The age of the motor data

The flag for valid motor data is lowered by `updateMotorStatusValidity` when the last frame is too
old, but only if the manager holds a valid status from a frame that it has received.  That it does
whenever the flag is up is an invariant (`motorTied_perform`), and so motor data that is valid after
a poll is fresh (`motorYoung_of_poll`).
-/

namespace TufanAks.CanManager

open CanParse

/-! ### The flag and the status -/

/-- What the manager keeps of the motor status. -/
structure MotorView where
  mutex : Bool
  dataValid : Bool
  status : MotorStatus
  seen : Bool
  tick : UInt32

def motorView (c : CanManager) : MotorView where
  mutex := c.s_mutex
  dataValid := c.s_telemetryData.TEL_motorDataValid
  status := c.s_motorStatus
  seen := c.CAN_hasSeenMotorStatus
  tick := c.CAN_lastMotorStatusTick

/-- Valid data comes from a valid status that has been received. -/
def MotorTied (v : MotorView) : Prop :=
  v.dataValid = true → v.status.isValid = true ∧ v.seen = true

/-- Of the validity updates only the first concerns the motor. -/
theorem motorView_updateValidity (p : Poll) (c : CanManager) :
    motorView (updateValidity p c) =
      motorView (c.updateMotorStatusValidity p.motorTick) := by
  have hbms : ∀ now c, motorView (updateBmsValidity now c) = motorView c := by
    intro now c
    unfold updateBmsValidity
    split_ifs <;> rfl
  have hcells : ∀ now c, motorView (updateCellVoltageValidity now c) = motorView c := by
    intro now c
    unfold updateCellVoltageValidity
    dsimp only
    split_ifs <;> rfl
  have hcharger : ∀ now c, motorView (updateChargerValidity now c) = motorView c := by
    intro now c
    unfold updateChargerValidity
    split_ifs <;> rfl
  rw [updateValidity, hcharger, hcells, hbms]

/-- **One part** of a run keeps the data tied to the status. -/
theorem motorTied_perform {c : CanManager} (h : MotorTied (motorView c))
    (part : Part) : MotorTied (motorView (perform c part)) := by
  cases part with
  | begin mutexCreated driverStarted =>
    show MotorTied (motorView (begin mutexCreated driverStarted c))
    unfold begin
    split_ifs <;> exact h
  | setEventCallback bound => exact h
  | alerts a =>
    show MotorTied (motorView (handleAlerts a c))
    unfold handleAlerts
    dsimp only
    split_ifs <;> exact h
  | frame msg tick =>
    have hframe := dispatched msg tick c
    show MotorTied (motorView (handleMessage msg tick c))
    generalize acceptedAs msg = src, handleMessage msg tick c = c'
      at hframe ⊢
    cases hframe with
    | ignored => exact h
    | motor hdlc =>
      unfold handleMotorStatus parseMotorStatus
      rw [if_neg hdlc]
      dsimp only
      by_cases hmutex : (!c.s_mutex) = true
      · rw [if_pos hmutex]
        exact h
      · obtain ⟨events, hnotify⟩ := notifyFaultIfNeeded_eq c.s_telemetryData.TEL_motorErrorFlags _ _
        rw [if_neg hmutex, hnotify]
        exact fun _ => ⟨rfl, rfl⟩
    | bmsE000 =>
      rw [frame motorView (withoutBmsE000_handleLbBmsE000 msg tick c)
        fun _ => rfl]
      exact h
    | bmsE001 =>
      rw [frame motorView (withoutBmsE001_handleLbBmsE001 msg tick c)
        fun _ => rfl]
      exact h
    | cells k =>
      rw [frame motorView (withoutCells_handleCellGroup msg tick c _ k)
        fun _ => rfl]
      exact h
    | charger =>
      rw [frame motorView (withoutCharger_handleCharger1806E5F4 msg tick c)
        fun _ => rfl]
      exact h
  | validity p =>
    show MotorTied (motorView (updateValidity p c))
    rw [motorView_updateValidity]
    unfold updateMotorStatusValidity
    split_ifs
    · exact h
    · exact fun hvalid => nomatch hvalid
    · exact h

/-- **Every run** keeps them tied, part by part. -/
theorem motorTied_exec {c : CanManager} (h : MotorTied (motorView c)) (bs : List Part) :
    MotorTied (motorView (Machine.exec perform c bs)) :=
  Machine.exec_invariant (fun c => MotorTied (motorView c))
    (fun _ b _ hc => motorTied_perform hc b) h

/-! ### The timeout -/

/-- The frame is younger than the timeout of the motor status. -/
def MotorYoung (last : Option UInt32) (now : UInt32) : Prop :=
  ∃ t, last = some t ∧ now - t < pdMS_TO_TICKS CAN_MOTOR_STATUS_TIMEOUT_MS

/-- The first of the validity updates leaves valid data only if it is fresh. -/
theorem motorYoung_of_updateMotorStatusValidity {now : UInt32} {c : CanManager}
    (h : MotorTied (motorView c)) (hmutex : c.s_mutex = true)
    (hvalid : (updateMotorStatusValidity now c).s_telemetryData.TEL_motorDataValid = true) :
    MotorYoung (stamp (updateMotorStatusValidity now c) .motor) now := by
  unfold updateMotorStatusValidity at hvalid ⊢
  rw [if_neg (by simp [hmutex] : ¬(!c.s_mutex) = true)] at hvalid ⊢
  -- a timeout lowers the flag
  split_ifs at hvalid ⊢ with htimeout
  obtain ⟨hstatus, hseen⟩ := h hvalid
  have hstatus : c.s_motorStatus.isValid = true := hstatus
  have hseen : c.CAN_hasSeenMotorStatus = true := hseen
  refine ⟨c.CAN_lastMotorStatusTick, if_pos hseen, ?_⟩
  simpa [isMotorStatusTimedOut, isStatusTimedOut, hstatus, hseen] using htimeout

/-- **After a poll**, motor data that is valid is fresh. -/
theorem motorYoung_of_poll {as : List Action} {p : Poll}
    (h : (after (as ++ [.processRxMessages p])).s_telemetryData.TEL_motorDataValid = true) :
    MotorYoung (lastAccepted (as ++ [.processRxMessages p]) .motor) p.motorTick := by
  rw [← stamp_after]
  have hafter : after (as ++ [.processRxMessages p]) = (after as).processRxMessages p :=
    Machine.exec_concat _ _ _
  have hc := consistent as
  rw [hafter] at h ⊢
  by_cases hinit : (after as).isInitialized = true
  · have hmutex := (polled_processRxMessages hinit (hc.mutex hinit) p).mutex
    have htied : MotorTied (motorView (after as)) := by
      rw [after_eq]
      exact motorTied_exec (fun hvalid => absurd hvalid (by decide)) _
    rw [processRxMessages_of_initialized hinit] at h hmutex ⊢
    unfold Poll.parts at h hmutex ⊢
    rw [Machine.exec_concat] at h hmutex ⊢
    -- the manager before the validity updates
    generalize hbefore : Machine.exec perform (after as) _ = c at h hmutex ⊢
    have htied' : MotorTied (motorView c) := by
      rw [← hbefore]
      exact motorTied_exec htied _
    have hview := motorView_updateValidity p c
    have hkept : (updateMotorStatusValidity p.motorTick c).s_mutex = c.s_mutex := by
      unfold updateMotorStatusValidity
      split_ifs <;> rfl
    have hsame : c.s_mutex = true :=
      hkept.symm.trans ((congrArg MotorView.mutex hview).symm.trans hmutex)
    have hvalid : (updateMotorStatusValidity p.motorTick c).s_telemetryData.TEL_motorDataValid =
        true := (congrArg MotorView.dataValid hview).symm.trans h
    have hstamp : stamp (updateValidity p c) .motor =
        stamp (updateMotorStatusValidity p.motorTick c) .motor :=
      congrArg (fun v : MotorView => if v.seen then some v.tick else none) hview
    show MotorYoung (stamp (updateValidity p c) .motor) p.motorTick
    rw [hstamp]
    exact motorYoung_of_updateMotorStatusValidity htied' hsame hvalid
  · have hvalid := (hc.idle (Bool.eq_false_iff.mpr hinit)).2.1 .motor
    rw [processRxMessages_of_not_initialized hinit] at h
    rw [show valid _ .motor = _ from h] at hvalid
    cases hvalid

end TufanAks.CanManager
