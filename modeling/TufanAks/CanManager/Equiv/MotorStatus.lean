import TufanAks.CanManager.Equiv.Parts

/-!
# The motor data in the telemetry

The speed and the voltage in the telemetry are those of the motor status frame accepted last
(`showsMotor_after`); the speed is stored as a magnitude, which fits except for the least value of
the signed type (`toInt_motorRpmMagnitude`).
-/

namespace TufanAks.CanManager

open CanParse

/-! ### The magnitude -/

theorem toInt16_toUInt32 (x : Int32) : x.toUInt32.toUInt16.toInt16 = x.toInt16 := by
  apply Int16.toBitVec_inj.mp
  show BitVec.setWidth 16 x.toBitVec = BitVec.signExtend 16 x.toBitVec
  rw [BitVec.signExtend_eq_setWidth_of_le _ (by decide)]

theorem toInt_neg_toInt32 (rpm : Int16) : (-rpm.toInt32).toInt = -rpm.toInt := by
  rw [Int32.toInt_neg, Int16.toInt_toInt32]
  have hlo := rpm.le_toInt
  have hhi := rpm.toInt_lt
  apply Int.bmod_eq_of_le
  all_goals omega

/-- **The magnitude** of the least speed wraps around. -/
theorem toInt_motorRpmMagnitude (rpm : Int16) :
    (motorRpmMagnitude rpm).toInt = if rpm.toInt = -32768 then -32768 else |rpm.toInt| := by
  have hlo := rpm.le_toInt
  have hhi := rpm.toInt_lt
  have hneg : rpm < 0 ↔ rpm.toInt < 0 := Int16.lt_iff_toInt_lt
  unfold motorRpmMagnitude
  rw [toInt16_toUInt32, Int32.toInt_toInt16]
  by_cases h : rpm < 0
  · have hrpm := hneg.mp h
    rw [if_pos h, toInt_neg_toInt32, abs_of_neg hrpm]
    by_cases hmin : rpm.toInt = -32768
    · rw [if_pos hmin, hmin]
      rfl
    · rw [if_neg hmin]
      apply Int.bmod_eq_of_le
      all_goals omega
  · have hrpm : 0 ≤ rpm.toInt := not_lt.mp (mt hneg.mpr h)
    rw [if_neg h, Int16.toInt_toInt32, abs_of_nonneg hrpm, if_neg (by omega)]
    apply Int.bmod_eq_of_le
    all_goals omega

/-! ### The frames -/

/-- The motor status of a message that is accepted as one. -/
def motorStatus (msg : twai_message_t) : Option MotorStatus :=
  if acceptedAs msg = some .motor then parseMotorStatus msg else none

/-- The motor status frames that the receive loop accepts. -/
def acceptedMotor : ℕ → List Reception → List MotorStatus
  | 0, _ => []
  | _ + 1, [] => []
  | n + 1, rx :: rest =>
    match rx.result with
    | .timeout => []
    | .error => []
    | .message msg => (motorStatus msg).toList ++ acceptedMotor n rest

/-- The motor status frames that a call accepts. -/
def Action.acceptedMotor (c : CanManager) : Action → List MotorStatus
  | .processRxMessages p =>
    if c.isInitialized then CanManager.acceptedMotor CAN_RX_DRAIN_MAX p.receptions else []
  | _ => []

/-- The motor status that the calls `as` have accepted last, all zero before the first. -/
def lastMotorStatus (as : List Action) : MotorStatus :=
  Machine.ghost step (fun m c a => (a.acceptedMotor c).getLastD m) {} {} as

/-- The speed and the voltage in the telemetry. -/
def motorShown (c : CanManager) : Int16 × UInt16 :=
  (c.s_telemetryData.TEL_motorRpm, c.s_telemetryData.TEL_motorVoltageDeciV)

theorem motorShown_of_payload {c c' : CanManager} (h : payload c' = payload c) :
    motorShown c' = motorShown c :=
  congrArg (fun p => (p.telemetry.TEL_motorRpm, p.telemetry.TEL_motorVoltageDeciV)) h

/-- The telemetry shows the motor status `m`. -/
structure ShowsMotor (m : MotorStatus) (c : CanManager) : Prop where
  rpm : c.s_telemetryData.TEL_motorRpm = motorRpmMagnitude m.rpm
  voltage : c.s_telemetryData.TEL_motorVoltageDeciV = m.motorVoltageDeciV

namespace ShowsMotor

variable {m : MotorStatus} {c : CanManager} {msg : twai_message_t} {tick : UInt32}

theorem congr (h : ShowsMotor m c) {c' : CanManager} (hshown : motorShown c' = motorShown c) :
    ShowsMotor m c' where
  rpm := (congrArg Prod.fst hshown).trans h.rpm
  voltage := (congrArg Prod.snd hshown).trans h.voltage

theorem handleMotorStatus (h : ShowsMotor m c) (hmutex : c.s_mutex = true) :
    ShowsMotor ((parseMotorStatus msg).getD m) (handleMotorStatus msg tick c) := by
  unfold CanManager.handleMotorStatus
  cases parseMotorStatus msg with
  | none => exact h
  | some parsed =>
    dsimp only
    rw [if_neg (by simp [hmutex] : ¬(!c.s_mutex) = true)]
    obtain ⟨events, hnotify⟩ := notifyFaultIfNeeded_eq _ _ _
    rw [hnotify]
    exact ⟨rfl, rfl⟩

/-- **One frame**: a motor status is shown at once, and nothing else touches what is shown. -/
theorem handleMessage (h : ShowsMotor m c) (hmutex : c.s_mutex = true) :
    ShowsMotor ((motorStatus msg).getD m) (handleMessage msg tick c) := by
  have hframe := dispatched msg tick c
  unfold motorStatus
  generalize acceptedAs msg = src, CanManager.handleMessage msg tick c = c' at hframe ⊢
  cases hframe with
  | ignored => exact ⟨h.rpm, h.voltage⟩
  | motor => exact h.handleMotorStatus hmutex
  | bmsE000 => exact h.congr (frame _ (withoutBmsE000_handleLbBmsE000 msg tick c) fun _ => rfl)
  | bmsE001 => exact h.congr (frame _ (withoutBmsE001_handleLbBmsE001 msg tick c) fun _ => rfl)
  | cells k => exact h.congr (frame _ (withoutCells_handleCellGroup msg tick c _ k) fun _ => rfl)
  | charger =>
    exact h.congr (frame _ (withoutCharger_handleCharger1806E5F4 msg tick c) fun _ => rfl)

/-- **The receive loop** shows the last motor status that it accepts. -/
theorem drain (n : ℕ) (rxs : List Reception) (h : ShowsMotor m c) (hmutex : c.s_mutex = true) :
    ShowsMotor ((acceptedMotor n rxs).getLastD m) (drain n rxs c) := by
  induction n generalizing rxs c m with
  | zero => exact h
  | succ n ih =>
    rcases rxs with _ | ⟨rx, rest⟩
    · exact h
    unfold CanManager.drain acceptedMotor
    rcases rx.result with msg | _ | _
    · have hframe := (handled_handleMessage hmutex msg rx.tick).received
      have hlast : ((motorStatus msg).toList ++ acceptedMotor n rest).getLastD m =
          (acceptedMotor n rest).getLastD ((motorStatus msg).getD m) := by
        cases motorStatus msg with
        | none => rfl
        | some status => exact List.getLastD_cons ..
      dsimp only
      rw [hlast]
      exact ih rest (h.handleMessage hmutex) (hframe.mutex.trans hmutex)
    · exact h
    · exact h

/-- One poll. -/
theorem processRxMessages (h : ShowsMotor m c) (hmutex : c.s_mutex = true)
    (hinit : c.isInitialized = true) (p : Poll) :
    ShowsMotor ((acceptedMotor CAN_RX_DRAIN_MAX p.receptions).getLastD m)
      (processRxMessages p c) := by
  unfold CanManager.processRxMessages
  rw [hinit, if_neg (by decide)]
  refine (drain _ _ ?_ ?_).congr (motorShown_of_payload (payload_updateValidity p _))
  · cases p.alerts with
    | none => exact h
    | some a => exact h.congr (motorShown_of_payload (payload_handleAlerts a c))
  · cases p.alerts with
    | none => exact hmutex
    | some a => exact (received_handleAlerts a c).mutex.trans hmutex

end ShowsMotor

/-- **In every run** the telemetry shows the motor status accepted last. -/
theorem showsMotor_after (as : List Action) : ShowsMotor (lastMotorStatus as) (after as) := by
  induction as using List.reverseRecOn with
  | nil => exact ⟨by decide, rfl⟩
  | append_singleton as a ih =>
    have hafter : after (as ++ [a]) = step (after as) a := Machine.exec_concat _ _ _
    have hlast : lastMotorStatus (as ++ [a]) =
        (a.acceptedMotor (after as)).getLastD (lastMotorStatus as) := Machine.ghost_concat _ _ _ _
    rw [hafter, hlast]
    cases a with
    | begin mutexCreated driverStarted =>
      have hbegin : Part.isFrame (.begin mutexCreated driverStarted) = false := rfl
      exact ih.congr (motorShown_of_payload (payload_perform hbegin (after as)))
    | setEventCallback bound => exact ih.congr rfl
    | processRxMessages p =>
      by_cases hinit : (after as).isInitialized = true
      · rw [Action.acceptedMotor, if_pos hinit]
        exact ih.processRxMessages ((consistent as).mutex hinit) hinit p
      · rw [Action.acceptedMotor, if_neg hinit]
        show ShowsMotor _ (CanManager.processRxMessages p (after as))
        rw [processRxMessages_of_not_initialized hinit]
        exact ih

end TufanAks.CanManager
