import TufanAks.CanManager

/-!
# What the handlers leave alone

The handler of a frame sets the members of its own source, and in two cases reports an event.
`withoutMotor` and its like forget these members; the handler does not change the manager that is
left, and so nothing that can be read off it (`frame`).
-/

namespace TufanAks.CanManager

open CanParse

/-! ### What a source sets -/

/-- The manager without what a motor status sets. -/
def withoutMotor (c : CanManager) : CanManager :=
  { c with
    s_motorStatus := {}
    CAN_lastMotorStatusTick := 0
    CAN_hasSeenMotorStatus := false
    CAN_motorTimeoutLogged := false
    CAN_motorErrorConsecutive := 0
    s_telemetryData :=
      { c.s_telemetryData with
        TEL_motorRpm := 0
        TEL_motorVoltageDeciV := 0
        TEL_motorErrorFlags := 0
        TEL_motorDataValid := false
        TEL_motorTimeoutActive := false }
    events := [] }

/-- The manager without what `0xE000` sets. -/
def withoutBmsE000 (c : CanManager) : CanManager :=
  { c with
    s_telemetryData :=
      { c.s_telemetryData with
        TEL_bmsPackVoltageDeciV := 0
        TEL_bmsCurrentCentiA := 0
        TEL_bmsSocHundredths := 0
        TEL_bmsSoc2Hundredths := 0 }
    CAN_lastBmsE000Tick := 0
    CAN_hasSeen_BmsE000 := false
    CAN_bmsPackFaultFlags := 0
    events := [] }

/-- The manager without what `0xE001` sets. -/
def withoutBmsE001 (c : CanManager) : CanManager :=
  { c with
    s_telemetryData :=
      { c.s_telemetryData with
        TEL_bmsCellVoltageMinDeciMv := 0
        TEL_bmsCellVoltageMaxDeciMv := 0
        TEL_bmsCellVoltageAvgDeciMv := 0
        TEL_bmsTempHighestC := 0
        TEL_bmsTempLowestC := 0 }
    CAN_lastBmsE001Tick := 0
    CAN_hasSeen_BmsE001 := false }

/-- The manager without what the cell frames set. -/
def withoutCells (c : CanManager) : CanManager :=
  { c with
    s_telemetryData :=
      { c.s_telemetryData with
        TEL_bmsCellVoltages := fun _ => 0
        TEL_cellVoltageDataValid := false }
    CAN_lastCellVoltageTick := 0
    CAN_hasSeen_CellVoltage := false
    CAN_cellVoltageSeenMask := 0
    CAN_cellVoltageComplete := false }

/-- The manager without what a charger frame sets. -/
def withoutCharger (c : CanManager) : CanManager :=
  { c with
    s_chargerCommand := {}
    CAN_lastChargerTick := 0
    CAN_hasSeenCharger := false
    CAN_chargerValid := false
    CAN_chargerStaleLogged := false }

/-- **Frame rule**: what does not depend on the forgotten members is the same. -/
theorem frame {β : Type*} (f : CanManager → β) {forget : CanManager → CanManager}
    {c c' : CanManager} (h : forget c' = forget c) (hf : ∀ c, f (forget c) = f c) : f c' = f c :=
  calc
    f c' = f (forget c') := (hf c').symm
    _ = f (forget c) := congrArg f h
    _ = f c := hf c

/-! ### The handlers -/

/-- A fault notification only appends to the events. -/
theorem notifyFaultIfNeeded_eq (previous current : UInt8) (c : CanManager) :
    ∃ events, notifyFaultIfNeeded previous current c = { c with events := events } := by
  unfold notifyFaultIfNeeded
  split_ifs
  · exact ⟨_, rfl⟩
  · exact ⟨_, rfl⟩
  · exact ⟨_, rfl⟩

variable (msg : twai_message_t) (tick : UInt32) (c : CanManager)

theorem withoutMotor_handleMotorStatus :
    withoutMotor (handleMotorStatus msg tick c) = withoutMotor c := by
  unfold handleMotorStatus
  cases parseMotorStatus msg with
  | none => rfl
  | some parsed =>
    dsimp only
    split
    · rfl
    obtain ⟨events, hnotify⟩ := notifyFaultIfNeeded_eq _ _ _
    rw [hnotify]
    rfl

theorem withoutBmsE000_handleLbBmsE000 :
    withoutBmsE000 (handleLbBmsE000 msg tick c) = withoutBmsE000 c := by
  unfold handleLbBmsE000
  split
  · rfl
  cases parseLbBmsE000 msg {} with
  | none => rfl
  | some parsed =>
    obtain ⟨events, hnotify⟩ := notifyFaultIfNeeded_eq _ _ _
    dsimp only
    rw [hnotify]
    rfl

theorem withoutBmsE001_handleLbBmsE001 :
    withoutBmsE001 (handleLbBmsE001 msg tick c) = withoutBmsE001 c := by
  unfold handleLbBmsE001
  split
  · rfl
  cases parseLbBmsE001 msg {} with
  | none => rfl
  | some parsed => rfl

theorem withoutCells_handleCellGroup
    (parse : twai_message_t → TelemetryData → Option TelemetryData) (k : ℕ) :
    withoutCells (handleCellGroup parse k msg tick c) = withoutCells c := by
  unfold handleCellGroup
  cases parse msg {} with
  | none => rfl
  | some parsed => rfl

theorem withoutCharger_handleCharger1806E5F4 :
    withoutCharger (handleCharger1806E5F4 msg tick c) = withoutCharger c := by
  unfold handleCharger1806E5F4
  split
  · rfl
  cases parseCharger1806E5F4 msg with
  | none => rfl
  | some parsed => rfl

end TufanAks.CanManager
