import TufanAks.BmsAlgo.Equiv.Pack
import TufanAks.CanParse.Equiv.PackFrames
import TufanAks.VcuLogic.Predicates

/-!
# The cell verdict of the VCU

The VCU judges the cells by the summary words of `0xE001`, the display by the 24 cell voltages.  The
summary words count in 0.1 mV and the thresholds in mV, so the VCU judges the raw words by the bands
that the cell voltages are meant to lie in (`hasCriticalCondition_iff_outOfBand`,
`hasWarningCondition_iff_outOfBand`).  `cellVerdictRight_iff` says for which packs the verdict is
right all the same.
-/

namespace TufanAks.VcuLogic

open CanParse

/-- A snapshot with valid BMS and cell data in which nothing but the cells can raise an alarm. -/
structure OtherwiseNominal (d : TelemetryData) : Prop where
  bmsDataValid : d.TEL_bmsDataValid = true
  cellVoltageDataValid : d.TEL_cellVoltageDataValid = true
  motorErrorFlags : d.TEL_motorErrorFlags = 0
  motorTimeoutActive : d.TEL_motorTimeoutActive = false
  bmsTimeoutActive : d.TEL_bmsTimeoutActive = false
  systemState : d.TEL_bmsSystemState ≠ 4
  packVoltage : BMS_WARN_MIN_PACK_VOLTAGE_DECI_V < d.TEL_bmsPackVoltageDeciV ∧
    d.TEL_bmsPackVoltageDeciV < BMS_WARN_MAX_PACK_VOLTAGE_DECI_V
  current : isCurrentWarning d.TEL_bmsCurrentCentiA = false
  temperature : isTempWarning d.TEL_bmsTempHighestC = false

/-- What raises no warning is not critical either. -/
theorem isCurrentCritical_of_not_warning {c : Int32} (h : isCurrentWarning c = false) :
    isCurrentCritical c = false := by
  unfold isCurrentWarning BMS_WARN_MAX_CHARGE_CURRENT_CENTI_A
    BMS_WARN_MAX_DISCHARGE_CURRENT_CENTI_A at h
  unfold isCurrentCritical BMS_CRITICAL_MAX_CHARGE_CURRENT_CENTI_A
    BMS_CRITICAL_MAX_DISCHARGE_CURRENT_CENTI_A
  rw [Bool.or_eq_false_iff, decide_eq_false_iff_not, decide_eq_false_iff_not] at h ⊢
  omega

theorem isTempCritical_of_not_warning {t : Int8} (h : isTempWarning t = false) :
    isTempCritical t = false := by
  unfold isTempWarning BMS_WARN_MAX_TEMP_C at h
  unfold isTempCritical BMS_CRITICAL_MAX_TEMP_C
  rw [decide_eq_false_iff_not] at h ⊢
  omega

/-- The critical pack voltage band contains the warning band. -/
theorem packVoltage_not_critical {v : UInt16}
    (h : BMS_WARN_MIN_PACK_VOLTAGE_DECI_V < v ∧ v < BMS_WARN_MAX_PACK_VOLTAGE_DECI_V) :
    ¬v ≤ BMS_CRITICAL_MIN_PACK_VOLTAGE_DECI_V ∧ ¬v ≥ BMS_CRITICAL_MAX_PACK_VOLTAGE_DECI_V := by
  have h600 : BMS_CRITICAL_MIN_PACK_VOLTAGE_DECI_V.toNat = 600 := rfl
  have h720 : BMS_WARN_MIN_PACK_VOLTAGE_DECI_V.toNat = 720 := rfl
  have h852 : BMS_WARN_MAX_PACK_VOLTAGE_DECI_V.toNat = 852 := rfl
  have h876 : BMS_CRITICAL_MAX_PACK_VOLTAGE_DECI_V.toNat = 876 := rfl
  simp only [UInt16.lt_iff_toNat_lt, UInt16.le_iff_toNat_le, ge_iff_le] at h ⊢
  omega

/-! ### What the predicates compare -/

/-- The summary words lie beyond a bound iff some word does. -/
theorem outOfBand_iff_extremes {words : Fin 24 → UInt16} {least greatest : UInt16}
    (h : Extremes words least greatest) (lo hi : UInt16) :
    OutOfBand lo hi words ↔ least < lo ∨ greatest > hi := by
  constructor
  · rintro ⟨i, hlow | hhigh⟩
    · exact .inl (UInt16.lt_of_le_of_lt (h.least_le i) hlow)
    · exact .inr (UInt16.lt_of_lt_of_le hhigh (h.le_greatest i))
  · rintro (hlow | hhigh)
    · obtain ⟨i, rfl⟩ := h.least_mem
      exact ⟨i, .inl hlow⟩
    · obtain ⟨i, rfl⟩ := h.greatest_mem
      exact ⟨i, .inr hhigh⟩

/-- In an otherwise nominal snapshot the critical verdict is the band test on the summary words. -/
theorem hasCriticalCondition_iff {d : TelemetryData} (h : OtherwiseNominal d) (s : VcuState) :
    hasCriticalCondition d s = true ↔
      d.TEL_bmsCellVoltageMinDeciMv < BMS_CELL_UNDERVOLT_CRIT_MV ∨
        d.TEL_bmsCellVoltageMaxDeciMv > BMS_CELL_OVERVOLT_CRIT_MV := by
  have hpack := packVoltage_not_critical h.packVoltage
  have hcurrent := isCurrentCritical_of_not_warning h.current
  have htemp := isTempCritical_of_not_warning h.temperature
  simp [hasCriticalCondition, h.bmsDataValid, h.cellVoltageDataValid, h.motorErrorFlags,
    h.motorTimeoutActive, h.bmsTimeoutActive, h.systemState, hpack, hcurrent, htemp]

theorem hasWarningCondition_iff {d : TelemetryData} (h : OtherwiseNominal d) :
    hasWarningCondition d = true ↔
      d.TEL_bmsCellVoltageMinDeciMv < BMS_CELL_UNDERVOLT_WARN_MV ∨
        d.TEL_bmsCellVoltageMaxDeciMv > BMS_CELL_OVERVOLT_WARN_MV := by
  simp [hasWarningCondition, h.bmsDataValid, h.cellVoltageDataValid, h.current, h.temperature,
    UInt16.not_le.mpr h.packVoltage.1, UInt16.not_le.mpr h.packVoltage.2]

/-! ### The verdict and the cells -/

/-- The voltage of each cell in mV. -/
def cellsMv (words : Fin 24 → UInt16) (i : Fin 24) : UInt16 := words i / 10

/-- **The right verdict** on a pack, in state `s`: the VCU is alarmed exactly when a cell is out of
its band, and agrees with the warning level that the display computes. -/
structure CellVerdictRight (words : Fin 24 → UInt16) (d : TelemetryData) (s : VcuState) : Prop where
  critical : hasCriticalCondition d s = true ↔
    OutOfBand BMS_CELL_UNDERVOLT_CRIT_MV BMS_CELL_OVERVOLT_CRIT_MV (cellsMv words)
  warning : hasWarningCondition d = true ↔
    OutOfBand BMS_CELL_UNDERVOLT_WARN_MV BMS_CELL_OVERVOLT_WARN_MV (cellsMv words)
  critical_iff_level : hasCriticalCondition d s = true ↔
    (computePack (hmiPackData d)).warningLevel = BMS_WARN_CRITICAL
  warning_iff_level : hasWarningCondition d = true ↔
    (computePack (hmiPackData d)).warningLevel ≥ BMS_WARN_WARNING

variable {words : Fin 24 → UInt16} {least greatest average temps : UInt16}
  {base d : TelemetryData}

/-- The VCU takes the raw words for mV. -/
theorem hasCriticalCondition_iff_outOfBand
    (hpack : packTelemetry words least greatest average temps base = some d)
    (hextremes : Extremes words least greatest) (hnominal : OtherwiseNominal d) (s : VcuState) :
    hasCriticalCondition d s = true ↔
      OutOfBand BMS_CELL_UNDERVOLT_CRIT_MV BMS_CELL_OVERVOLT_CRIT_MV words := by
  rw [hasCriticalCondition_iff hnominal, outOfBand_iff_extremes hextremes]
  rw [packTelemetry_eq, Option.some_inj] at hpack
  rw [← hpack]

theorem hasWarningCondition_iff_outOfBand
    (hpack : packTelemetry words least greatest average temps base = some d)
    (hextremes : Extremes words least greatest) (hnominal : OtherwiseNominal d) :
    hasWarningCondition d = true ↔
      OutOfBand BMS_CELL_UNDERVOLT_WARN_MV BMS_CELL_OVERVOLT_WARN_MV words := by
  rw [hasWarningCondition_iff hnominal, outOfBand_iff_extremes hextremes]
  rw [packTelemetry_eq, Option.some_inj] at hpack
  rw [← hpack]

/-- The snapshot of the display holds the cell voltages. -/
theorem hmiPackData_cellVoltageMv
    (hpack : packTelemetry words least greatest average temps base = some d)
    (hcell : d.TEL_cellVoltageDataValid = true) :
    (hmiPackData d).cellVoltageMv = cellsMv words := by
  rw [packTelemetry_eq, Option.some_inj] at hpack
  subst hpack
  funext i
  exact if_pos hcell

theorem displayed_critical_iff
    (hpack : packTelemetry words least greatest average temps base = some d)
    (hnominal : OtherwiseNominal d) :
    (computePack (hmiPackData d)).warningLevel = BMS_WARN_CRITICAL ↔
      OutOfBand BMS_CELL_UNDERVOLT_CRIT_MV BMS_CELL_OVERVOLT_CRIT_MV (cellsMv words) := by
  rw [warningLevel_eq_critical_iff hnominal.bmsDataValid hnominal.cellVoltageDataValid,
    hmiPackData_cellVoltageMv hpack hnominal.cellVoltageDataValid]
  -- the display passes temperature 0 for every cell
  refine or_iff_left ?_
  rintro ⟨i, hi⟩
  exact absurd hi (by decide : ¬BMS_TEMP_OVERTEMP_CRIT_C ≤ 0)

theorem displayed_warning_iff
    (hpack : packTelemetry words least greatest average temps base = some d)
    (hnominal : OtherwiseNominal d) :
    (computePack (hmiPackData d)).warningLevel ≥ BMS_WARN_WARNING ↔
      OutOfBand BMS_CELL_UNDERVOLT_WARN_MV BMS_CELL_OVERVOLT_WARN_MV (cellsMv words) := by
  rw [warningLevel_ge_warning_iff hnominal.bmsDataValid hnominal.cellVoltageDataValid,
    hmiPackData_cellVoltageMv hpack hnominal.cellVoltageDataValid]
  refine or_iff_left ?_
  rintro ⟨i, hi⟩
  exact absurd hi (by decide : ¬BMS_TEMP_OVERTEMP_WARN_C ≤ 0)

/-- In a band that does not reach down to a tenth of its upper end, the words and the voltages are
never both within the band. -/
theorem outOfBand_or_outOfBand_cellsMv (words : Fin 24 → UInt16) {lo hi : UInt16}
    (h : hi / 10 < lo) : OutOfBand lo hi words ∨ OutOfBand lo hi (cellsMv words) := by
  by_cases hhigh : words 0 > hi
  · exact .inl ⟨0, .inr hhigh⟩
  · refine .inr ⟨0, .inl ?_⟩
    simp only [cellsMv, UInt16.lt_iff_toNat_lt, UInt16.toNat_div, gt_iff_lt] at h hhigh ⊢
    have hmono := Nat.div_le_div_right (c := (10 : UInt16).toNat) (Nat.not_lt.mp hhigh)
    exact lt_of_le_of_lt hmono h

/-- **For which packs the verdict is right**: those with a cell out of the critical band whose raw
words, taken for mV, are not all within the critical band. -/
theorem cellVerdictRight_iff
    (hpack : packTelemetry words least greatest average temps base = some d)
    (hextremes : Extremes words least greatest) (hnominal : OtherwiseNominal d) (s : VcuState) :
    CellVerdictRight words d s ↔
      OutOfBand BMS_CELL_UNDERVOLT_CRIT_MV BMS_CELL_OVERVOLT_CRIT_MV (cellsMv words) ∧
        OutOfBand BMS_CELL_UNDERVOLT_CRIT_MV BMS_CELL_OVERVOLT_CRIT_MV words := by
  have hcritical := hasCriticalCondition_iff_outOfBand hpack hextremes hnominal s
  have hwarning := hasWarningCondition_iff_outOfBand hpack hextremes hnominal
  have hmono := fun (v : Fin 24 → UInt16)
    (h : OutOfBand BMS_CELL_UNDERVOLT_CRIT_MV BMS_CELL_OVERVOLT_CRIT_MV v) =>
    h.mono (by decide : BMS_CELL_UNDERVOLT_CRIT_MV ≤ BMS_CELL_UNDERVOLT_WARN_MV)
      (by decide : BMS_CELL_OVERVOLT_WARN_MV ≤ BMS_CELL_OVERVOLT_CRIT_MV)
  constructor
  · intro hright
    have hiff := hcritical.symm.trans hright.critical
    -- words and voltages are never both within the band, so a right verdict has both outside
    rcases outOfBand_or_outOfBand_cellsMv words
      (by decide : BMS_CELL_OVERVOLT_CRIT_MV / 10 < BMS_CELL_UNDERVOLT_CRIT_MV) with hraw | hmv
    · exact ⟨hiff.mp hraw, hraw⟩
    · exact ⟨hmv, hiff.mpr hmv⟩
  · rintro ⟨hmv, hraw⟩
    have hcrit := hcritical.mpr hraw
    have hwarn := hwarning.mpr (hmono words hraw)
    have hlevel := (displayed_critical_iff hpack hnominal).mpr hmv
    have hlevel' := (displayed_warning_iff hpack hnominal).mpr (hmono _ hmv)
    exact ⟨iff_of_true hcrit hmv, iff_of_true hwarn (hmono _ hmv), iff_of_true hcrit hlevel,
      iff_of_true hwarn hlevel'⟩

/-- Nothing but the cells to report: 80 V, no current. -/
def nominalTelemetry : TelemetryData where
  TEL_bmsDataValid := true
  TEL_cellVoltageDataValid := true
  TEL_bmsPackVoltageDeciV := 800

/-- What the parsers make of 24 equal cells at 25 and 24 °C. -/
def levelPack (word : UInt16) : TelemetryData :=
  { nominalTelemetry with
    TEL_bmsCellVoltages := fun _ => word / 10
    TEL_bmsCellVoltageMinDeciMv := word
    TEL_bmsCellVoltageMaxDeciMv := word
    TEL_bmsCellVoltageAvgDeciMv := word
    TEL_bmsTempHighestC := 25
    TEL_bmsTempLowestC := 24 }

theorem packTelemetry_levelPack (word : UInt16) :
    packTelemetry (fun _ => word) word word word 0x1918 nominalTelemetry =
      some (levelPack word) := by
  rw [packTelemetry_eq]
  rfl

theorem extremes_const (word : UInt16) : Extremes (fun _ => word) word word :=
  ⟨⟨0, rfl⟩, fun _ => UInt16.le_refl word, ⟨0, rfl⟩, fun _ => UInt16.le_refl word⟩

theorem otherwiseNominal_levelPack (word : UInt16) : OtherwiseNominal (levelPack word) :=
  have hpack : BMS_WARN_MIN_PACK_VOLTAGE_DECI_V < 800 ∧ 800 < BMS_WARN_MAX_PACK_VOLTAGE_DECI_V := by
    decide
  ⟨rfl, rfl, rfl, rfl, rfl, (by decide : (0 : UInt8) ≠ 4), hpack, rfl, rfl⟩

/-- 24 overcharged cells at 3700 mV. -/
theorem cellVerdictRight_of_overcharged :
    CellVerdictRight (fun _ => 37000) (levelPack 37000) .DRIVE := by
  refine (cellVerdictRight_iff (packTelemetry_levelPack 37000) (extremes_const 37000)
    (otherwiseNominal_levelPack 37000) .DRIVE).mpr ⟨⟨0, .inr ?_⟩, ⟨0, .inr ?_⟩⟩ <;> decide

/-- 24 healthy cells at 3333 mV put the VCU in a critical condition. -/
theorem not_cellVerdictRight_of_healthy :
    packTelemetry (fun _ => 33333) 33333 33333 33333 0x1918 nominalTelemetry =
        some (levelPack 33333) ∧
      Extremes (fun _ => 33333) 33333 33333 ∧ OtherwiseNominal (levelPack 33333) ∧
      ¬CellVerdictRight (fun _ => 33333) (levelPack 33333) .IDLE := by
  refine ⟨packTelemetry_levelPack _, extremes_const _, otherwiseNominal_levelPack _, fun h => ?_⟩
  obtain ⟨i, hi⟩ := h.critical.mp rfl
  exact absurd hi (by decide : ¬((33333 : UInt16) / 10 < BMS_CELL_UNDERVOLT_CRIT_MV ∨
    (33333 : UInt16) / 10 > BMS_CELL_OVERVOLT_CRIT_MV))

end TufanAks.VcuLogic
