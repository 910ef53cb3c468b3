import TufanAks.BmsAlgo
import TufanAks.Machine.Run

/-!
# Correctness of `computePack`

The single pass over the cells finds the extremes of the voltages and of the temperatures
(`scanPack_minMv_lt_iff`, `scanPack_lt_maxMv_iff`, `scanPack_le_tMax_iff`: an extreme lies beyond a
bound iff some cell does), so the warning level is the worst verdict on a single cell
(`warningLevel_eq_critical_iff`, `warningLevel_ge_warning_iff`).
-/

namespace TufanAks

/-! ### The pass over the cells -/

/-- What the pass starts with exactly when cell `0` has `q`, and an iteration establishes exactly
when its cell has `q`, holds at the end exactly when some cell has `q`. -/
theorem scanPack_iff_exists {d : BmsPackData} (P : PackScan → Prop) (q : Fin 24 → Prop)
    (h0 : P (.start d) ↔ q 0) (hstep : ∀ s i, P (.cell d s i) ↔ P s ∨ q i) :
    P (scanPack d) ↔ ∃ i, q i := by
  -- the pass is a run over the cells; it starts from cell `0`, which it visits again
  have hrun := Machine.exec_iff_or_exists P q hstep (.start d) (List.finRange 24)
  refine hrun.trans ?_
  constructor
  · rintro (h | ⟨i, -, h⟩)
    · exact ⟨0, h0.mp h⟩
    · exact ⟨i, h⟩
  · rintro ⟨i, h⟩
    exact .inr ⟨i, List.mem_finRange i, h⟩

theorem scanPack_minMv_lt_iff (d : BmsPackData) (x : UInt16) :
    (scanPack d).minMv < x ↔ ∃ i, d.cellVoltageMv i < x := by
  refine scanPack_iff_exists (·.minMv < x) _ Iff.rfl fun s i => ?_
  simp only [PackScan.cell, UInt16.lt_iff_toNat_lt]
  split_ifs <;> omega

theorem scanPack_lt_maxMv_iff (d : BmsPackData) (x : UInt16) :
    x < (scanPack d).maxMv ↔ ∃ i, x < d.cellVoltageMv i := by
  refine scanPack_iff_exists (x < ·.maxMv) _ Iff.rfl fun s i => ?_
  simp only [PackScan.cell, UInt16.lt_iff_toNat_lt, gt_iff_lt]
  split_ifs <;> omega

theorem scanPack_le_tMax_iff (d : BmsPackData) (x : Int16) :
    x ≤ (scanPack d).tMax ↔ ∃ i, x ≤ d.cellTempC i := by
  refine scanPack_iff_exists (x ≤ ·.tMax) _ Iff.rfl fun s i => ?_
  simp only [PackScan.cell, Int16.le_iff_toInt_le, Int16.lt_iff_toInt_lt, gt_iff_lt]
  split_ifs <;> omega

/-! ### The warning level -/

/-- Some cell voltage lies outside the band from `lo` to `hi`. -/
def OutOfBand (lo hi : UInt16) (v : Fin 24 → UInt16) : Prop :=
  ∃ i, v i < lo ∨ v i > hi

theorem outOfBand_iff_scanPack (d : BmsPackData) (lo hi : UInt16) :
    OutOfBand lo hi d.cellVoltageMv ↔ (scanPack d).minMv < lo ∨ (scanPack d).maxMv > hi := by
  rw [scanPack_minMv_lt_iff, gt_iff_lt, scanPack_lt_maxMv_iff, ← exists_or]
  rfl

/-- A wider band is left less often. -/
theorem OutOfBand.mono {lo lo' hi hi' : UInt16} {v : Fin 24 → UInt16} (h : OutOfBand lo hi v)
    (hlo : lo ≤ lo') (hhi : hi' ≤ hi) : OutOfBand lo' hi' v := by
  obtain ⟨i, h⟩ := h
  refine ⟨i, ?_⟩
  simp only [UInt16.lt_iff_toNat_lt, UInt16.le_iff_toNat_le, gt_iff_lt] at h hlo hhi ⊢
  omega

/-- The level is critical iff some cell is outside the critical band or too hot. -/
theorem warningLevel_eq_critical_iff {d : BmsPackData} (hvalid : d.isValid = true)
    (hcell : d.cellDataValid = true) :
    (computePack d).warningLevel = BMS_WARN_CRITICAL ↔
      OutOfBand BMS_CELL_UNDERVOLT_CRIT_MV BMS_CELL_OVERVOLT_CRIT_MV d.cellVoltageMv ∨
        ∃ i, BMS_TEMP_OVERTEMP_CRIT_C ≤ d.cellTempC i := by
  rw [outOfBand_iff_scanPack, ← scanPack_le_tMax_iff, or_assoc]
  simp only [computePack, hvalid, hcell, Bool.not_true, Bool.false_eq_true, if_false,
    packWarningLevel, ge_iff_le]
  split_ifs with hcrit hwarn
  · simpa using hcrit
  · exact iff_of_false (by decide) hcrit
  · exact iff_of_false (by decide) hcrit

/-- The level is a warning or worse iff some cell is outside the warning band or too warm. -/
theorem warningLevel_ge_warning_iff {d : BmsPackData} (hvalid : d.isValid = true)
    (hcell : d.cellDataValid = true) :
    (computePack d).warningLevel ≥ BMS_WARN_WARNING ↔
      OutOfBand BMS_CELL_UNDERVOLT_WARN_MV BMS_CELL_OVERVOLT_WARN_MV d.cellVoltageMv ∨
        ∃ i, BMS_TEMP_OVERTEMP_WARN_C ≤ d.cellTempC i := by
  have hmono : ∀ t : Int16, BMS_TEMP_OVERTEMP_CRIT_C ≤ t → BMS_TEMP_OVERTEMP_WARN_C ≤ t :=
    fun t => Int16.le_trans (by decide)
  have hband := fun h : OutOfBand _ _ d.cellVoltageMv =>
    h.mono (by decide : BMS_CELL_UNDERVOLT_CRIT_MV ≤ BMS_CELL_UNDERVOLT_WARN_MV)
      (by decide : BMS_CELL_OVERVOLT_WARN_MV ≤ BMS_CELL_OVERVOLT_CRIT_MV)
  rw [outOfBand_iff_scanPack, outOfBand_iff_scanPack] at hband
  rw [outOfBand_iff_scanPack, ← scanPack_le_tMax_iff]
  simp only [computePack, hvalid, hcell, Bool.not_true, Bool.false_eq_true, if_false,
    packWarningLevel]
  split_ifs with hcrit hwarn
  · -- what is critical is a warning too
    refine iff_of_true (by decide) ?_
    rw [← or_assoc] at hcrit
    exact hcrit.imp hband (hmono _)
  · exact iff_of_true (by decide) (or_assoc.mpr hwarn)
  · exact iff_of_false (by decide) (mt or_assoc.mp hwarn)

end TufanAks
