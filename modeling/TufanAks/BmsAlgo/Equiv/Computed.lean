import Mathlib.Algebra.BigOperators.Fin
import Mathlib.Algebra.Order.BigOperators.Group.Finset
import Mathlib.Algebra.Order.Ring.Nat
import TufanAks.BmsAlgo.Equiv.Pack
import TufanAks.Extremum.FirstMax

/-!
# The specification of `computePack`

Each accumulator of the pass over the cells is a fold of its own: the extremes with their places are
scans (`firstMax_scanPack`, `firstMin_scanPack`), the sum does not overflow (`toNat_sumMv`).  From
them every field of the result is determined (`computed_computePack`).
-/

namespace TufanAks

open Extremum

/-! ### The accumulators -/

/-- A part of the accumulators that is computed by itself. -/
theorem foldl_eq_scanPack {γ : Type*} {d : BmsPackData} (part : PackScan → γ)
    {g : γ → Fin 24 → γ} (h : ∀ s i, g (part s) i = part (.cell d s i)) :
    (List.finRange 24).foldl g (part (.start d)) = part (scanPack d) :=
  List.foldl_hom part h

/-- The largest voltage and the first cell that has it. -/
theorem firstMax_scanPack (d : BmsPackData) :
    IsFirstMax (fun i => ((d.cellVoltageMv i).toNat : ℤ)) (0 :: List.finRange 24)
      (((scanPack d).maxMv.toNat : ℤ), (scanPack d).maxIdx) := by
  let v : Fin 24 → ℤ := fun i => (d.cellVoltageMv i).toNat
  have hfold : (List.finRange 24).foldl (scan v) (v 0, 0) =
      (((scanPack d).maxMv.toNat : ℤ), (scanPack d).maxIdx) := by
    refine foldl_eq_scanPack (fun s => ((s.maxMv.toNat : ℤ), s.maxIdx)) fun s i => ?_
    simp only [scan, v, PackScan.cell, gt_iff_lt, UInt16.lt_iff_toNat_lt, Int.ofNat_lt]
    split_ifs <;> rfl
  rw [← hfold]
  exact isFirstMax_foldl (List.pairwise_lt_finRange 24) fun i _ => Fin.zero_le i

/-- The smallest voltage and the first cell that has it. -/
theorem firstMin_scanPack (d : BmsPackData) :
    IsFirstMax (fun i => -((d.cellVoltageMv i).toNat : ℤ)) (0 :: List.finRange 24)
      (-((scanPack d).minMv.toNat : ℤ), (scanPack d).minIdx) := by
  let v : Fin 24 → ℤ := fun i => -((d.cellVoltageMv i).toNat : ℤ)
  have hfold : (List.finRange 24).foldl (scan v) (v 0, 0) =
      (-((scanPack d).minMv.toNat : ℤ), (scanPack d).minIdx) := by
    refine foldl_eq_scanPack (fun s => (-(s.minMv.toNat : ℤ), s.minIdx)) fun s i => ?_
    simp only [scan, v, PackScan.cell, UInt16.lt_iff_toNat_lt, neg_lt_neg_iff, Int.ofNat_lt]
    split_ifs <;> rfl
  rw [← hfold]
  exact isFirstMax_foldl (List.pairwise_lt_finRange 24) fun i _ => Fin.zero_le i

theorem scanPack_tMin_le_iff (d : BmsPackData) (x : Int16) :
    (scanPack d).tMin ≤ x ↔ ∃ i, d.cellTempC i ≤ x := by
  refine scanPack_iff_exists (·.tMin ≤ x) _ Iff.rfl fun s i => ?_
  simp only [PackScan.cell, Int16.le_iff_toInt_le, Int16.lt_iff_toInt_lt]
  split_ifs <;> omega

/-- A sum of voltages that fits into 32 bits is the sum of the numbers. -/
theorem toNat_foldl_add {ι : Type*} (v : ι → UInt16) (l : List ι) (acc : UInt32)
    (h : acc.toNat + (l.map fun i => (v i).toNat).sum < 2 ^ 32) :
    (l.foldl (fun sum i => sum + (v i).toUInt32) acc).toNat =
      acc.toNat + (l.map fun i => (v i).toNat).sum := by
  induction l generalizing acc with
  | nil => simp
  | cons i l ih =>
    rw [List.map_cons, List.sum_cons] at h ⊢
    have hone : (acc + (v i).toUInt32).toNat = acc.toNat + (v i).toNat := by
      rw [UInt32.toNat_add, UInt16.toNat_toUInt32]
      exact Nat.mod_eq_of_lt (by omega)
    rw [List.foldl_cons, ih _ (by rw [hone]; omega), hone, Nat.add_assoc]

theorem toNat_sumMv (d : BmsPackData) :
    (scanPack d).sumMv.toNat = ∑ i, (d.cellVoltageMv i).toNat := by
  have hfold : (List.finRange 24).foldl (fun sum i => sum + (d.cellVoltageMv i).toUInt32) 0 =
      (scanPack d).sumMv := foldl_eq_scanPack PackScan.sumMv fun _ _ => rfl
  have hbound : ((List.finRange 24).map fun i => (d.cellVoltageMv i).toNat).sum ≤ 24 * 65535 := by
    have hsum := List.sum_le_card_nsmul ((List.finRange 24).map fun i => (d.cellVoltageMv i).toNat)
      65535 (List.forall_mem_map.mpr fun i _ => Nat.le_of_lt_succ (d.cellVoltageMv i).toNat_lt)
    rwa [List.length_map, List.length_finRange, nsmul_eq_mul] at hsum
  rw [← hfold, toNat_foldl_add _ _ _ (by rw [UInt32.toNat_zero]; omega), UInt32.toNat_zero,
    Nat.zero_add, Fin.sum_univ_def]

/-! ### The state of charge -/

/-- The state of charge in numbers. -/
theorem toNat_socFromAvgMv (avgMv : UInt32) :
    (socFromAvgMv avgMv).toNat =
      if avgMv.toNat ≤ 2500 then 0
      else if 3650 ≤ avgMv.toNat then 100
      else (avgMv.toNat - 2500) * 100 / 1150 := by
  unfold socFromAvgMv
  have hempty : BMS_SOC_EMPTY_MV.toNat = 2500 := rfl
  have hfull : BMS_SOC_FULL_MV.toNat = 3650 := rfl
  simp only [ge_iff_le, UInt32.le_iff_toNat_le, hempty, hfull]
  split_ifs with hlow hhigh
  · rfl
  · rfl
  · have habove : (avgMv - BMS_SOC_EMPTY_MV).toNat = avgMv.toNat - 2500 :=
      UInt32.toNat_sub_of_le _ _ (UInt32.le_iff_toNat_le.mpr (by rw [hempty]; omega))
    have hspan : (BMS_SOC_FULL_MV - BMS_SOC_EMPTY_MV).toNat = 1150 := rfl
    have hscaled : ((avgMv - BMS_SOC_EMPTY_MV) * 100).toNat = (avgMv.toNat - 2500) * 100 := by
      rw [UInt32.toNat_mul, habove]
      exact Nat.mod_eq_of_lt (by show (avgMv.toNat - 2500) * 100 < 2 ^ 32; omega)
    rw [UInt32.toNat_toUInt8, UInt32.toNat_div, hscaled, hspan]
    exact Nat.mod_eq_of_lt (by omega)

theorem socFromAvgMv_le (avgMv : UInt32) : socFromAvgMv avgMv ≤ 100 := by
  rw [UInt8.le_iff_toNat_le, toNat_socFromAvgMv]
  show _ ≤ 100
  split_ifs <;> omega

theorem socFromAvgMv_mono {a b : UInt32} (h : a ≤ b) : socFromAvgMv a ≤ socFromAvgMv b := by
  rw [UInt32.le_iff_toNat_le] at h
  rw [UInt8.le_iff_toNat_le, toNat_socFromAvgMv, toNat_socFromAvgMv]
  split_ifs <;> omega

/-- A higher pack has a higher state of charge. -/
theorem socFromAvgMv_sumMv_le {d e : BmsPackData}
    (h : ∀ i, d.cellVoltageMv i ≤ e.cellVoltageMv i) :
    socFromAvgMv ((scanPack d).sumMv / BMS_CELL_COUNT) ≤
      socFromAvgMv ((scanPack e).sumMv / BMS_CELL_COUNT) := by
  refine socFromAvgMv_mono (UInt32.le_iff_toNat_le.mpr ?_)
  rw [UInt32.toNat_div, UInt32.toNat_div, toNat_sumMv, toNat_sumMv]
  exact Nat.div_le_div_right (Finset.sum_le_sum fun i _ => UInt16.le_iff_toNat_le.mp (h i))

/-! ### Balancing -/

/-- The balancing rule, without the lower bound that must not underflow. -/
theorem balanceFlags_iff (d : BmsPackData) (maxMv deltaMv : UInt16) (i : Fin 24) :
    balanceFlags d maxMv deltaMv i = true ↔ BMS_BALANCE_THRESHOLD_MV < deltaMv ∧
      maxMv.toNat ≤ (d.cellVoltageMv i).toNat + BMS_BALANCE_TOP_MARGIN_MV.toNat := by
  unfold balanceFlags
  by_cases hdelta : deltaMv > BMS_BALANCE_THRESHOLD_MV
  · rw [if_pos hdelta]
    simp only [decide_eq_true_iff, ge_iff_le, UInt16.le_iff_toNat_le]
    by_cases hmargin : maxMv > BMS_BALANCE_TOP_MARGIN_MV
    · have hlow : (maxMv - BMS_BALANCE_TOP_MARGIN_MV).toNat =
          maxMv.toNat - BMS_BALANCE_TOP_MARGIN_MV.toNat :=
        UInt16.toNat_sub_of_le _ _ (UInt16.le_of_lt hmargin)
      rw [if_pos hmargin, hlow, and_iff_right hdelta]
      omega
    · rw [gt_iff_lt, UInt16.lt_iff_toNat_lt] at hmargin
      rw [if_neg (by rwa [gt_iff_lt, UInt16.lt_iff_toNat_lt]), and_iff_right hdelta]
      refine iff_of_true (Nat.zero_le _) (by omega)
  · rw [if_neg hdelta]
    exact iff_of_false Bool.false_ne_true fun h => hdelta h.1

/-! ### The result -/

/-- `c` is what `computePack` is to find in the pack `d`. -/
structure Computed (d : BmsPackData) (c : BmsComputed) : Prop where
  cellMax : d.cellVoltageMv c.cellMaxIndex = c.cellMaxMv ∧
    ∀ i, d.cellVoltageMv i ≤ c.cellMaxMv
  /-- No cell before has the largest voltage. -/
  cellMaxIndex : ∀ i < c.cellMaxIndex, d.cellVoltageMv i < c.cellMaxMv
  cellMin : d.cellVoltageMv c.cellMinIndex = c.cellMinMv ∧
    ∀ i, c.cellMinMv ≤ d.cellVoltageMv i
  cellMinIndex : ∀ i < c.cellMinIndex, c.cellMinMv < d.cellVoltageMv i
  packVoltage : c.packVoltageMv.toNat = ∑ i, (d.cellVoltageMv i).toNat
  cellDelta : c.cellDeltaMv.toNat + c.cellMinMv.toNat = c.cellMaxMv.toNat
  tempMax : (∃ i, d.cellTempC i = c.tempMaxC) ∧ ∀ i, d.cellTempC i ≤ c.tempMaxC
  tempMin : (∃ i, d.cellTempC i = c.tempMinC) ∧ ∀ i, c.tempMinC ≤ d.cellTempC i
  balance : ∀ i, c.balanceFlag i = true ↔ BMS_BALANCE_THRESHOLD_MV < c.cellDeltaMv ∧
    c.cellMaxMv.toNat ≤ (d.cellVoltageMv i).toNat + BMS_BALANCE_TOP_MARGIN_MV.toNat
  /-- A lowest cell is not discharged. -/
  lowest : ∀ i, d.cellVoltageMv i = c.cellMinMv → c.balanceFlag i = false
  balancing : (∃ i, c.balanceFlag i = true) ↔ BMS_BALANCE_THRESHOLD_MV < c.cellDeltaMv
  soc_le : c.socPercent ≤ 100
  soc_mono : ∀ e : BmsPackData, e.isValid = true → e.cellDataValid = true →
    (∀ i, d.cellVoltageMv i ≤ e.cellVoltageMv i) → c.socPercent ≤ (computePack e).socPercent
  /-- The warning level is the worst of the conditions. -/
  warning_le : c.warningLevel ≤ BMS_WARN_CRITICAL
  critical : c.warningLevel = BMS_WARN_CRITICAL ↔
    OutOfBand BMS_CELL_UNDERVOLT_CRIT_MV BMS_CELL_OVERVOLT_CRIT_MV d.cellVoltageMv ∨
      ∃ i, BMS_TEMP_OVERTEMP_CRIT_C ≤ d.cellTempC i
  warning : c.warningLevel ≥ BMS_WARN_WARNING ↔
    OutOfBand BMS_CELL_UNDERVOLT_WARN_MV BMS_CELL_OVERVOLT_WARN_MV d.cellVoltageMv ∨
      ∃ i, BMS_TEMP_OVERTEMP_WARN_C ≤ d.cellTempC i

/-- What `computePack` returns for valid data. -/
theorem computePack_of_valid {d : BmsPackData} (hvalid : d.isValid = true)
    (hcell : d.cellDataValid = true) :
    computePack d =
      { packVoltageMv := (scanPack d).sumMv
        cellMaxMv := (scanPack d).maxMv
        cellMinMv := (scanPack d).minMv
        cellMaxIndex := (scanPack d).maxIdx
        cellMinIndex := (scanPack d).minIdx
        cellDeltaMv := (scanPack d).maxMv - (scanPack d).minMv
        tempMaxC := (scanPack d).tMax
        tempMinC := (scanPack d).tMin
        socPercent := socFromAvgMv ((scanPack d).sumMv / BMS_CELL_COUNT)
        balanceFlag := balanceFlags d (scanPack d).maxMv ((scanPack d).maxMv - (scanPack d).minMv)
        warningLevel :=
          packWarningLevel (scanPack d).minMv (scanPack d).maxMv (scanPack d).tMax } := by
  unfold computePack
  rw [hvalid, hcell]
  rfl

/-- The voltages found by the pass. -/
theorem scanPack_maxMv (d : BmsPackData) :
    d.cellVoltageMv (scanPack d).maxIdx = (scanPack d).maxMv ∧
      (∀ i, d.cellVoltageMv i ≤ (scanPack d).maxMv) ∧
        ∀ i < (scanPack d).maxIdx, d.cellVoltageMv i < (scanPack d).maxMv := by
  have h := firstMax_scanPack d
  refine ⟨UInt16.toNat_inj.mp (Int.ofNat_inj.mp h.value), fun i => ?_, fun i hi => ?_⟩
  · exact UInt16.le_iff_toNat_le.mpr (Int.ofNat_le.mp (h.le i (by simp)))
  · exact UInt16.lt_iff_toNat_lt.mpr (Int.ofNat_lt.mp (h.first i (by simp) hi))

theorem scanPack_minMv (d : BmsPackData) :
    d.cellVoltageMv (scanPack d).minIdx = (scanPack d).minMv ∧
      (∀ i, (scanPack d).minMv ≤ d.cellVoltageMv i) ∧
        ∀ i < (scanPack d).minIdx, (scanPack d).minMv < d.cellVoltageMv i := by
  have h := firstMin_scanPack d
  refine ⟨?_, fun i => ?_, fun i hi => ?_⟩
  · have hvalue := h.value
    dsimp only at hvalue
    rw [← UInt16.toNat_inj]
    omega
  · have hle : -((d.cellVoltageMv i).toNat : ℤ) ≤ -((scanPack d).minMv.toNat : ℤ) :=
      h.le i (by simp)
    rw [UInt16.le_iff_toNat_le]
    omega
  · have hlt : -((d.cellVoltageMv i).toNat : ℤ) < -((scanPack d).minMv.toNat : ℤ) :=
      h.first i (by simp) hi
    rw [UInt16.lt_iff_toNat_lt]
    omega

theorem scanPack_tMax (d : BmsPackData) :
    (∃ i, d.cellTempC i = (scanPack d).tMax) ∧ ∀ i, d.cellTempC i ≤ (scanPack d).tMax := by
  have hle : ∀ i, d.cellTempC i ≤ (scanPack d).tMax :=
    fun i => (scanPack_le_tMax_iff d _).mpr ⟨i, Int16.le_refl _⟩
  obtain ⟨i, hi⟩ := (scanPack_le_tMax_iff d _).mp (Int16.le_refl (scanPack d).tMax)
  exact ⟨⟨i, Int16.le_antisymm (hle i) hi⟩, hle⟩

theorem scanPack_tMin (d : BmsPackData) :
    (∃ i, d.cellTempC i = (scanPack d).tMin) ∧ ∀ i, (scanPack d).tMin ≤ d.cellTempC i := by
  have hle : ∀ i, (scanPack d).tMin ≤ d.cellTempC i :=
    fun i => (scanPack_tMin_le_iff d _).mpr ⟨i, Int16.le_refl _⟩
  obtain ⟨i, hi⟩ := (scanPack_tMin_le_iff d _).mp (Int16.le_refl (scanPack d).tMin)
  exact ⟨⟨i, Int16.le_antisymm hi (hle i)⟩, hle⟩

/-- The level is never worse than critical. -/
theorem packWarningLevel_le (minMv maxMv : UInt16) (tMax : Int16) :
    packWarningLevel minMv maxMv tMax ≤ BMS_WARN_CRITICAL := by
  unfold packWarningLevel
  split_ifs <;> decide

theorem computed_computePack {d : BmsPackData} (hvalid : d.isValid = true)
    (hcell : d.cellDataValid = true) : Computed d (computePack d) := by
  have hcritical := warningLevel_eq_critical_iff hvalid hcell
  have hwarning := warningLevel_ge_warning_iff hvalid hcell
  obtain ⟨hmax, hle, hmaxFirst⟩ := scanPack_maxMv d
  obtain ⟨hmin, hge, hminFirst⟩ := scanPack_minMv d
  have hsum := toNat_sumMv d
  have htMax := scanPack_tMax d
  have htMin := scanPack_tMin d
  have hsoc := fun e h => socFromAvgMv_sumMv_le (d := d) (e := e) h
  rw [computePack_of_valid hvalid hcell] at hcritical hwarning ⊢
  -- from here on only these facts about the pass matter
  generalize scanPack d = s at *
  have hspread : s.minMv ≤ s.maxMv := hmin ▸ hle _
  have hdelta : (s.maxMv - s.minMv).toNat = s.maxMv.toNat - s.minMv.toNat :=
    UInt16.toNat_sub_of_le _ _ hspread
  have hthreshold : BMS_BALANCE_THRESHOLD_MV < s.maxMv - s.minMv ↔
      50 + s.minMv.toNat < s.maxMv.toNat := by
    rw [UInt16.lt_iff_toNat_lt, hdelta]
    show 50 < _ ↔ _
    omega
  have hmargin : BMS_BALANCE_TOP_MARGIN_MV.toNat = 5 := rfl
  have hbalance := balanceFlags_iff d s.maxMv (s.maxMv - s.minMv)
  refine ⟨⟨hmax, hle⟩, hmaxFirst, ⟨hmin, hge⟩, hminFirst, hsum, ?_, htMax, htMin, hbalance, ?_, ?_,
    socFromAvgMv_le _, ?_, packWarningLevel_le _ _ _, hcritical, hwarning⟩
  · rw [hdelta]
    exact Nat.sub_add_cancel (UInt16.le_iff_toNat_le.mp hspread)
  · -- the threshold is above the margin
    intro i (hi : d.cellVoltageMv i = s.minMv)
    refine Bool.eq_false_of_not_eq_true fun hflag => ?_
    rw [hbalance, hthreshold, hi, hmargin] at hflag
    omega
  · constructor
    · rintro ⟨i, hi⟩
      exact ((hbalance i).mp hi).1
    · intro h
      refine ⟨s.maxIdx, (hbalance _).mpr ⟨h, ?_⟩⟩
      rw [hmax]
      exact Nat.le_add_right _ _
  · intro e hevalid hecell h
    rw [computePack_of_valid hevalid hecell]
    exact hsoc e h

/-- **`computePack`** finds the extremes with their places, the sum, the state of charge, the cells
to be balanced and the warning level of valid data, and balances nothing without them. -/
theorem computePack_spec (d : BmsPackData) :
    if d.isValid = true ∧ d.cellDataValid = true then Computed d (computePack d)
    else ∀ i, (computePack d).balanceFlag i = false := by
  split_ifs with h
  · exact computed_computePack h.1 h.2
  · unfold computePack
    cases hvalid : d.isValid with
    | false => exact fun _ => rfl
    | true =>
      cases hcell : d.cellDataValid with
      | false => exact fun _ => rfl
      | true => exact absurd ⟨hvalid, hcell⟩ h

end TufanAks
