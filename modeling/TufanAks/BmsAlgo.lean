import Mathlib.Data.List.FinRange
import TufanAks.VehicleData

/-!
# `BmsAlgo`

`computePack` of `lib/BmsAlgo`, the display layer's reading of one snapshot of the pack, with the
snapshot that the HMI task of `main.cpp` builds from the telemetry (`hmiPackData`).
-/

namespace TufanAks

/-! ### Constants of `BmsModel.h`, `BmsComputed.h` and `BmsAlgo.h` -/

def BMS_CELL_COUNT : UInt32 := 24

def BMS_WARN_OK : UInt8 := 0
def BMS_WARN_WARNING : UInt8 := 1
def BMS_WARN_CRITICAL : UInt8 := 2
def BMS_WARN_NO_DATA : UInt8 := 3

def BMS_BALANCE_THRESHOLD_MV : UInt16 := 50
def BMS_BALANCE_TOP_MARGIN_MV : UInt16 := 5
def BMS_SOC_EMPTY_MV : UInt32 := 2500
def BMS_SOC_FULL_MV : UInt32 := 3650
def BMS_CELL_UNDERVOLT_CRIT_MV : UInt16 := 2500
def BMS_CELL_OVERVOLT_CRIT_MV : UInt16 := 3650
def BMS_TEMP_OVERTEMP_CRIT_C : Int16 := 70
def BMS_CELL_UNDERVOLT_WARN_MV : UInt16 := 2800
def BMS_CELL_OVERVOLT_WARN_MV : UInt16 := 3550
def BMS_TEMP_OVERTEMP_WARN_C : Int16 := 55

/-! ### Data -/

/-- `struct BmsPackData`. -/
structure BmsPackData where
  cellVoltageMv : Fin 24 → UInt16 := fun _ => 0
  cellTempC : Fin 24 → Int16 := fun _ => 0
  isValid : Bool := false
  cellDataValid : Bool := true

/-- `struct BmsComputed`. -/
structure BmsComputed where
  packVoltageMv : UInt32 := 0
  cellMaxMv : UInt16 := 0
  cellMinMv : UInt16 := 0
  cellMaxIndex : Fin 24 := 0
  cellMinIndex : Fin 24 := 0
  cellDeltaMv : UInt16 := 0
  socPercent : UInt8 := 0
  balanceFlag : Fin 24 → Bool := fun _ => false
  warningLevel : UInt8 := 0
  tempMaxC : Int16 := 0
  tempMinC : Int16 := 0

/-- A zero-initialised `BmsComputed`. -/
instance : Inhabited BmsComputed := ⟨{}⟩

def makeSafeInvalid : BmsComputed := { warningLevel := BMS_WARN_CRITICAL }

def makeNoCellData : BmsComputed := { warningLevel := BMS_WARN_NO_DATA }

def socFromAvgMv (avgMv : UInt32) : UInt8 :=
  if avgMv ≤ BMS_SOC_EMPTY_MV then 0
  else if avgMv ≥ BMS_SOC_FULL_MV then 100
  else ((avgMv - BMS_SOC_EMPTY_MV) * 100 / (BMS_SOC_FULL_MV - BMS_SOC_EMPTY_MV)).toUInt8

/-! ### `computePack` -/

/-- The accumulators of `computePack`'s single pass over the cells. -/
structure PackScan where
  sumMv : UInt32
  maxMv : UInt16
  minMv : UInt16
  maxIdx : Fin 24
  minIdx : Fin 24
  tMax : Int16
  tMin : Int16

/-- One iteration of the pass: cell `i`. -/
def PackScan.cell (d : BmsPackData) (s : PackScan) (i : Fin 24) : PackScan :=
  let v := d.cellVoltageMv i
  let t := d.cellTempC i
  { sumMv := s.sumMv + v.toUInt32
    maxMv := if v > s.maxMv then v else s.maxMv
    maxIdx := if v > s.maxMv then i else s.maxIdx
    minMv := if v < s.minMv then v else s.minMv
    minIdx := if v < s.minMv then i else s.minIdx
    tMax := if t > s.tMax then t else s.tMax
    tMin := if t < s.tMin then t else s.tMin }

/-- The accumulators before the pass. -/
def PackScan.start (d : BmsPackData) : PackScan :=
  { sumMv := 0
    maxMv := d.cellVoltageMv 0
    minMv := d.cellVoltageMv 0
    maxIdx := 0
    minIdx := 0
    tMax := d.cellTempC 0
    tMin := d.cellTempC 0 }

/-- The accumulators after the pass over all 24 cells. -/
def scanPack (d : BmsPackData) : PackScan :=
  (List.finRange 24).foldl (PackScan.cell d) (PackScan.start d)

/-- The balancing rule: which cells are within the margin of the highest one, when the spread
exceeds the threshold. -/
def balanceFlags (d : BmsPackData) (maxMv deltaMv : UInt16) : Fin 24 → Bool :=
  if deltaMv > BMS_BALANCE_THRESHOLD_MV then
    let lowBound :=
      if maxMv > BMS_BALANCE_TOP_MARGIN_MV then maxMv - BMS_BALANCE_TOP_MARGIN_MV else 0
    fun i => decide (d.cellVoltageMv i ≥ lowBound)
  else fun _ => false

/-- The warning level: the worst of the cell and temperature conditions. -/
def packWarningLevel (minMv maxMv : UInt16) (tMax : Int16) : UInt8 :=
  if minMv < BMS_CELL_UNDERVOLT_CRIT_MV ∨ maxMv > BMS_CELL_OVERVOLT_CRIT_MV ∨
      tMax ≥ BMS_TEMP_OVERTEMP_CRIT_C then BMS_WARN_CRITICAL
  else if minMv < BMS_CELL_UNDERVOLT_WARN_MV ∨ maxMv > BMS_CELL_OVERVOLT_WARN_MV ∨
      tMax ≥ BMS_TEMP_OVERTEMP_WARN_C then BMS_WARN_WARNING
  else BMS_WARN_OK

def computePack (d : BmsPackData) : BmsComputed :=
  if !d.isValid then makeSafeInvalid
  else if !d.cellDataValid then makeNoCellData
  else
    let s := scanPack d
    { packVoltageMv := s.sumMv
      cellMaxMv := s.maxMv
      cellMinMv := s.minMv
      cellMaxIndex := s.maxIdx
      cellMinIndex := s.minIdx
      cellDeltaMv := s.maxMv - s.minMv
      tempMaxC := s.tMax
      tempMinC := s.tMin
      socPercent := socFromAvgMv (s.sumMv / BMS_CELL_COUNT)
      balanceFlag := balanceFlags d s.maxMv (s.maxMv - s.minMv)
      warningLevel := packWarningLevel s.minMv s.maxMv s.tMax }

/-! ### The snapshot of the HMI task -/

def HMI_CELL_VOLTAGE_NO_DATA : UInt16 := 65535

/-- The `BmsPackData` that `vTask_HMI_Display` builds from the telemetry while the BMS data is
valid, and hands to `computePack`. -/
def hmiPackData (d : TelemetryData) : BmsPackData where
  isValid := d.TEL_bmsDataValid
  cellDataValid := d.TEL_cellVoltageDataValid
  cellVoltageMv i :=
    if d.TEL_cellVoltageDataValid then d.TEL_bmsCellVoltages i else HMI_CELL_VOLTAGE_NO_DATA
  cellTempC _ := 0

end TufanAks
