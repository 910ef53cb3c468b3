import TufanAks.BmsAlgo
import TufanAks.HMIHelpers

/-!
# `BmsNextionPacket.cpp`

`buildBmsNextionCommands`, which shows the cells on the screen.  It sends the components whose value
differs from the cached one, as long as the bytes of one call last; a component that is not sent
keeps its old value in the cache and is tried again in the next call.

The five loops and branches of the function differ in the component they are about: the name they
print, the value they send and the entry of the cache they compare it with and store it in.
-/

namespace TufanAks

/-- How far the bar of a cell is filled. -/
def cellBarFill (mv : UInt16) : UInt8 :=
  if mv = HMI_CELL_VOLTAGE_NO_DATA then 0
  else if mv.toUInt32 ≤ BMS_SOC_EMPTY_MV then 0
  else if mv.toUInt32 ≥ BMS_SOC_FULL_MV then 100
  else ((mv.toUInt32 - BMS_SOC_EMPTY_MV) * 100 / (BMS_SOC_FULL_MV - BMS_SOC_EMPTY_MV)).toUInt8

/-- `struct BmsNextionCache`, as its constructor leaves it. -/
structure BmsNextionCache where
  cellVoltageMv : Fin 24 → UInt16 := fun _ => 0
  cellBarFill : Fin 24 → UInt8 := fun _ => 255
  balanceFlag : Fin 24 → UInt8 := fun _ => 255
  cellMaxMv : UInt16 := 0
  cellMinMv : UInt16 := 0
  warningLevel : UInt8 := 255
  isWarm : Bool := false

/-! ### Components -/

/-- The components of the screen that the function drives. -/
inductive BmsComponent
  | cell (i : Fin 24)
  | j (i : Fin 24)
  | bal (i : Fin 24)
  | cellmax
  | cellmin
  | warn
  deriving DecidableEq

namespace BmsComponent

/-- The name on the screen. -/
def name : BmsComponent → String
  | .cell i => "cell" ++ toString i.val
  | .j i => "j" ++ toString i.val
  | .bal i => "bal" ++ toString i.val
  | .cellmax => "cellmax"
  | .cellmin => "cellmin"
  | .warn => "warn"

/-- The value to be shown. -/
def value (comp : BmsComputed) (raw : BmsPackData) : BmsComponent → ℕ
  | .cell i => (raw.cellVoltageMv i).toNat
  | .j i => (TufanAks.cellBarFill (raw.cellVoltageMv i)).toNat
  | .bal i => if comp.balanceFlag i then 1 else 0
  | .cellmax => comp.cellMaxMv.toNat
  | .cellmin => comp.cellMinMv.toNat
  | .warn => comp.warningLevel.toNat

/-- The value in the cache. -/
def cached (cache : BmsNextionCache) : BmsComponent → ℕ
  | .cell i => (cache.cellVoltageMv i).toNat
  | .j i => (cache.cellBarFill i).toNat
  | .bal i => (cache.balanceFlag i).toNat
  | .cellmax => cache.cellMaxMv.toNat
  | .cellmin => cache.cellMinMv.toNat
  | .warn => cache.warningLevel.toNat

/-- The cache with the value to be shown. -/
def store (comp : BmsComputed) (raw : BmsPackData) (cache : BmsNextionCache) :
    BmsComponent → BmsNextionCache
  | .cell i =>
    { cache with cellVoltageMv := Function.update cache.cellVoltageMv i (raw.cellVoltageMv i) }
  | .j i =>
    { cache with
      cellBarFill :=
        Function.update cache.cellBarFill i (TufanAks.cellBarFill (raw.cellVoltageMv i)) }
  | .bal i =>
    { cache with
      balanceFlag := Function.update cache.balanceFlag i (if comp.balanceFlag i then 1 else 0) }
  | .cellmax => { cache with cellMaxMv := comp.cellMaxMv }
  | .cellmin => { cache with cellMinMv := comp.cellMinMv }
  | .warn => { cache with warningLevel := comp.warningLevel }

/-- The command that shows a value. -/
def command (c : BmsComponent) (value : ℕ) : NextionCommand := .val c.name value

/-- The components of the three loops. -/
def cells : List BmsComponent :=
  (List.finRange 24).map .cell ++ (List.finRange 24).map .j ++ (List.finRange 24).map .bal

/-- The components after them. -/
def summary : List BmsComponent := [.cellmax, .cellmin, .warn]

end BmsComponent

/-! ### The function -/

/-- The local variables, the cache and the components sent so far with their values. -/
structure BmsNextionPass where
  cache : BmsNextionCache
  currentBytes : ℕ := 0
  budgetExhausted : Bool := false
  allProcessed : Bool := true
  sent : List (BmsComponent × ℕ) := []

namespace BmsNextionPass

/-- The lambda `emitAndCheck`: whether the command was sent. -/
def emitAndCheck (maxBytes : ℕ) (c : BmsComponent) (value : ℕ) (p : BmsNextionPass) :
    Bool × BmsNextionPass :=
  if p.budgetExhausted then (false, p)
  else
    let len := (c.command value).body.length
    if len ≤ 0 then (false, p)
    -- three bytes more for the end of the command
    else if p.currentBytes + len + 3 > maxBytes then (false, { p with budgetExhausted := true })
    else
      (true, { p with sent := p.sent ++ [(c, value)], currentBytes := p.currentBytes + len + 3 })

/-- One component: it is sent if its value is not the one in the cache. -/
def process (comp : BmsComputed) (raw : BmsPackData) (forceFullRefresh : Bool) (maxBytes : ℕ)
    (p : BmsNextionPass) (c : BmsComponent) : BmsNextionPass :=
  if forceFullRefresh ∨ c.value comp raw ≠ c.cached p.cache then
    let (sent, p) := p.emitAndCheck maxBytes c (c.value comp raw)
    if sent then { p with cache := c.store comp raw p.cache } else { p with allProcessed := false }
  else p

end BmsNextionPass

/-- `buildBmsNextionCommands`: the components sent with their values, and the cache after the
call. -/
def buildBmsNextionCommands (comp : BmsComputed) (raw : BmsPackData) (cache : BmsNextionCache)
    (forceFullRefresh updateCells : Bool) (maxBytes : ℕ) :
    List (BmsComponent × ℕ) × BmsNextionCache :=
  let mustProcessCells := updateCells || forceFullRefresh || !cache.isWarm
  let p : BmsNextionPass := { cache }
  let p :=
    if mustProcessCells then
      BmsComponent.cells.foldl (BmsNextionPass.process comp raw forceFullRefresh maxBytes) p
    else p
  let p := BmsComponent.summary.foldl (BmsNextionPass.process comp raw forceFullRefresh maxBytes) p
  (p.sent, if p.allProcessed then { p.cache with isWarm := true } else p.cache)

end TufanAks
