import TufanAks.LoraLink
import TufanAks.Text.Scan

/-!
# `e22_diagnostic.cpp`

The program that is flashed in place of the firmware to look at the radio module: it queries the
registers, prints them, compares them with the contract and sends a line in the normal mode.  The
hardware is a `LoraHal`, and a `Bench` adds the tick counter, which waiting alone advances.

The loop that waits for AUX runs with fuel; `none` means that the fuel ran out.  The setup of the
pins and of the UART, the log and the loop without an end after the last step are left out.  Of the
log there remains the `Verdict`, the outcome that it reports.
-/

namespace TufanAks.E22Diagnostic

open Text LoraLink

def DIAG_AUX_WAIT_MS : UInt32 := 500
def DIAG_RX_WAIT_MS : UInt32 := 500

/-- The line that is sent in the normal mode. -/
def DIAG_pingMsg : List UInt8 :=
  "E22_DIAG_PING\r\n".toList.map fun c => UInt8.ofNat c.toNat

/-- The hardware and the tick counter. -/
structure Bench where
  tick : UInt32
  hal : LoraHal

def vTaskDelay (ticks : UInt32) (b : Bench) : Bench := { b with tick := b.tick + ticks }

/-- The loop that waits for AUX, since `t0`. -/
def waitAux (t0 : UInt32) : ℕ → Bench → Option (Bool × Bench)
  | 0, _ => none
  | fuel + 1, b =>
    if b.tick - t0 < pdMS_TO_TICKS DIAG_AUX_WAIT_MS then
      let (ready, hal) := b.hal.isAuxReady
      let b := { b with hal }
      if ready then some (true, b) else waitAux t0 fuel (vTaskDelay (pdMS_TO_TICKS 10) b)
    else some (false, b)

/-- What the log says of the answer to the query. -/
inductive Verdict
  | errorResponse
  | incomplete
  | compatible
  | different
  deriving DecidableEq, Repr

/-- The printed lines and the verdict. -/
structure Report where
  lines : List (List Char)
  verdict : Verdict
  deriving DecidableEq

/-- The line for a register, `E22REG,0x%02X,0x%02X`. -/
def regLine (addr : ℕ) (value : UInt8) : List Char :=
  "E22REG,0x".toList ++ fixedDigits 16 2 addr ++ ",0x".toList ++ fixedDigits 16 2 value.toNat ++
    "\r\n".toList

/-- What is made of the answer to the query. -/
def diagnose (DIAG_rxLen : Int32) (DIAG_resp : ℕ → UInt8) : Report where
  lines :=
    if DIAG_rxLen.toInt ≥ E22_RESPONSE_LEN then
      (List.range E22_REG_BLOCK_LEN.toNat).map fun i =>
        regLine (E22_REG_BLOCK_START.toNat + i) (DIAG_resp (3 + i))
    else []
  verdict :=
    if DIAG_rxLen > 0 ∧ e22_isErrorResponse DIAG_resp (sizeT DIAG_rxLen) then .errorResponse
    else
      match e22_parseRegResponse DIAG_resp (sizeT DIAG_rxLen) with
      | none => .incomplete
      | some DIAG_regs =>
        if e22_regsEqual DIAG_regs E22_CONTRACT_REGS then .compatible else .different

/-- `app_main` of the diagnostic build; whether AUX gets ready is logged only. -/
def app_main (fuel : ℕ) (b : Bench) : Option (Report × Bench) := do
  let b := { b with
    hal := b.hal.setModePins LORA_MODE_CONFIG_M0_LEVEL LORA_MODE_CONFIG_M1_LEVEL }
  let (_, b) ← waitAux b.tick fuel b
  let b := vTaskDelay (pdMS_TO_TICKS 50) b
  let hal := b.hal.uartFlush.uartWrite e22_buildReadAllCommand
  let ((DIAG_rxLen, DIAG_resp), hal) := hal.uartRead E22_RESPONSE_LEN DIAG_RX_WAIT_MS
  let report := diagnose DIAG_rxLen DIAG_resp
  let b := vTaskDelay (pdMS_TO_TICKS 50) { b with hal }
  let b := { b with
    hal := b.hal.setModePins LORA_MODE_NORMAL_M0_LEVEL LORA_MODE_NORMAL_M1_LEVEL }
  let (_, b) ← waitAux b.tick fuel b
  -- what comes back is logged only
  let hal := b.hal.uartFlush.uartWrite DIAG_pingMsg
  return (report, { b with hal := (hal.uartRead 31 DIAG_RX_WAIT_MS).2 })

end TufanAks.E22Diagnostic
