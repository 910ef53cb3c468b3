import TufanAks.LoraTask
import TufanAks.Telemetry

/-!
# `LoRa_txSend`

The send callback that `main.cpp` gives to the scheduler.  It holds a packet back while the module
is busy or the TX ring has no room for a frame, and otherwise hands it to `Telemetry::sendStatus`,
which writes its frame to the UART.  The logging and the feeding of the watchdog are left out.
-/

namespace TufanAks.LoraTask

open UplinkScheduler

/-- What the hardware answers during one call of the callback. -/
structure TxAnswers where
  isAuxReady : Bool
  /-- The free size of the TX ring; `none` stands for an error. -/
  LO_txFree : Option ℕ
  /-- The answer of `uart_write_bytes`, which is negative if the frame was not written. -/
  TEL_written : ℤ

/-- A call of `uart_write_bytes`: the packet, its frame and the answer. -/
structure UartWrite where
  pkt : TelemetryData
  isReplay : Bool
  frame : List Char
  TEL_written : ℤ
  deriving DecidableEq

/-- `LoRa_TxCtx`, with the static counter of the postponed sends and the writes so far. -/
structure LoRa_TxCtx where
  tel : Telemetry
  auxNotReadyLogged : Bool := false
  s_loraTxDeferredCount : UInt32 := 0
  writes : List UartWrite := []

/-- The TX ring is not known to have room for a frame. -/
def TxAnswers.ringFull (hal : TxAnswers) : Bool :=
  hal.LO_txFree.all fun free => free < LORA_TEL_FRAME_MAX_BYTES

/-- The callback: its result, and the context after the call. -/
def LoRa_txSend (hal : TxAnswers) (pkt : TelemetryData) (isReplay : Bool) (c : LoRa_TxCtx) :
    Bool × LoRa_TxCtx :=
  if !hal.isAuxReady then (false, { c with auxNotReadyLogged := true })
  else if hal.ringFull then
    (false, { c with s_loraTxDeferredCount := c.s_loraTxDeferredCount + 1 })
  else
    let (frame, tel) := c.tel.sendStatus hal.TEL_written (sanitizeForUplink pkt)
    -- `sendStatus` returns nothing, so the answer of the UART is not looked at here
    (true,
      { c with
        tel := tel
        auxNotReadyLogged := false
        writes := c.writes ++
          (frame.map fun frame => UartWrite.mk pkt isReplay frame hal.TEL_written).toList })

/-- The context after the calls of the callback that the scheduler has made, the call `i` having
got the answers `hal i`. -/
def txAfter (hal : ℕ → TxAnswers) (sends : List Send) : LoRa_TxCtx :=
  sends.zipIdx.foldl (fun c s => (LoRa_txSend (hal s.2) s.1.pkt s.1.isReplay c).2)
    { tel := Telemetry.begin {} }

/-- The callback as the scheduler sees it. -/
def txSend (hal : ℕ → TxAnswers) : SendFn := fun sends pkt isReplay =>
  (LoRa_txSend (hal sends.length) pkt isReplay (txAfter hal sends)).1

/-- The calls of `uart_write_bytes` so far. -/
def writes (hal : ℕ → TxAnswers) (u : UplinkScheduler) : List UartWrite :=
  (txAfter hal u.sends).writes

/-- The frame was written. -/
def UartWrite.ok (w : UartWrite) : Bool := 0 ≤ w.TEL_written

/-- The frames that have been written so far. -/
def written (hal : ℕ → TxAnswers) (u : UplinkScheduler) : List UartWrite :=
  (writes hal u).filter UartWrite.ok

end TufanAks.LoraTask
