import TufanAks.UplinkScheduler

/-!
# The loop of `vTask_LoRa_UKS`

One pass of the loop in `main.cpp`: the received bytes go to the scheduler, the state of the link is
updated, and if a TX tick is due the scheduler sends or samples the packet in the telemetry queue.
`transmit` adds the ground station behind a radio that is cut for a while: what is sent during the
cut is not received.
-/

namespace TufanAks.LoraTask

open UplinkScheduler

/-- What one pass of the loop finds; the clock is read with `LO_hal.nowMs()`. -/
structure Pass where
  /-- The bytes of `LO_rxBuffer`, each with the reading of the clock for it. -/
  rx : List (UInt8 × UInt64)
  /-- The reading of the clock for the state of the link. -/
  nowMs : UInt64
  /-- Whether `LORA_TX_PERIOD_MS` has passed since the last TX tick. -/
  txDue : Bool
  /-- The packet in `TEL_sensorDataQueue`. -/
  live : Option TelemetryData
  /-- The reading of the clock for a sample. -/
  sampleMs : UInt64
  /-- The send callback, `LoRa_txSend`. -/
  send : SendFn

/-- One pass of the loop, the task having started at `bootMs`. -/
def pass (bootMs : UInt64) (u : UplinkScheduler) (p : Pass) : UplinkScheduler :=
  -- 1. RX
  let u := p.rx.foldl (fun u rx => (onRxByte rx.1 rx.2 u).2) u
  -- 2. link FSM
  let u := (updateLink p.nowMs bootMs u).2
  -- 3. TX tick
  if p.txDue then
    if !u.m_linkDown then (onTxTickLinkUp p.live.isSome (p.live.getD {}) p.send u).2
    else
      match p.live with
      | some buffered => (offlineSample p.sampleMs buffered u).2
      | none => u
  else u

/-- The scheduler that the task creates. -/
def LO_sched : UplinkScheduler :=
  UplinkScheduler.configured LINK_TIMEOUT_MS BOOT_LINK_GRACE_MS OFFLINE_SAMPLE_PERIOD_MS
    REPLAY_BURST_PER_TICK LORA_UNKNOWN_BYTE_WARN_INTERVAL_MS

/-- The scheduler and the packets that the ground station has received. -/
structure Uplink where
  sched : UplinkScheduler
  received : List TelemetryData := []

/-- One pass with the radio cut from `cutStart` to `cutEnd`. -/
def transmit (bootMs : UInt64) (cutStart cutEnd : ℕ) (s : Uplink) (p : Pass) : Uplink :=
  let u := pass bootMs s.sched p
  { sched := u
    received := s.received ++
      if cutStart ≤ p.nowMs.toNat ∧ p.nowMs.toNat < cutEnd then []
      else sent (u.sends.drop s.sched.sends.length) }

end TufanAks.LoraTask
