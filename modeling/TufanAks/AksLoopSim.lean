import TufanAks.Contract
import TufanAks.OfflineBufferSim

/-!
# `aks_loop_sim.py`

The simulation that the end-to-end tests run in place of the firmware: on the ticks of a virtual
clock a live packet is sent, after a replayed one if there is any, or sampled into the offline
buffer while the link is down.  The integers of Python are unbounded; those that are never negative
are natural numbers here.
-/

namespace TufanAks.AksLoopSim

/-- The dictionary that `_sensor_reading` returns. -/
structure Reading where
  rpm : ℤ
  torque : ℤ
  motor_err : ℤ
  motor_valid : ℤ
  motor_timeout : ℤ
  cell_vmax : ℤ
  cell_vmin : ℤ
  temp_h : ℤ
  temp_l : ℤ
  sys_state : ℤ
  pack_v : ℤ
  current : ℤ
  soc : ℤ
  bms_valid : ℤ
  ts_ms : ℕ
  spd_x10 : ℤ
  deriving DecidableEq

/-- The dictionary of a packet: a reading, the version and the sequence number. -/
structure Fields extends Reading where
  ver : ℤ
  seq : ℕ
  deriving DecidableEq

/-- The values of `EmittedPacket.kind`. -/
inductive Kind
  | replay
  | live
  deriving DecidableEq, Repr

/-- `class EmittedPacket`. -/
structure EmittedPacket where
  tick_now_ms : ℕ
  kind : Kind
  fields : Fields
  deriving DecidableEq

/-- `class SimResult`. -/
structure SimResult where
  packets : List EmittedPacket := []
  buffered_outage_ts : List ℕ := []
  outage_start_ms : ℕ := 0
  outage_end_ms : ℕ := 0
  deriving DecidableEq

/-- `_sensor_reading`. -/
def sensorReading (now_ms : ℕ) : Reading where
  rpm := 1200
  torque := 100
  motor_err := 0
  motor_valid := 1
  motor_timeout := 0
  cell_vmax := 37500
  cell_vmin := 37400
  temp_h := 28
  temp_l := 26
  sys_state := 2
  pack_v := 780
  current := 5000
  soc := 8000
  bms_valid := 1
  ts_ms := now_ms
  spd_x10 := 250

/-- `_sanitize`. -/
def sanitize (reading : Reading) : Reading :=
  { reading with
    sys_state := Contract.sanitizeSystemState reading.sys_state
    soc := Contract.sanitizeSoc reading.soc
    current := Contract.sanitizeCurrent reading.current }

def contractOfflineShouldSample (now_ms last_sample_ms : ℕ) (has_sample : Bool) : Bool :=
  if !has_sample then true
  else (now_ms : ℤ) - last_sample_ms ≥ Contract.OFFLINE_SAMPLE_PERIOD_MS

/-! ### `run_outage_simulation` -/

theorem OB_CAPACITY_pos : 0 < Contract.OB_CAPACITY := by decide

/-- The variables that the loop changes, apart from the clock. -/
structure Locals where
  packets : List EmittedPacket := []
  buffered_outage_ts : List ℕ := []
  buffer : OfflineBufferSim Reading := .init Contract.OB_CAPACITY OB_CAPACITY_pos
  seq : ℕ := 0
  last_offline_sample_ms : ℕ := 0
  has_offline_sample : Bool := false

/-- A packet with the next sequence number is appended to the packets sent. -/
def Locals.emit (now_ms : ℕ) (kind : Kind) (reading : Reading) (s : Locals) : Locals :=
  { s with
    seq := s.seq + 1
    packets := s.packets ++
      [⟨now_ms, kind, { sanitize reading with ver := Contract.VER, seq := s.seq }⟩] }

/-- The replay loop with `n` rounds left. -/
def replayLoop (now_ms : ℕ) : ℕ → Locals → Locals
  | 0, s => s
  | n + 1, s =>
    match s.buffer.peek with
    | none => s
    | some buffered =>
      let s := s.emit now_ms .replay buffered
      replayLoop now_ms n { s with buffer := s.buffer.dropFront.2 }

/-- The body of the loop over the clock. -/
def tick (outage_start_ms outage_end_ms : ℕ) (s : Locals) (now_ms : ℕ) : Locals :=
  let link_down := decide (outage_start_ms ≤ now_ms ∧ now_ms < outage_end_ms)
  if !link_down then
    let s := replayLoop now_ms Contract.REPLAY_BURST_PER_TICK s
    s.emit now_ms .live (sensorReading now_ms)
  else
    let reading := sensorReading now_ms
    if contractOfflineShouldSample now_ms s.last_offline_sample_ms s.has_offline_sample then
      { s with
        last_offline_sample_ms := now_ms
        has_offline_sample := true
        buffer := s.buffer.push reading
        buffered_outage_ts := s.buffered_outage_ts ++ [reading.ts_ms] }
    else s

/-- The loop over the clock, from `now_ms` on. -/
def loop (outage_start_ms outage_end_ms total_ms now_ms : ℕ) (s : Locals) : Locals :=
  if now_ms < total_ms then
    loop outage_start_ms outage_end_ms total_ms (now_ms + Contract.LORA_TX_PERIOD_MS)
      (tick outage_start_ms outage_end_ms s now_ms)
  else s
termination_by total_ms - now_ms
decreasing_by
  have hpos : 0 < Contract.LORA_TX_PERIOD_MS := by decide
  omega

/-- `run_outage_simulation`, with the three durations given. -/
def runOutageSimulation (pre_live_ms outage_ms post_live_ms : ℕ) : SimResult :=
  let s := loop pre_live_ms (pre_live_ms + outage_ms) (pre_live_ms + outage_ms + post_live_ms) 0 {}
  { packets := s.packets
    buffered_outage_ts := s.buffered_outage_ts
    outage_start_ms := pre_live_ms
    outage_end_ms := pre_live_ms + outage_ms }

end TufanAks.AksLoopSim
