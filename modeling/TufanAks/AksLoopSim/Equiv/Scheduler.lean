import TufanAks.AksLoopSim
import TufanAks.LoraTask
import TufanAks.OfflineBuffer.Equiv.Refinement
import TufanAks.Telemetry.Equiv.Acceptance
import TufanAks.UplinkScheduler.Equiv.Conservation

/-!
# The simulation and the scheduler

On the same ticks the simulation of an outage and the scheduler of the firmware do the same, each
with its own buffer and its own sampling clock: `Tied` relates the variables of the one to the
members of the other.  The simulation has unbounded integers where the firmware has 32 bits for a
time stamp or a sequence number, so the packets are the same modulo `2 ^ 32`, and the same outright
as long as no number gets there (`sim_agrees`).
-/

namespace TufanAks

open OfflineBuffer

/-! ### The deque -/

namespace OfflineBufferSim

variable {α β : Type*}

/-- The deque with its items replaced. -/
def map (f : α → β) (q : OfflineBufferSim α) : OfflineBufferSim β where
  capacity := q.capacity
  items := q.items.map f
  capacity_pos := q.capacity_pos
  length_le := by
    rw [List.length_map]
    exact q.length_le

theorem ext {q r : OfflineBufferSim α} (hcapacity : q.capacity = r.capacity)
    (hitems : q.items = r.items) : q = r := by
  cases q
  cases r
  cases hcapacity
  cases hitems
  rfl

theorem map_push (f : α → β) (item : α) (q : OfflineBufferSim α) :
    (q.push item).map f = (q.map f).push (f item) := by
  refine ext rfl ?_
  show (q.pushed item).map f = (q.map f).pushed (f item)
  unfold pushed map
  rw [List.map_append, List.length_map]
  split_ifs
  · rw [List.map_tail, List.map_singleton]
  · rw [List.map_singleton]

theorem map_dropFront (f : α → β) (q : OfflineBufferSim α) :
    q.dropFront.2.map f = (q.map f).dropFront.2 := by
  refine ext ?_ ?_
  · rw [capacity_dropFront]
    exact capacity_dropFront q
  · rw [items_dropFront]
    exact (congrArg (List.map f) (items_dropFront q)).trans List.map_tail

theorem peek_map (f : α → β) (q : OfflineBufferSim α) : (q.map f).peek = q.peek.map f :=
  List.head?_map

end OfflineBufferSim

namespace AksLoopSim

open UplinkScheduler (offlineSample onTxTickLinkUp)

/-! ### The ticks -/

/-- The ticks before `total_ms`. -/
def ticks (total_ms : ℕ) : List ℕ :=
  (List.range ((total_ms + (LORA_TX_PERIOD_MS - 1)) / LORA_TX_PERIOD_MS)).map
    (LORA_TX_PERIOD_MS * ·)

theorem mem_ticks_iff {total_ms now_ms : ℕ} :
    now_ms ∈ ticks total_ms ↔ now_ms < total_ms ∧ LORA_TX_PERIOD_MS ∣ now_ms := by
  rw [ticks, List.mem_map]
  simp only [List.mem_range]
  unfold LORA_TX_PERIOD_MS
  constructor
  · rintro ⟨k, hk, rfl⟩
    exact ⟨by omega, Nat.dvd_mul_right _ _⟩
  · rintro ⟨hlt, k, rfl⟩
    exact ⟨k, by omega, rfl⟩

/-- The loop over the clock takes the ticks one after the other. -/
theorem loop_eq_exec (start stop total_ms : ℕ) (s : Locals) :
    loop start stop total_ms 0 s = Machine.exec (tick start stop) s (ticks total_ms) := by
  have hfrom : ∀ m k s, k + m = (total_ms + (LORA_TX_PERIOD_MS - 1)) / LORA_TX_PERIOD_MS →
      loop start stop total_ms (LORA_TX_PERIOD_MS * k) s =
        Machine.exec (tick start stop) s ((List.range' k m).map (LORA_TX_PERIOD_MS * ·)) := by
    intro m
    induction m with
    | zero =>
      intro k s hk
      have hend : ¬LORA_TX_PERIOD_MS * k < total_ms := by
        unfold LORA_TX_PERIOD_MS at *
        omega
      rw [loop, if_neg hend]
      rfl
    | succ m ih =>
      intro k s hk
      have hmore : LORA_TX_PERIOD_MS * k < total_ms := by
        unfold LORA_TX_PERIOD_MS at *
        omega
      rw [loop, if_pos hmore, List.range'_succ, List.map_cons, Machine.exec_cons]
      exact ih (k + 1) _ (by omega)
  rw [ticks, List.range_eq_range']
  exact hfrom _ 0 s (Nat.zero_add _)

/-! ### The scheduler on the same ticks -/

/-- The reading as a packet of the firmware, each value in the member that the frame shows in its
place. -/
def Reading.packet (r : Reading) : TelemetryData where
  TEL_motorRpm := .ofInt r.rpm
  TEL_motorVoltageDeciV := .ofInt r.torque
  TEL_motorErrorFlags := .ofInt r.motor_err
  TEL_motorDataValid := r.motor_valid ≠ 0
  TEL_motorTimeoutActive := r.motor_timeout ≠ 0
  TEL_bmsCellVoltageMaxDeciMv := .ofInt r.cell_vmax
  TEL_bmsCellVoltageMinDeciMv := .ofInt r.cell_vmin
  TEL_bmsTempHighestC := .ofInt r.temp_h
  TEL_bmsTempLowestC := .ofInt r.temp_l
  TEL_bmsSystemState := .ofInt r.sys_state
  TEL_bmsPackVoltageDeciV := .ofInt r.pack_v
  TEL_bmsCurrentCentiA := .ofInt r.current
  TEL_bmsSocHundredths := .ofInt r.soc
  TEL_bmsDataValid := r.bms_valid ≠ 0
  TEL_timestampMs := .ofNat r.ts_ms
  TEL_speedKmhX10 := .ofInt r.spd_x10

theorem toNat_timestampMs_packet (r : Reading) :
    r.packet.TEL_timestampMs.toNat = r.ts_ms % 2 ^ 32 := UInt32.toNat_ofNat'

/-- The scheduler after a tick: inside the outage it is offered a sample, outside it sends the live
packet, and every send succeeds. -/
def schedulerTick (start stop : ℕ) (u : UplinkScheduler) (now_ms : ℕ) : UplinkScheduler :=
  if start ≤ now_ms ∧ now_ms < stop then
    (offlineSample (.ofNat now_ms) (sensorReading now_ms).packet u).2
  else (onTxTickLinkUp true (sensorReading now_ms).packet (fun _ _ _ => true) u).2

/-- The time stamp that a tick stores. -/
def storedTs (start stop : ℕ) (u : UplinkScheduler) (now_ms : ℕ) : Option ℕ :=
  if (start ≤ now_ms ∧ now_ms < stop) ∧
      (offlineSample (.ofNat now_ms) (sensorReading now_ms).packet u).1 = true then
    some (sensorReading now_ms).packet.TEL_timestampMs.toNat
  else none

/-- What is compared of a packet sent. -/
structure Packet where
  isReplay : Bool
  ts_ms : ℕ
  seq : ℕ
  deriving DecidableEq

def EmittedPacket.packet (p : EmittedPacket) : Packet :=
  ⟨p.kind = .replay, p.fields.ts_ms, p.fields.seq⟩

/-- The packet with its numbers modulo `2 ^ 32`. -/
def Packet.wrap (p : Packet) : Packet := ⟨p.isReplay, p.ts_ms % 2 ^ 32, p.seq % 2 ^ 32⟩

theorem ts_ms_wrap_lt (p : Packet) : p.wrap.ts_ms < 2 ^ 32 :=
  Nat.mod_lt p.ts_ms (Nat.two_pow_pos 32)

/-- The sends, numbered as `sendStatus` does it when the UART takes `TEL_written` bytes. -/
def numbered (TEL_written : ℕ) (sends : List Send) : List Packet :=
  Machine.observe (fun t s => (t.sendStatus TEL_written (sanitizeForUplink s.pkt)).2)
    (fun t s =>
      some ⟨s.isReplay, s.pkt.TEL_timestampMs.toNat, t.TEL_sequenceCounter.toNat⟩)
    (Telemetry.begin {}) sends

/-- The sends are numbered from 0 on. -/
theorem numbered_concat (TEL_written : ℕ) (sends : List Send) (s : Send) :
    numbered TEL_written (sends ++ [s]) =
      numbered TEL_written sends ++
        [⟨s.isReplay, s.pkt.TEL_timestampMs.toNat, sends.length % 2 ^ 32⟩] := by
  have hcounter : Machine.exec
      (fun t s => (Telemetry.sendStatus TEL_written (sanitizeForUplink s.pkt) t).2)
      (Telemetry.begin {}) sends = ⟨true, .ofNat sends.length⟩ := by
    induction sends using List.reverseRecOn with
    | nil => rfl
    | append_singleton sends s ih =>
      have hwritten : ¬(TEL_written : ℤ) < 0 := Int.not_lt.mpr (Int.natCast_nonneg _)
      rw [Machine.exec_concat, ih, Telemetry.sendStatus_snd, if_neg hwritten, List.length_append,
        List.length_singleton, UInt32.ofNat_add]
      rfl
  rw [numbered, Machine.observe_concat, hcounter, Option.toList_some]
  dsimp only
  rw [UInt32.toNat_ofNat']
  rfl

/-! ### One tick -/

/-- The variables of the simulation and the members of the scheduler. -/
structure Tied (TEL_written : ℕ) (s : Locals) (u : UplinkScheduler) : Prop where
  period_eq : u.m_offlineSamplePeriodMs = OFFLINE_SAMPLE_PERIOD_MS
  burst_eq : u.m_replayBurstPerTick = REPLAY_BURST_PER_TICK
  represents : Represents u.buffer (s.buffer.map Reading.packet)
  hasSamples_eq : u.m_offlineHasSamples = s.has_offline_sample
  lastSample_eq : u.m_lastOfflineSampleMs = .ofNat s.last_offline_sample_ms
  packets_eq : s.packets.map (fun p => p.packet.wrap) = numbered TEL_written u.sends
  seq_eq : s.seq = u.sends.length

theorem tied_start (TEL_written : ℕ) : Tied TEL_written {} LoraTask.LO_sched :=
  ⟨rfl, rfl, ⟨rfl, rfl⟩, rfl, rfl, rfl, rfl⟩

variable {TEL_written : ℕ} {s : Locals} {u : UplinkScheduler}

/-- A packet is sent on both sides. -/
theorem Tied.emit (h : Tied TEL_written s u) (now_ms : ℕ) (kind : Kind) (r : Reading) :
    Tied TEL_written (s.emit now_ms kind r)
      { u with sends := u.sends ++ [⟨r.packet, kind = .replay, true⟩] } where
  period_eq := h.period_eq
  burst_eq := h.burst_eq
  represents := h.represents
  hasSamples_eq := h.hasSamples_eq
  lastSample_eq := h.lastSample_eq
  packets_eq := by
    rw [numbered_concat, toNat_timestampMs_packet, ← h.packets_eq, ← h.seq_eq, Locals.emit,
      List.map_append]
    rfl
  seq_eq := by
    rw [List.length_append, List.length_singleton, ← h.seq_eq]
    rfl

/-- The replay loops send the same packets. -/
theorem Tied.replayLoop (h : Tied TEL_written s u) (now_ms n : ℕ) :
    Tied TEL_written (replayLoop now_ms n s)
      (UplinkScheduler.replayLoop (fun _ _ _ => true) n u).2 := by
  induction n generalizing s u with
  | zero => exact h
  | succ n ih =>
    have hpeek : u.buffer.obPeek = s.buffer.peek.map Reading.packet := by
      rw [← h.represents.peek_eq, OfflineBufferSim.peek_map]
    unfold AksLoopSim.replayLoop UplinkScheduler.replayLoop
    rw [hpeek]
    cases s.buffer.peek with
    | none => exact h
    | some buffered =>
      have hsent := h.emit now_ms .replay buffered
      refine ih (s := { s.emit now_ms .replay buffered with buffer := s.buffer.dropFront.2 })
        ⟨hsent.period_eq, hsent.burst_eq, ?_, hsent.hasSamples_eq, hsent.lastSample_eq,
          hsent.packets_eq, hsent.seq_eq⟩
      rw [OfflineBufferSim.map_dropFront]
      exact h.represents.dropFront

/-- A tick outside the outage. -/
theorem Tied.up (h : Tied TEL_written s u) (now_ms : ℕ) :
    Tied TEL_written
      ((AksLoopSim.replayLoop now_ms Contract.REPLAY_BURST_PER_TICK s).emit now_ms .live
        (sensorReading now_ms))
      (onTxTickLinkUp true (sensorReading now_ms).packet (fun _ _ _ => true) u).2 := by
  have hburst : u.m_replayBurstPerTick.toNat = Contract.REPLAY_BURST_PER_TICK := by
    rw [h.burst_eq]
    rfl
  unfold onTxTickLinkUp
  rw [hburst]
  exact (h.replayLoop now_ms Contract.REPLAY_BURST_PER_TICK).emit now_ms .live _

/-- Both sides ask in the same way whether a sample is due, at times that are less than `2 ^ 64` ms
apart. -/
theorem offlineShouldSample_ofNat {now_ms last_ms : ℕ} {has_sample : Bool}
    (hlast : has_sample = true → last_ms ≤ now_ms ∧ now_ms - last_ms < 2 ^ 64) :
    offlineShouldSample (.ofNat now_ms) (.ofNat last_ms) has_sample OFFLINE_SAMPLE_PERIOD_MS =
      contractOfflineShouldSample now_ms last_ms has_sample := by
  cases has_sample with
  | false => rfl
  | true =>
    obtain ⟨hle, hlt⟩ := hlast rfl
    have hsince : UInt64.ofNat now_ms - .ofNat last_ms = .ofNat (now_ms - last_ms) :=
      (UInt64.ofNat_sub hle).symm
    have hperiod : OFFLINE_SAMPLE_PERIOD_MS.toUInt64.toNat = Contract.OFFLINE_SAMPLE_PERIOD_MS :=
      rfl
    unfold offlineShouldSample contractOfflineShouldSample
    rw [hsince]
    simp only [Bool.not_true, Bool.false_eq_true, if_false, ge_iff_le, decide_eq_decide,
      UInt64.le_iff_toNat_le, UInt64.toNat_ofNat_of_lt' hlt, hperiod]
    omega

/-- What the simulation knows of the last sample before the tick at `now_ms`: during an outage it
is not long ago. -/
def Recent (start stop now_ms : ℕ) (s : Locals) : Prop :=
  s.has_offline_sample = true → start ≤ s.last_offline_sample_ms ∧
    s.last_offline_sample_ms < now_ms ∧
    (now_ms < stop → now_ms < s.last_offline_sample_ms + 2 * Contract.OFFLINE_SAMPLE_PERIOD_MS)

/-- What every round of the replay loop keeps, the loop keeps. -/
theorem replayLoop_invariant (Inv : Locals → Prop) (now_ms : ℕ)
    (hround : ∀ s buffered, s.buffer.peek = some buffered → Inv s →
      Inv { s.emit now_ms .replay buffered with buffer := s.buffer.dropFront.2 })
    (n : ℕ) {s : Locals} (h : Inv s) : Inv (AksLoopSim.replayLoop now_ms n s) := by
  induction n generalizing s with
  | zero => exact h
  | succ n ih =>
    unfold AksLoopSim.replayLoop
    cases hpeek : s.buffer.peek with
    | none => exact h
    | some buffered => exact ih (hround s buffered hpeek h)

/-- The replay loop does not touch the sampling. -/
theorem replayLoop_frame (now_ms n : ℕ) (s : Locals) :
    ∃ packets buffer seq, AksLoopSim.replayLoop now_ms n s =
      { s with packets := packets, buffer := buffer, seq := seq } := by
  refine replayLoop_invariant (fun t => ∃ packets buffer seq, t =
    { s with packets := packets, buffer := buffer, seq := seq }) now_ms ?_ n ⟨_, _, _, rfl⟩
  rintro t buffered - ⟨packets, buffer, seq, rfl⟩
  exact ⟨_, _, _, rfl⟩

/-- The simulation and the scheduler before the tick at `now_ms`, the scheduler with the time stamps
that it has stored. -/
structure Related (TEL_written start stop now_ms : ℕ) (s : Locals) (p : UplinkScheduler × List ℕ) :
    Prop where
  tied : Tied TEL_written s p.1
  recent : Recent start stop now_ms s
  stored_eq : s.buffered_outage_ts.map (· % 2 ^ 32) = p.2

/-- A tick outside the outage is after it if there is a sample. -/
theorem Recent.up {start stop now_ms : ℕ} (h : Recent start stop now_ms s)
    (hup : ¬(start ≤ now_ms ∧ now_ms < stop)) :
    Recent start stop (now_ms + LORA_TX_PERIOD_MS) s := by
  intro hhas
  obtain ⟨hstart, hbefore, -⟩ := h hhas
  have hafter : stop ≤ now_ms := by omega
  refine ⟨hstart, by omega, fun hstop => ?_⟩
  omega

/-- If no sample is due, the last one is less than a period ago. -/
theorem Recent.skip {start stop now_ms : ℕ} (h : Recent start stop now_ms s)
    (hdue : ¬contractOfflineShouldSample now_ms s.last_offline_sample_ms s.has_offline_sample =
      true) : Recent start stop (now_ms + LORA_TX_PERIOD_MS) s := by
  intro hhas
  obtain ⟨hstart, hbefore, -⟩ := h hhas
  rw [contractOfflineShouldSample, hhas] at hdue
  simp only [Bool.not_true, Bool.false_eq_true, if_false, decide_eq_true_eq] at hdue
  unfold Contract.OFFLINE_SAMPLE_PERIOD_MS LORA_TX_PERIOD_MS at *
  exact ⟨hstart, by omega, fun _ => by omega⟩

/-- Inside the outage both sides find the same samples due. -/
theorem Tied.offlineSample_fst (h : Tied TEL_written s u) {start stop now_ms : ℕ}
    (hrecent : Recent start stop now_ms s) (hstop : now_ms < stop) (live : TelemetryData) :
    (offlineSample (.ofNat now_ms) live u).1 =
      contractOfflineShouldSample now_ms s.last_offline_sample_ms s.has_offline_sample := by
  rw [UplinkScheduler.offlineSample_fst, h.lastSample_eq, h.hasSamples_eq, h.period_eq]
  refine offlineShouldSample_ofNat fun hhas => ?_
  obtain ⟨-, hbefore, hlate⟩ := hrecent hhas
  have hnear := hlate hstop
  unfold Contract.OFFLINE_SAMPLE_PERIOD_MS at hnear
  omega

/-- The scheduler with a sample. -/
theorem Tied.sample (h : Tied TEL_written s u) (now_ms : ℕ) {live : TelemetryData} {r : Reading}
    (hlive : live = r.packet) (hdue : (offlineSample (.ofNat now_ms) live u).1 = true) :
    Tied TEL_written
      { s with
        last_offline_sample_ms := now_ms
        has_offline_sample := true
        buffer := s.buffer.push r
        buffered_outage_ts := s.buffered_outage_ts ++ [r.ts_ms] }
      (offlineSample (.ofNat now_ms) live u).2 := by
  rw [UplinkScheduler.offlineSample_of_due hdue]
  refine ⟨h.period_eq, h.burst_eq, ?_, rfl, rfl, h.packets_eq, h.seq_eq⟩
  rw [hlive, OfflineBufferSim.map_push]
  exact h.represents.push r.packet

/-- **A tick** is the same on both sides. -/
theorem Related.tick {start stop now_ms : ℕ} {p : UplinkScheduler × List ℕ}
    (h : Related TEL_written start stop now_ms s p) :
    Related TEL_written start stop (now_ms + LORA_TX_PERIOD_MS) (tick start stop s now_ms)
      (Machine.withGhost (schedulerTick start stop) (Machine.recording (storedTs start stop)) p
        now_ms) := by
  obtain ⟨u, stored⟩ := p
  obtain ⟨htied, hrecent, hstored⟩ := h
  unfold AksLoopSim.tick Machine.withGhost Machine.recording schedulerTick storedTs
  dsimp only
  by_cases hdown : start ≤ now_ms ∧ now_ms < stop
  · have hsame := htied.offlineSample_fst hrecent hdown.2 (sensorReading now_ms).packet
    simp only [hdown, and_self, decide_true, Bool.not_true, Bool.false_eq_true, if_false, if_true,
      true_and, ← hsame]
    by_cases hdue : (offlineSample (.ofNat now_ms) (sensorReading now_ms).packet u).1 = true
    · rw [if_pos hdue, if_pos hdue]
      refine ⟨htied.sample now_ms rfl hdue, fun _ => ⟨hdown.1, ?_, fun _ => ?_⟩, ?_⟩
      · exact Nat.lt_add_of_pos_right (by decide)
      · exact Nat.add_lt_add_left (by decide) now_ms
      · rw [List.map_append, hstored, toNat_timestampMs_packet]
        rfl
    · rw [if_neg hdue, if_neg hdue, UplinkScheduler.offlineSample_of_not_due hdue]
      rw [hsame] at hdue
      exact ⟨htied, hrecent.skip hdue, hstored.trans (List.append_nil _).symm⟩
  · obtain ⟨packets, buffer, seq, hframe⟩ :=
      replayLoop_frame now_ms Contract.REPLAY_BURST_PER_TICK s
    simp only [hdown, decide_false, Bool.not_false, if_true, if_false, false_and,
      Option.toList_none, List.append_nil]
    refine ⟨htied.up now_ms, ?_, ?_⟩
    · rw [hframe]
      exact hrecent.up hdown
    · rw [hframe]
      exact hstored

/-! ### The numbers of the simulation -/

/-- The numbers that the simulation has used are below their bounds. -/
structure Bounded (total_ms : ℕ) (s : Locals) : Prop where
  buffered : ∀ r ∈ s.buffer.items, r.ts_ms < total_ms
  packets : ∀ p ∈ s.packets, p.fields.ts_ms < total_ms ∧ p.fields.seq < s.seq
  stored : ∀ t ∈ s.buffered_outage_ts, t < total_ms

variable {total_ms : ℕ}

theorem Bounded.emit (h : Bounded total_ms s) (now_ms : ℕ) (kind : Kind) {r : Reading}
    (hr : r.ts_ms < total_ms) : Bounded total_ms (s.emit now_ms kind r) where
  buffered := h.buffered
  packets := by
    intro p hp
    rcases List.mem_append.mp hp with hp | hp
    · obtain ⟨hts, hseq⟩ := h.packets p hp
      exact ⟨hts, Nat.lt_succ_of_lt hseq⟩
    · obtain rfl := List.mem_singleton.mp hp
      exact ⟨hr, Nat.lt_succ_self s.seq⟩
  stored := h.stored

theorem Bounded.replayLoop (h : Bounded total_ms s) (now_ms n : ℕ) :
    Bounded total_ms (replayLoop now_ms n s) := by
  refine replayLoop_invariant (Bounded total_ms) now_ms (fun t buffered hpeek ht => ?_) n h
  have hsent := ht.emit now_ms .replay (ht.buffered buffered (List.mem_of_head? hpeek))
  refine ⟨fun r hr => ht.buffered r ?_, hsent.packets, hsent.stored⟩
  dsimp only at hr
  rw [OfflineBufferSim.items_dropFront] at hr
  exact List.mem_of_mem_tail hr

theorem Bounded.tick (h : Bounded total_ms s) (start stop : ℕ) {now_ms : ℕ}
    (hnow : now_ms < total_ms) : Bounded total_ms (tick start stop s now_ms) := by
  unfold AksLoopSim.tick
  dsimp only
  split_ifs
  · exact (h.replayLoop now_ms _).emit now_ms .live hnow
  · refine ⟨fun r hr => ?_, h.packets, fun t ht => ?_⟩
    · rcases List.mem_append.mp hr with hr | hr
      · split_ifs at hr
        · exact h.buffered r (List.mem_of_mem_tail hr)
        · exact h.buffered r hr
      · obtain rfl := List.mem_singleton.mp hr
        exact hnow
    · rcases List.mem_append.mp ht with ht | ht
      · exact h.stored t ht
      · obtain rfl := List.mem_singleton.mp ht
        exact hnow
  · exact h

/-- A tick sends at most two packets. -/
theorem seq_tick_le (start stop : ℕ) (s : Locals) (now_ms : ℕ) :
    (tick start stop s now_ms).seq ≤ s.seq + 2 := by
  have hreplays : ∀ n s, (replayLoop now_ms n s).seq ≤ s.seq + n := by
    intro n
    induction n with
    | zero => exact fun s => Nat.le_refl _
    | succ n ih =>
      intro s
      unfold replayLoop
      cases s.buffer.peek with
      | none => exact Nat.le_add_right _ _
      | some buffered =>
        refine (ih _).trans ?_
        show s.seq + 1 + n ≤ s.seq + (n + 1)
        omega
  unfold tick
  dsimp only
  split_ifs
  · exact Nat.succ_le_succ (hreplays _ s)
  · exact Nat.le_add_right _ _
  · exact Nat.le_add_right _ _

/-- The time stamps of the live packets sent. -/
def liveTs (s : Locals) : List ℕ := (s.packets.filter (·.kind = .live)).map (·.fields.ts_ms)

/-- A replay is no live packet. -/
theorem liveTs_replayLoop (now_ms n : ℕ) (s : Locals) :
    liveTs (replayLoop now_ms n s) = liveTs s := by
  refine replayLoop_invariant (fun t => liveTs t = liveTs s) now_ms ?_ n rfl
  intro t buffered _ ht
  rw [← ht]
  simp [liveTs, Locals.emit]

theorem liveTs_emit_live (now_ms : ℕ) (r : Reading) (s : Locals) :
    liveTs (s.emit now_ms .live r) = liveTs s ++ [r.ts_ms] := by
  simp [liveTs, Locals.emit, sanitize]

/-- There is a live packet of every tick outside the outage. -/
theorem mem_liveTs_iff (start stop : ℕ) (t : ℕ) :
    t ∈ liveTs (Machine.exec (tick start stop) {} (ticks total_ms)) ↔
      t ∈ ticks total_ms ∧ ¬(start ≤ t ∧ t < stop) := by
  have hstep : ∀ s now_ms, t ∈ liveTs (tick start stop s now_ms) ↔
      t ∈ liveTs s ∨ now_ms = t ∧ ¬(start ≤ t ∧ t < stop) := by
    intro s now_ms
    unfold tick
    dsimp only
    split_ifs with hup hdue
    · rw [liveTs_emit_live, liveTs_replayLoop, List.mem_append, List.mem_singleton]
      have hts : (sensorReading now_ms).ts_ms = now_ms := rfl
      have hout : ¬(start ≤ now_ms ∧ now_ms < stop) :=
        of_decide_eq_false ((Bool.not_eq_true' _).mp hup)
      grind
    · have hin : start ≤ now_ms ∧ now_ms < stop := by simpa using hup
      show t ∈ liveTs s ↔ _
      grind
    · have hin : start ≤ now_ms ∧ now_ms < stop := by simpa using hup
      grind
  rw [Machine.exec_iff_or_exists (fun s => t ∈ liveTs s) _ hstep]
  simp [liveTs]

/-! ### The whole simulation -/

section

variable (TEL_written pre_live_ms outage_ms post_live_ms : ℕ)

/-- The scheduler of the task after the ticks of a simulation. -/
def schedulerRun : UplinkScheduler :=
  Machine.exec (schedulerTick pre_live_ms (pre_live_ms + outage_ms)) LoraTask.LO_sched
    (ticks (pre_live_ms + outage_ms + post_live_ms))

/-- The time stamps that it stores on the way. -/
def schedulerStored : List ℕ :=
  Machine.observe (schedulerTick pre_live_ms (pre_live_ms + outage_ms))
    (storedTs pre_live_ms (pre_live_ms + outage_ms)) LoraTask.LO_sched
    (ticks (pre_live_ms + outage_ms + post_live_ms))

/-- The variables of the simulation after these ticks. -/
def simRun : Locals :=
  Machine.exec (tick pre_live_ms (pre_live_ms + outage_ms)) {}
    (ticks (pre_live_ms + outage_ms + post_live_ms))

theorem runOutageSimulation_eq : runOutageSimulation pre_live_ms outage_ms post_live_ms =
    { packets := (simRun pre_live_ms outage_ms post_live_ms).packets
      buffered_outage_ts := (simRun pre_live_ms outage_ms post_live_ms).buffered_outage_ts
      outage_start_ms := pre_live_ms
      outage_end_ms := pre_live_ms + outage_ms } := by
  unfold runOutageSimulation
  rw [loop_eq_exec]
  rfl

/-- The simulation and the scheduler send and store the same numbers. -/
structure Agrees : Prop where
  packets_eq : (runOutageSimulation pre_live_ms outage_ms post_live_ms).packets.map (·.packet) =
    numbered TEL_written (schedulerRun pre_live_ms outage_ms post_live_ms).sends
  stored_eq : (runOutageSimulation pre_live_ms outage_ms post_live_ms).buffered_outage_ts =
    schedulerStored pre_live_ms outage_ms post_live_ms

/-- They do so modulo `2 ^ 32`. -/
structure AgreesModulo : Prop where
  packets_eq :
    (runOutageSimulation pre_live_ms outage_ms post_live_ms).packets.map (·.packet.wrap) =
      numbered TEL_written (schedulerRun pre_live_ms outage_ms post_live_ms).sends
  stored_eq :
    (runOutageSimulation pre_live_ms outage_ms post_live_ms).buffered_outage_ts.map (· % 2 ^ 32) =
      schedulerStored pre_live_ms outage_ms post_live_ms

theorem agreesModulo : AgreesModulo TEL_written pre_live_ms outage_ms post_live_ms := by
  have hstart : Related TEL_written pre_live_ms (pre_live_ms + outage_ms) 0 {}
      (LoraTask.LO_sched, []) := ⟨tied_start TEL_written, (fun h => by cases h), rfl⟩
  have hlast := Machine.exec_simulation_range
    (fun k => Related TEL_written pre_live_ms (pre_live_ms + outage_ms) (LORA_TX_PERIOD_MS * k))
    (LORA_TX_PERIOD_MS * ·) (fun k _ s p h => Nat.mul_add_one _ k ▸ h.tick) hstart
    (n := (pre_live_ms + outage_ms + post_live_ms + (LORA_TX_PERIOD_MS - 1)) / LORA_TX_PERIOD_MS)
  rw [Machine.exec_withGhost] at hlast
  constructor
  · rw [runOutageSimulation_eq]
    exact hlast.tied.packets_eq
  · rw [runOutageSimulation_eq]
    exact hlast.stored_eq

/-- The simulation keeps its numbers below the duration, and below two for every tick. -/
theorem bounded_simRun :
    Bounded (pre_live_ms + outage_ms + post_live_ms) (simRun pre_live_ms outage_ms post_live_ms) ∧
      (simRun pre_live_ms outage_ms post_live_ms).seq ≤
        2 * (ticks (pre_live_ms + outage_ms + post_live_ms)).length := by
  have hstart : Bounded (pre_live_ms + outage_ms + post_live_ms) {} :=
    ⟨fun r hr => absurd hr List.not_mem_nil, fun p hp => absurd hp List.not_mem_nil,
      fun t ht => absurd ht List.not_mem_nil⟩
  constructor
  · refine Machine.exec_invariant (Bounded (pre_live_ms + outage_ms + post_live_ms)) ?_ hstart
    intro s now_ms hnow h
    exact h.tick _ _ (mem_ticks_iff.mp hnow).1
  · have hgrowth := Machine.exec_growth_le Locals.seq
      (seq_tick_le pre_live_ms (pre_live_ms + outage_ms)) {}
      (ticks (pre_live_ms + outage_ms + post_live_ms))
    exact hgrowth.trans (Nat.le_of_eq (Nat.zero_add _))

/-- **The simulation and the scheduler agree** on every packet that is sent and every time stamp
that is stored: modulo `2 ^ 32` in simulations of any duration, and outright up to `2 ^ 32` ms. -/
theorem sim_agrees :
    AgreesModulo TEL_written pre_live_ms outage_ms post_live_ms ∧
      (pre_live_ms + outage_ms + post_live_ms ≤ 2 ^ 32 →
        Agrees TEL_written pre_live_ms outage_ms post_live_ms) := by
  have hmod := agreesModulo TEL_written pre_live_ms outage_ms post_live_ms
  refine ⟨hmod, fun hshort => ?_⟩
  obtain ⟨hbounded, hseq⟩ := bounded_simRun pre_live_ms outage_ms post_live_ms
  have hticks : (ticks (pre_live_ms + outage_ms + post_live_ms)).length < 2 ^ 31 := by
    unfold ticks LORA_TX_PERIOD_MS
    rw [List.length_map, List.length_range]
    omega
  constructor
  · rw [← hmod.packets_eq, runOutageSimulation_eq]
    refine List.map_congr_left fun p hp => ?_
    obtain ⟨hts, hnumber⟩ := hbounded.packets p hp
    have htsmod : p.fields.ts_ms % 2 ^ 32 = p.fields.ts_ms :=
      Nat.mod_eq_of_lt (Nat.lt_of_lt_of_le hts hshort)
    have hseqmod : p.fields.seq % 2 ^ 32 = p.fields.seq := Nat.mod_eq_of_lt (by omega)
    rw [EmittedPacket.packet, Packet.wrap, htsmod, hseqmod]
  · rw [← hmod.stored_eq, runOutageSimulation_eq]
    refine (List.map_id _).symm.trans (List.map_congr_left fun t ht => ?_)
    exact (Nat.mod_eq_of_lt (Nat.lt_of_lt_of_le (hbounded.stored t ht) hshort)).symm

end

/-- The simulation that the end-to-end tests run: an outage of a minute, and time for the replay. -/
theorem agrees_of_minute : Agrees 80 1000 60000 45000 :=
  (sim_agrees 80 1000 60000 45000).2 (by omega)

/-- Where the two agree, no live packet has a time stamp of more than 32 bits. -/
theorem lt_of_agrees {TEL_written pre_live_ms outage_ms post_live_ms t : ℕ}
    (h : Agrees TEL_written pre_live_ms outage_ms post_live_ms)
    (ht : t ∈ liveTs (simRun pre_live_ms outage_ms post_live_ms)) : t < 2 ^ 32 := by
  have hmod := agreesModulo TEL_written pre_live_ms outage_ms post_live_ms
  obtain ⟨p, hp, rfl⟩ := List.mem_map.mp ht
  have hsame := h.packets_eq.trans hmod.packets_eq.symm
  rw [runOutageSimulation_eq] at hsame
  have hwrap : p.packet = p.packet.wrap :=
    List.map_inj_left.mp hsame p (List.mem_of_mem_filter hp)
  have hlt := ts_ms_wrap_lt p.packet
  rwa [← hwrap] at hlt

/-- The two differ once a live packet is sent `2 ^ 32` ms or more after the start. -/
theorem not_agrees_of_long : ¬Agrees 80 4294967501 0 0 := by
  intro h
  have htick : 4294967500 ∈ ticks (4294967501 + 0 + 0) := by
    refine mem_ticks_iff.mpr ⟨by omega, ?_⟩
    unfold LORA_TX_PERIOD_MS
    omega
  have hlive : 4294967500 ∈ liveTs (simRun 4294967501 0 0) :=
    (mem_liveTs_iff _ _ _).mpr ⟨htick, by omega⟩
  have hlt := lt_of_agrees h hlive
  omega

end AksLoopSim

end TufanAks
