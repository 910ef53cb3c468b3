import TufanAks.LoraTask.Equiv.TxSend
import TufanAks.UplinkScheduler.Equiv.LinkState

/-!
# The link budget

`SystemConfig.h` bounds a frame by `LORA_TEL_FRAME_MAX_BYTES`, and its static assertion compares
what one TX tick can write with what the UART can take.  Both rest on that bound
(`linkBudget`): no frame is longer, so a frame fits into the ring whenever the callback finds room,
and a tick writes at most one frame for each replay and one for the live packet.
-/

namespace TufanAks.LoraTask

open UplinkScheduler

/-- The bytes of the writes. -/
def bytes (ws : List UartWrite) : ℕ := (ws.map fun w => w.frame.length).sum

theorem bytes_le {ws : List UartWrite}
    (h : ∀ w ∈ ws, w.frame.length ≤ LORA_TEL_FRAME_MAX_BYTES) :
    bytes ws ≤ ws.length * LORA_TEL_FRAME_MAX_BYTES := by
  have hsum := List.sum_le_card_nsmul (ws.map fun w => w.frame.length) LORA_TEL_FRAME_MAX_BYTES
    (List.forall_mem_map.mpr h)
  rwa [List.length_map, nsmul_eq_mul, Nat.cast_id] at hsum

/-! ### One call of the callback -/

/-- A call writes nothing, or one frame when the ring has room for it. -/
theorem writes_LoRa_txSend (hal : TxAnswers) (pkt : TelemetryData) (isReplay : Bool)
    (c : LoRa_TxCtx) :
    (LoRa_txSend hal pkt isReplay c).2.writes = c.writes ∨
      hal.passes = true ∧ ∃ seq, (LoRa_txSend hal pkt isReplay c).2.writes = c.writes ++
        [⟨pkt, isReplay, Telemetry.format seq (sanitizeForUplink pkt), hal.TEL_written⟩] := by
  cases hpass : hal.passes with
  | false => exact .inl (LoRa_txSend_of_not_passes hpass pkt isReplay c).2.2
  | true =>
    obtain ⟨⟨isInitialized, seq⟩, logged, deferred, writes⟩ := c
    cases isInitialized with
    | true => exact .inr ⟨rfl, seq, (LoRa_txSend_of_passes hpass pkt isReplay rfl).2.2⟩
    | false =>
      -- without `begin` there is nothing to write
      unfold TxAnswers.passes at hpass
      rw [Bool.and_eq_true_iff, Bool.not_eq_true'] at hpass
      unfold LoRa_txSend
      rw [hpass.1, hpass.2]
      exact .inl (List.append_nil _)

/-- **A frame fits into the ring** when the callback has found room. -/
theorem bytes_LoRa_txSend_le {hal : TxAnswers} {free : ℕ} (hfree : hal.LO_txFree = some free)
    (pkt : TelemetryData) (isReplay : Bool) (c : LoRa_TxCtx) :
    ∃ new, (LoRa_txSend hal pkt isReplay c).2.writes = c.writes ++ new ∧ bytes new ≤ free := by
  rcases writes_LoRa_txSend hal pkt isReplay c with hnone | ⟨hpass, seq, hone⟩
  · exact ⟨[], by rw [hnone, List.append_nil], Nat.zero_le _⟩
  · refine ⟨_, hone, ?_⟩
    have hroom : LORA_TEL_FRAME_MAX_BYTES ≤ free := by
      unfold TxAnswers.passes TxAnswers.ringFull at hpass
      rw [hfree, Bool.and_eq_true_iff, Bool.not_eq_true', Option.all_some,
        decide_eq_false_iff_not, not_lt] at hpass
      exact hpass.2
    refine le_trans ?_ hroom
    show (Telemetry.format seq (sanitizeForUplink pkt)).length + 0 ≤ _
    exact Telemetry.length_format_le seq _

/-! ### One TX tick -/

/-- Every frame in a run is short. -/
theorem length_frame_le (hal : ℕ → TxAnswers) (sends : List Send) :
    ∀ w ∈ (txAfter hal sends).writes, w.frame.length ≤ LORA_TEL_FRAME_MAX_BYTES := by
  induction sends using List.reverseRecOn with
  | nil => simp [txAfter]
  | append_singleton sends s ih =>
    rw [writes_concat]
    intro w hw
    rcases List.mem_append.mp hw with hw | hw
    · exact ih w hw
    · split_ifs at hw
      · rw [List.mem_singleton.mp hw]
        exact Telemetry.length_format_le _ _
      · cases hw

/-- **A TX tick** writes at most one frame for each replay and one for the live packet. -/
theorem TickWrites.bytes_le {hal : ℕ → TxAnswers} {u u' : UplinkScheduler}
    {ws ls : List UartWrite} (h : TickWrites hal u u' ws ls) :
    bytes (ws ++ ls) ≤ (1 + u.m_replayBurstPerTick.toNat) * LORA_TEL_FRAME_MAX_BYTES := by
  have hreplays : ws.length ≤ u.m_replayBurstPerTick.toNat := by
    by_contra hmore
    exact Nat.lt_irrefl _ ((h.reach _).mp (Nat.not_le.mp hmore)).1
  have hlength : (ws ++ ls).length ≤ 1 + u.m_replayBurstPerTick.toNat := by
    have hlive := h.length_live
    rw [List.length_append]
    omega
  refine (LoraTask.bytes_le fun w hw => ?_).trans (Nat.mul_le_mul_right _ hlength)
  refine length_frame_le hal u'.sends w ?_
  rw [show (txAfter hal u'.sends).writes = _ from h.writes]
  exact List.mem_append_right _ hw

/-- The number of replays is part of the configuration. -/
theorem replayBurst_txStep (hal : ℕ → TxAnswers) (u : UplinkScheduler) (a : Action) :
    (txStep hal u a).m_replayBurstPerTick = u.m_replayBurstPerTick := by
  obtain ⟨b, hb⟩ : ∃ b, txStep hal u a = step u b := by
    cases a with
    | onRxByte rxByte nowMs => exact ⟨.onRxByte rxByte nowMs, rfl⟩
    | updateLink nowMs bootMs => exact ⟨.updateLink nowMs bootMs, rfl⟩
    | offlineSample nowMs live => exact ⟨.offlineSample nowMs live, rfl⟩
    | onTxTickLinkUp haveLive live send => exact ⟨.onTxTickLinkUp haveLive live (txSend hal), rfl⟩
  rw [hb]
  exact congrArg (fun w => w.m_replayBurstPerTick) (configuration_step u b)

/-! ### The budget -/

/-- The promises about the frames, for all packets and sequence numbers, and about the TX ticks
after the run `as` of the scheduler of the task. -/
structure LinkBudget (hal : ℕ → TxAnswers) (as : List Action) : Prop where
  /-- `sendStatus` writes the whole frame. -/
  whole : ∀ TEL_written seq d,
    (Telemetry.sendStatus TEL_written d ⟨true, seq⟩).1 = some (Telemetry.format seq d)
  length_le : ∀ seq d, (Telemetry.format seq d).length ≤ LORA_TEL_FRAME_MAX_BYTES
  ending : ∀ seq d, ['\r', '\n'] <:+ Telemetry.format seq d
  /-- What a call of the callback writes fits into the free part of the ring. -/
  ring : ∀ answers free pkt isReplay c, answers.LO_txFree = some free →
    ∃ new, (LoRa_txSend answers pkt isReplay c).2.writes = c.writes ++ new ∧ bytes new ≤ free
  /-- A TX tick writes no more than the static assertion accounts for. -/
  tick : ∀ haveLive live send,
    ∃ new, writes hal (Machine.exec (txStep hal) LO_sched
        (as ++ [.onTxTickLinkUp haveLive live send])) =
        writes hal (Machine.exec (txStep hal) LO_sched as) ++ new ∧
      bytes new ≤ (1 + REPLAY_BURST_PER_TICK.toNat) * LORA_TEL_FRAME_MAX_BYTES
  /-- The static assertion. -/
  capacity : (1 + REPLAY_BURST_PER_TICK.toNat) * LORA_TEL_FRAME_MAX_BYTES * 1000 /
    LORA_TX_PERIOD_MS ≤ LORA_UART_BAUD * 8 / 100

/-- **The link budget** is kept, whatever is sent and whatever the hardware answers. -/
theorem linkBudget (hal : ℕ → TxAnswers) (as : List Action) : LinkBudget hal as := by
  refine ⟨Telemetry.sendStatus_eq, Telemetry.length_format_le, Telemetry.ending_format,
    fun _ _ pkt isReplay c hfree => bytes_LoRa_txSend_le hfree pkt isReplay c, ?_, by decide⟩
  intro haveLive live send
  obtain ⟨ws, ls, h⟩ := tickWrites_onTxTickLinkUp hal haveLive live
    (Machine.exec (txStep hal) LO_sched as)
  have hburst : (Machine.exec (txStep hal) LO_sched as).m_replayBurstPerTick =
      REPLAY_BURST_PER_TICK :=
    Machine.exec_frame (txStep hal) (fun u => u.m_replayBurstPerTick)
      (fun u a _ => replayBurst_txStep hal u a) LO_sched
  rw [Machine.exec_concat]
  refine ⟨ws ++ ls, h.writes, ?_⟩
  rw [← hburst]
  exact h.bytes_le

end TufanAks.LoraTask
