import TufanAks.LoraTask.TxSend
import TufanAks.Telemetry.Equiv.FrameLength
import TufanAks.UplinkScheduler.Equiv.Conservation

/-!
# What `LoRa_txSend` writes

A call of the callback succeeds when its two gates are open, and then it has called
`uart_write_bytes` once, whatever that answered.  The frames that were written are numbered
consecutively (`numbered_txAfter`), but the scheduler drops a replayed packet whose frame was not
written: it drops no other only as long as the writes of replays succeed (`followsWrites_iff`).
-/

namespace TufanAks.LoraTask

open UplinkScheduler

/-! ### One call of the callback -/

/-- The module is ready and the TX ring has room for a frame. -/
def TxAnswers.passes (hal : TxAnswers) : Bool := hal.isAuxReady && !hal.ringFull

/-- A call that holds the packet back writes nothing. -/
theorem LoRa_txSend_of_not_passes {hal : TxAnswers} (h : hal.passes = false) (pkt : TelemetryData)
    (isReplay : Bool) (c : LoRa_TxCtx) :
    (LoRa_txSend hal pkt isReplay c).1 = false ∧ (LoRa_txSend hal pkt isReplay c).2.tel = c.tel ∧
      (LoRa_txSend hal pkt isReplay c).2.writes = c.writes := by
  unfold LoRa_txSend
  unfold TxAnswers.passes at h
  cases haux : hal.isAuxReady with
  | false => exact ⟨rfl, rfl, rfl⟩
  | true =>
    rw [haux, Bool.true_and, Bool.not_eq_false'] at h
    rw [Bool.not_true, if_neg Bool.false_ne_true, if_pos h]
    exact ⟨rfl, rfl, rfl⟩

/-- A call that passes the gates hands one frame to the UART. -/
theorem LoRa_txSend_of_passes {hal : TxAnswers} (h : hal.passes = true) (pkt : TelemetryData)
    (isReplay : Bool) {c : LoRa_TxCtx} {seq : UInt32} (hc : c.tel = ⟨true, seq⟩) :
    (LoRa_txSend hal pkt isReplay c).1 = true ∧
      (LoRa_txSend hal pkt isReplay c).2.tel =
        ⟨true, if hal.TEL_written < 0 then seq else seq + 1⟩ ∧
      (LoRa_txSend hal pkt isReplay c).2.writes = c.writes ++
        [⟨pkt, isReplay, Telemetry.format seq (sanitizeForUplink pkt), hal.TEL_written⟩] := by
  unfold TxAnswers.passes at h
  rw [Bool.and_eq_true_iff, Bool.not_eq_true'] at h
  have hframe := Telemetry.sendStatus_eq hal.TEL_written seq (sanitizeForUplink pkt)
  have htel := Telemetry.sendStatus_snd hal.TEL_written seq (sanitizeForUplink pkt)
  unfold LoRa_txSend
  rw [h.1, h.2, hc, Bool.not_true, if_neg Bool.false_ne_true, if_neg Bool.false_ne_true]
  dsimp only
  rw [hframe, htel]
  exact ⟨rfl, rfl, rfl⟩

theorem txAfter_concat (hal : ℕ → TxAnswers) (sends : List Send) (s : Send) :
    txAfter hal (sends ++ [s]) =
      (LoRa_txSend (hal sends.length) s.pkt s.isReplay (txAfter hal sends)).2 := by
  unfold txAfter
  rw [List.zipIdx_append, List.foldl_append]
  simp

/-! ### The numbering of the frames -/

/-- The frames written so far carry the numbers from 0 on, and the counter shows the next. -/
structure Numbered (c : LoRa_TxCtx) : Prop where
  tel : c.tel = ⟨true, UInt32.ofNat (c.writes.filter UartWrite.ok).length⟩
  frame : ∀ i w, (c.writes.filter UartWrite.ok)[i]? = some w →
    w.frame = Telemetry.format (UInt32.ofNat i) (sanitizeForUplink w.pkt)

/-- **One call** keeps the numbering. -/
theorem Numbered.txSend {c : LoRa_TxCtx} (h : Numbered c) (hal : TxAnswers) (pkt : TelemetryData)
    (isReplay : Bool) : Numbered (LoRa_txSend hal pkt isReplay c).2 := by
  cases hpass : hal.passes with
  | false =>
    obtain ⟨-, htel, hwrites⟩ := LoRa_txSend_of_not_passes hpass pkt isReplay c
    exact ⟨by rw [htel, hwrites, h.tel], by rw [hwrites]; exact h.frame⟩
  | true =>
    obtain ⟨-, htel, hwrites⟩ := LoRa_txSend_of_passes hpass pkt isReplay h.tel
    rcases lt_or_ge hal.TEL_written 0 with hfail | hok
    · -- the counter stays, and the frame is not among those written
      have hsame : (LoRa_txSend hal pkt isReplay c).2.writes.filter UartWrite.ok =
          c.writes.filter UartWrite.ok := by
        rw [hwrites, List.filter_append,
          List.filter_cons_of_neg (by simpa [UartWrite.ok] using hfail), List.filter_nil,
          List.append_nil]
      rw [if_pos hfail] at htel
      exact ⟨by rw [htel, hsame], by rw [hsame]; exact h.frame⟩
    · have hone : (LoRa_txSend hal pkt isReplay c).2.writes.filter UartWrite.ok =
          c.writes.filter UartWrite.ok ++ [⟨pkt, isReplay, Telemetry.format
            (UInt32.ofNat (c.writes.filter UartWrite.ok).length) (sanitizeForUplink pkt),
            hal.TEL_written⟩] := by
        rw [hwrites, List.filter_append,
          List.filter_cons_of_pos (by simpa [UartWrite.ok] using hok), List.filter_nil]
      rw [if_neg (not_lt.mpr hok)] at htel
      refine ⟨?_, ?_⟩
      · rw [htel, hone, List.length_append, List.length_singleton, UInt32.ofNat_add]
        rfl
      · rw [hone]
        intro i w hw
        rcases Nat.lt_or_ge i (c.writes.filter UartWrite.ok).length with hlt | hge
        · rw [List.getElem?_append_left hlt] at hw
          exact h.frame i w hw
        · rw [List.getElem?_append_right hge, List.getElem?_singleton] at hw
          split_ifs at hw with hlast
          obtain rfl : i = (c.writes.filter UartWrite.ok).length := by omega
          obtain rfl := Option.some.inj hw
          rfl

theorem numbered_txAfter (hal : ℕ → TxAnswers) (sends : List Send) :
    Numbered (txAfter hal sends) := by
  induction sends using List.reverseRecOn with
  | nil => exact ⟨rfl, by simp [txAfter]⟩
  | append_singleton sends s ih =>
    rw [txAfter_concat]
    exact ih.txSend _ _ _

/-! ### One call by the scheduler -/

theorem txSend_eq (hal : ℕ → TxAnswers) (sends : List Send) (pkt : TelemetryData)
    (isReplay : Bool) : txSend hal sends pkt isReplay = (hal sends.length).passes := by
  unfold txSend
  cases hpass : (hal sends.length).passes with
  | false => exact (LoRa_txSend_of_not_passes hpass pkt isReplay _).1
  | true =>
    exact (LoRa_txSend_of_passes hpass pkt isReplay (numbered_txAfter hal sends).tel).1

/-- The write that a call makes which passes the gates. -/
def writeOf (hal : ℕ → TxAnswers) (sends : List Send) (s : Send) : UartWrite where
  pkt := s.pkt
  isReplay := s.isReplay
  frame := Telemetry.format (txAfter hal sends).tel.TEL_sequenceCounter (sanitizeForUplink s.pkt)
  TEL_written := (hal sends.length).TEL_written

/-- A call of the callback makes one write if it passes the gates, and none otherwise. -/
theorem writes_concat (hal : ℕ → TxAnswers) (sends : List Send) (s : Send) :
    (txAfter hal (sends ++ [s])).writes = (txAfter hal sends).writes ++
      if (hal sends.length).passes then [writeOf hal sends s] else [] := by
  have htel := (numbered_txAfter hal sends).tel
  rw [txAfter_concat]
  cases hpass : (hal sends.length).passes with
  | false =>
    rw [(LoRa_txSend_of_not_passes hpass s.pkt s.isReplay _).2.2]
    exact (List.append_nil _).symm
  | true =>
    rw [(LoRa_txSend_of_passes hpass s.pkt s.isReplay htel).2.2, if_pos rfl, writeOf, htel]

/-! ### The replay loop -/

/-- From `u` to `u'` the replays were handed to the UART as the writes `ws`, and their packets were
dropped from the buffer. -/
structure Drains (hal : ℕ → TxAnswers) (n : ℕ) (u u' : UplinkScheduler) (ws : List UartWrite) :
    Prop where
  content : u.buffer.content = ws.map UartWrite.pkt ++ u'.buffer.content
  writes : writes hal u' = writes hal u ++ ws
  isReplay : ∀ w ∈ ws, w.isReplay = true
  answer : ∀ k w, ws[k]? = some w → w.TEL_written = (hal (u.sends.length + k)).TEL_written
  /-- The loop goes on as long as there are rounds and packets and the gates are open. -/
  reach : ∀ k, k < ws.length ↔ k < n ∧ k < u.buffer.s_count ∧
    ∀ j ≤ k, (hal (u.sends.length + j)).passes = true

/-- The loop stops at once without rounds, without packets or at a gate. -/
theorem Drains.nil {hal : ℕ → TxAnswers} {n : ℕ} {u u' : UplinkScheduler}
    (hbuffer : u'.buffer = u.buffer) (hwrites : LoraTask.writes hal u' = LoraTask.writes hal u)
    (hstop : n = 0 ∨ u.buffer.s_count = 0 ∨ (hal u.sends.length).passes = false) :
    Drains hal n u u' [] := by
  refine ⟨by simp [hbuffer], by simp [hwrites], by simp, by simp, fun k => ?_⟩
  refine ⟨fun h => absurd h (Nat.not_lt_zero k), ?_⟩
  rintro ⟨hn, hcount, hopen⟩
  have hfirst := hopen 0 (Nat.zero_le k)
  rw [Nat.add_zero] at hfirst
  rcases hstop with rfl | hzero | hgate
  · exact absurd hn (Nat.not_lt_zero k)
  · omega
  · rw [hgate] at hfirst
    cases hfirst

/-- The loop hands on the oldest packet, drops it and goes on from there. -/
theorem Drains.cons {hal : ℕ → TxAnswers} {n : ℕ} {u u₁ u' : UplinkScheduler}
    {pkt : TelemetryData} {ws : List UartWrite} (hpass : (hal u.sends.length).passes = true)
    (hcontent : u.buffer.content = pkt :: u₁.buffer.content)
    (hsends : u₁.sends = u.sends ++ [⟨pkt, true, true⟩]) (h : Drains hal n u₁ u' ws) :
    Drains hal (n + 1) u u' (writeOf hal u.sends ⟨pkt, true, true⟩ :: ws) := by
  have hlength : u₁.sends.length = u.sends.length + 1 := by
    rw [hsends, List.length_append, List.length_singleton]
  have hcount : u.buffer.s_count = u₁.buffer.s_count + 1 := by
    rw [← OfflineBuffer.length_content, hcontent, List.length_cons, OfflineBuffer.length_content]
  have hfirst : LoraTask.writes hal u₁ =
      LoraTask.writes hal u ++ [writeOf hal u.sends ⟨pkt, true, true⟩] := by
    unfold LoraTask.writes
    rw [hsends, writes_concat, hpass, if_pos rfl]
  refine ⟨?_, ?_, ?_, ?_, ?_⟩
  · rw [hcontent, h.content]
    rfl
  · rw [h.writes, hfirst, List.append_assoc]
    rfl
  · rintro w (_ | ⟨_, hw⟩)
    · rfl
    · exact h.isReplay w hw
  · rintro (_ | k) w hw
    · rw [← Option.some.inj hw]
      rfl
    · rw [h.answer k w hw, hlength, Nat.add_assoc, Nat.add_comm 1]
  · rintro (_ | k)
    · refine ⟨fun _ => ⟨Nat.zero_lt_succ n, by omega, ?_⟩, fun _ => Nat.zero_lt_succ _⟩
      rintro j hj
      rw [Nat.le_zero.mp hj]
      exact hpass
    · rw [List.length_cons, Nat.add_lt_add_iff_right, h.reach, hcount, hlength,
        Nat.add_lt_add_iff_right, Nat.add_lt_add_iff_right]
      refine and_congr_right fun _ => and_congr_right fun _ => ?_
      constructor
      · rintro hopen (_ | j) hj
        · exact hpass
        · have hnext := hopen j (Nat.le_of_succ_le_succ hj)
          rwa [Nat.add_assoc, Nat.add_comm 1] at hnext
      · intro hopen j hj
        have hnext := hopen (j + 1) (Nat.succ_le_succ hj)
        rwa [Nat.add_assoc, Nat.add_comm 1]

/-- **The replay loop** hands every packet that it drops to the UART. -/
theorem drains_replayLoop (hal : ℕ → TxAnswers) (n : ℕ) (u : UplinkScheduler) :
    ∃ ws, Drains hal n u (replayLoop (txSend hal) n u).2 ws := by
  induction n generalizing u with
  | zero => exact ⟨[], .nil rfl rfl (.inl rfl)⟩
  | succ n ih =>
    unfold replayLoop
    have hcount := OfflineBuffer.length_content u.buffer
    rcases hpeek : u.buffer.obPeek with _ | pkt
    · rw [OfflineBuffer.obPeek_eq, List.head?_eq_none_iff] at hpeek
      rw [hpeek, List.length_nil] at hcount
      exact ⟨[], .nil rfl rfl (.inr (.inl hcount.symm))⟩
    rw [OfflineBuffer.obPeek_eq] at hpeek
    dsimp only [callSend]
    rw [txSend_eq]
    cases hpass : (hal u.sends.length).passes with
    | false =>
      refine ⟨[], .nil rfl ?_ (.inr (.inr hpass))⟩
      show (txAfter hal (u.sends ++ [_])).writes = _
      rw [writes_concat, hpass]
      exact List.append_nil _
    | true =>
      obtain ⟨ws, h⟩ := ih
        { u with sends := u.sends ++ [⟨pkt, true, true⟩], buffer := u.buffer.obDropFront.2 }
      refine ⟨_, h.cons hpass ?_ rfl⟩
      show _ = pkt :: u.buffer.obDropFront.2.content
      rw [OfflineBuffer.content_obDropFront]
      exact List.eq_cons_of_mem_head? hpeek

/-! ### One TX tick -/

/-- A TX tick makes the writes of the replay loop and at most one for the live packet. -/
structure TickWrites (hal : ℕ → TxAnswers) (u u' : UplinkScheduler) (ws ls : List UartWrite) :
    Prop where
  content : u.buffer.content = ws.map UartWrite.pkt ++ u'.buffer.content
  writes : writes hal u' = writes hal u ++ (ws ++ ls)
  replays : ∀ w ∈ ws, w.isReplay = true
  live : ∀ w ∈ ls, w.isReplay = false
  length_live : ls.length ≤ 1
  answer : ∀ k w, ws[k]? = some w → w.TEL_written = (hal (u.sends.length + k)).TEL_written
  reach : ∀ k, k < ws.length ↔ k < u.m_replayBurstPerTick.toNat ∧ k < u.buffer.s_count ∧
    ∀ j ≤ k, (hal (u.sends.length + j)).passes = true

theorem tickWrites_onTxTickLinkUp (hal : ℕ → TxAnswers) (haveLive : Bool) (live : TelemetryData)
    (u : UplinkScheduler) :
    ∃ ws ls, TickWrites hal u (onTxTickLinkUp haveLive live (txSend hal) u).2 ws ls := by
  obtain ⟨ws, h⟩ := drains_replayLoop hal u.m_replayBurstPerTick.toNat u
  unfold onTxTickLinkUp
  generalize replayLoop (txSend hal) u.m_replayBurstPerTick.toNat u = looped at h ⊢
  obtain ⟨n, v⟩ := looped
  cases haveLive with
  | false =>
    exact ⟨ws, [], h.content, by rw [List.append_nil]; exact h.writes, h.isReplay, by simp,
      by simp, h.answer, h.reach⟩
  | true =>
    refine ⟨ws, if (hal v.sends.length).passes then
        [writeOf hal v.sends ⟨live, false, txSend hal v.sends live false⟩] else [],
      h.content, ?_, h.isReplay, ?_, ?_, h.answer, h.reach⟩
    · show (txAfter hal (v.sends ++ [_])).writes = _
      rw [writes_concat, ← List.append_assoc, ← h.writes]
      rfl
    · intro w hw
      split_ifs at hw
      · rw [List.mem_singleton.mp hw]
        rfl
      · cases hw
    · split_ifs <;> simp

/-! ### Every run -/

/-- One action, with `LoRa_txSend` as the callback of every TX tick. -/
def txStep (hal : ℕ → TxAnswers) (u : UplinkScheduler) : Action → UplinkScheduler
  | .onTxTickLinkUp haveLive live _ => (onTxTickLinkUp haveLive live (txSend hal) u).2
  | a => step u a

/-- From `u` to `u'` a packet is dropped only if a frame of it was written, each packet having a
frame of its own. -/
def DropsWritten (hal : ℕ → TxAnswers) (u u' : UplinkScheduler) : Prop :=
  ∃ dropped new, u.buffer.content = dropped ++ u'.buffer.content ∧
    written hal u' = written hal u ++ new ∧
      dropped.Sublist ((new.filter UartWrite.isReplay).map UartWrite.pkt)

/-- The sequence numbers and the drops of the run `as` from `u₀` follow the writes. -/
structure FollowsWrites (hal : ℕ → TxAnswers) (u₀ : UplinkScheduler) (as : List Action) :
    Prop where
  /-- The frames written carry the numbers from 0 on, in the order of writing. -/
  numbered : ∀ i w, (written hal (Machine.exec (txStep hal) u₀ as))[i]? = some w →
    w.frame = Telemetry.format (UInt32.ofNat i) (sanitizeForUplink w.pkt)
  drops : Machine.Along (txStep hal)
    (fun u a => ∀ haveLive live send, a = .onTxTickLinkUp haveLive live send →
      DropsWritten hal u (txStep hal u a)) u₀ as

/-- No write of a replay fails in the step: a TX tick hands the oldest packets to the UART, as long
as it has rounds left and the gates are open. -/
def ReplaysSucceed (hal : ℕ → TxAnswers) (u : UplinkScheduler) : Action → Prop
  | .onTxTickLinkUp _ _ _ =>
    ∀ k, k < u.m_replayBurstPerTick.toNat → k < u.buffer.s_count →
      (∀ j ≤ k, (hal (u.sends.length + j)).passes = true) →
        0 ≤ (hal (u.sends.length + k)).TEL_written
  | _ => True

/-- **One TX tick** drops only what was written exactly when no write of a replay fails. -/
theorem TickWrites.dropsWritten_iff {hal : ℕ → TxAnswers} {u u' : UplinkScheduler}
    {ws ls : List UartWrite} (h : TickWrites hal u u' ws ls) :
    DropsWritten hal u u' ↔ ∀ w ∈ ws, w.ok = true := by
  have hnew : written hal u' =
      written hal u ++ (ws.filter UartWrite.ok ++ ls.filter UartWrite.ok) := by
    unfold written
    rw [h.writes, List.filter_append, List.filter_append]
  have hreplays : ((ws.filter UartWrite.ok ++ ls.filter UartWrite.ok).filter
      UartWrite.isReplay) = ws.filter UartWrite.ok := by
    have hws : (ws.filter UartWrite.ok).filter UartWrite.isReplay = ws.filter UartWrite.ok :=
      List.filter_eq_self.mpr fun w hw => h.replays w (List.mem_of_mem_filter hw)
    have hls : (ls.filter UartWrite.ok).filter UartWrite.isReplay = [] :=
      List.filter_eq_nil_iff.mpr fun w hw => by
        rw [h.live w (List.mem_of_mem_filter hw)]
        exact Bool.false_ne_true
    rw [List.filter_append, hws, hls, List.append_nil]
  constructor
  · rintro ⟨dropped, new, hcontent, hwritten, hsub⟩
    obtain rfl := List.append_cancel_left (hnew.symm.trans hwritten)
    obtain rfl := List.append_cancel_right (h.content.symm.trans hcontent)
    -- as many frames written as packets dropped
    have hle := hsub.length_le
    rw [hreplays, List.length_map, List.length_map] at hle
    exact List.length_filter_eq_length_iff.mp (le_antisymm (List.length_filter_le _ _) hle)
  · intro hall
    refine ⟨_, _, h.content, hnew, ?_⟩
    rw [hreplays, List.filter_eq_self.mpr hall]

theorem TickWrites.forall_ok_iff {hal : ℕ → TxAnswers} {u u' : UplinkScheduler}
    {ws ls : List UartWrite} (h : TickWrites hal u u' ws ls) (haveLive : Bool)
    (live : TelemetryData) (send : SendFn) :
    (∀ w ∈ ws, w.ok = true) ↔ ReplaysSucceed hal u (.onTxTickLinkUp haveLive live send) := by
  constructor
  · intro hall k hburst hcount hopen
    have hk : k < ws.length := (h.reach k).mpr ⟨hburst, hcount, hopen⟩
    have hok := hall _ (List.getElem_mem hk)
    rw [← h.answer k _ (List.getElem?_eq_getElem hk)]
    exact of_decide_eq_true hok
  · intro hsucceed w hw
    obtain ⟨k, hk, rfl⟩ := List.getElem_of_mem hw
    obtain ⟨hburst, hcount, hopen⟩ := (h.reach k).mp hk
    refine decide_eq_true ?_
    rw [h.answer k _ (List.getElem?_eq_getElem hk)]
    exact hsucceed k hburst hcount hopen

theorem dropsWritten_iff (hal : ℕ → TxAnswers) (u : UplinkScheduler) (a : Action) :
    (∀ haveLive live send, a = .onTxTickLinkUp haveLive live send →
      DropsWritten hal u (txStep hal u a)) ↔ ReplaysSucceed hal u a := by
  cases a with
  | onTxTickLinkUp haveLive live send =>
    obtain ⟨ws, ls, h⟩ := tickWrites_onTxTickLinkUp hal haveLive live u
    rw [← h.forall_ok_iff haveLive live send, ← h.dropsWritten_iff]
    constructor
    · exact fun hdrops => hdrops haveLive live send rfl
    · exact fun hdrops _ _ _ _ => hdrops
  | _ => simp [ReplaysSucceed]

/-- **Sequence numbers and drops follow the writes** exactly when no write of a replay fails: then
the scheduler, to which the callback has reported success, drops a packet that was not written.
The configuration, the calls and the answers of the hardware are arbitrary. -/
theorem followsWrites_iff (linkTimeoutMs bootGraceMs offlineSamplePeriodMs : UInt32)
    (replayBurstPerTick : UInt8) (unknownByteWarnIntervalMs : UInt32) (hal : ℕ → TxAnswers)
    (as : List Action) :
    let u₀ := configured linkTimeoutMs bootGraceMs offlineSamplePeriodMs replayBurstPerTick
      unknownByteWarnIntervalMs
    FollowsWrites hal u₀ as ↔ Machine.Along (txStep hal) (ReplaysSucceed hal) u₀ as := by
  intro u₀
  have halong : Machine.Along (txStep hal) _ u₀ as ↔
      Machine.Along (txStep hal) (ReplaysSucceed hal) u₀ as :=
    Machine.along_iff_of_invariant (fun _ => True) (fun u a _ => dropsWritten_iff hal u a)
      (fun _ _ _ _ => trivial) trivial as
  rw [← halong]
  exact ⟨FollowsWrites.drops, fun h => ⟨(numbered_txAfter hal _).frame, h⟩⟩

/-- An outage with one sample, which the first TX tick after it replays. -/
def oneReplay : List Action :=
  [.updateLink 6000 0, .offlineSample 6000 { TEL_timestampMs := 6000 },
    .onRxByte UKS_HEARTBEAT_BYTE 6100, .updateLink 6110 0,
    .onTxTickLinkUp false {} fun _ _ _ => true]

/-- A module that is ready, a ring with room and a driver that fails. -/
def failingUart : TxAnswers := ⟨true, some 256, -1⟩

/-- The sample is dropped although `uart_write_bytes` has failed. -/
theorem not_followsWrites_of_failed_write :
    ¬FollowsWrites (fun _ => failingUart) LO_sched oneReplay := by
  intro h
  have htick := (Machine.along_iff_forall _ _).mp h.drops (oneReplay.take 4) _ [] rfl
  have hok := (dropsWritten_iff _ _ _).mp htick 0 (by decide) (by decide) fun _ _ => rfl
  exact absurd hok (by decide)

end TufanAks.LoraTask
