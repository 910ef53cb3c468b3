import TufanAks.Machine.Ghost
import TufanAks.OfflineBuffer.Equiv.Queue
import TufanAks.UplinkScheduler

/-!
# Offline samples are neither lost, duplicated nor reordered

The ledger of a run lists what `offlineSample` has pushed and which of it a full buffer has evicted.
It balances with the packets whose replay succeeded and those still buffered: a push appends to the
buffer, evicting its head first if it is full, and a successful replay moves the head of the buffer
to the end of what was sent (`balances_step`).  `conserved` draws the consequences for every run.
-/

namespace TufanAks.UplinkScheduler

open OfflineBuffer

/-! ### The ledger -/

/-- The ledger after an action: a sample is pushed, and if it meets a full buffer the oldest packet
there is evicted. -/
def record (l : Buffer.Ledger TelemetryData) (u : UplinkScheduler) :
    Action → Buffer.Ledger TelemetryData
  | .offlineSample nowMs live =>
    if (offlineSample nowMs live u).1 then
      (if u.buffer.s_count = OB_CAPACITY then l.evict OB_CAPACITY else l).push live
    else l
  | _ => l

/-- The ledger of the run `as` from `u₀`. -/
def ledger (u₀ : UplinkScheduler) (as : List Action) : Buffer.Ledger TelemetryData :=
  Machine.ghost step record {} u₀ as

/-- The packets whose replay succeeded, in the order of sending. -/
def replayed (u : UplinkScheduler) : List TelemetryData :=
  (u.sends.filter fun s => s.isReplay && s.ok).map Send.pkt

/-! ### The replay loop -/

/-- From `u` to `u'` the replays `rs` were attempted: the successful ones took the packets out of
the buffer in order, and a failed one left its packet first in line. -/
structure Replays (rs : List Send) (u u' : UplinkScheduler) : Prop where
  sends : u'.sends = u.sends ++ rs
  isReplay : ∀ s ∈ rs, s.isReplay = true
  content : u.buffer.content = sent rs ++ u'.buffer.content
  failed : ∀ s ∈ rs, s.ok = false → u'.buffer.content.head? = some s.pkt

theorem Replays.refl (u : UplinkScheduler) : Replays [] u u :=
  ⟨by simp, by simp, by simp [sent], by simp⟩

/-- **The replay loop** only attempts replays, and stops at the first that fails. -/
theorem replays_replayLoop (send : SendFn) (n : ℕ) (u : UplinkScheduler) :
    ∃ rs, Replays rs u (replayLoop send n u).2 := by
  induction n generalizing u with
  | zero => exact ⟨[], .refl u⟩
  | succ n ih =>
    unfold replayLoop
    rcases hpeek : u.buffer.obPeek with _ | pkt
    · exact ⟨[], .refl u⟩
    have hhead : u.buffer.content.head? = some pkt := (obPeek_eq u.buffer).symm.trans hpeek
    dsimp only [callSend]
    rcases hok : send u.sends pkt true with _ | _
    · -- the packet stays
      refine ⟨[⟨pkt, true, false⟩], ⟨rfl, by simp, by simp [sent], ?_⟩⟩
      simpa using hhead
    · -- the packet is dropped and the loop goes on
      let u₁ : UplinkScheduler :=
        { u with sends := u.sends ++ [⟨pkt, true, true⟩], buffer := u.buffer.obDropFront.2 }
      obtain ⟨rs, h⟩ := ih u₁
      have hdrop : u.buffer.content = pkt :: u₁.buffer.content := by
        rw [show u₁.buffer.content = u.buffer.content.tail from content_obDropFront u.buffer]
        exact List.eq_cons_of_mem_head? hhead
      refine ⟨⟨pkt, true, true⟩ :: rs, ⟨?_, ?_, ?_, ?_⟩⟩
      · show (replayLoop send n u₁).2.sends = _
        rw [h.sends, List.append_assoc]
        rfl
      · simpa using h.isReplay
      · rw [hdrop, h.content]
        rfl
      · simpa using h.failed

/-- Replays move packets from the buffer to what was sent. -/
theorem Replays.replayed {rs : List Send} {u u' : UplinkScheduler} (h : Replays rs u u') :
    replayed u' = replayed u ++ sent rs := by
  have hfilter : rs.filter (fun s => s.isReplay && s.ok) = rs.filter Send.ok :=
    List.filter_congr fun s hs => by rw [h.isReplay s hs, Bool.true_and]
  unfold UplinkScheduler.replayed sent
  rw [h.sends, List.filter_append, List.map_append, hfilter]

/-! ### One TX tick -/

/-- A TX tick from `u` to `u'` attempts replays and then, once, the live packet, if there is one. -/
def Ticks (haveLive : Bool) (live : TelemetryData) (send : SendFn) (u u' : UplinkScheduler) :
    Prop :=
  ∃ rs v, Replays rs u v ∧ u'.buffer = v.buffer ∧
    u'.sends = v.sends ++ if haveLive then [⟨live, false, send v.sends live false⟩] else []

theorem ticks_onTxTickLinkUp (haveLive : Bool) (live : TelemetryData) (send : SendFn)
    (u : UplinkScheduler) : Ticks haveLive live send u (onTxTickLinkUp haveLive live send u).2 := by
  obtain ⟨rs, h⟩ := replays_replayLoop send u.m_replayBurstPerTick.toNat u
  unfold onTxTickLinkUp
  cases haveLive with
  | false => exact ⟨rs, _, h, rfl, (List.append_nil _).symm⟩
  | true => exact ⟨rs, _, h, rfl, rfl⟩

/-- The replay loop only touches the buffer and the sends. -/
theorem replayLoop_eq (send : SendFn) (n : ℕ) (u : UplinkScheduler) :
    ∃ buffer sends, (replayLoop send n u).2 = { u with buffer := buffer, sends := sends } := by
  induction n generalizing u with
  | zero => exact ⟨_, _, rfl⟩
  | succ n ih =>
    unfold replayLoop
    rcases u.buffer.obPeek with _ | pkt
    · exact ⟨_, _, rfl⟩
    dsimp only [callSend]
    rcases send u.sends pkt true with _ | _
    · exact ⟨_, _, rfl⟩
    · obtain ⟨buffer, sends, h⟩ := ih
        { u with sends := u.sends ++ [⟨pkt, true, true⟩], buffer := u.buffer.obDropFront.2 }
      exact ⟨buffer, sends, h⟩

theorem onTxTickLinkUp_eq (haveLive : Bool) (live : TelemetryData) (send : SendFn)
    (u : UplinkScheduler) :
    ∃ buffer sends, (onTxTickLinkUp haveLive live send u).2 =
      { u with buffer := buffer, sends := sends } := by
  obtain ⟨buffer, sends, h⟩ := replayLoop_eq send u.m_replayBurstPerTick.toNat u
  unfold onTxTickLinkUp
  generalize replayLoop send u.m_replayBurstPerTick.toNat u = looped at h ⊢
  obtain ⟨n, v⟩ := looped
  obtain rfl : v = _ := h
  cases haveLive with
  | false => exact ⟨_, _, rfl⟩
  | true => exact ⟨_, _, rfl⟩

/-- The live packet is no replay. -/
theorem Ticks.replayed {haveLive : Bool} {live : TelemetryData} {send : SendFn}
    {u u' : UplinkScheduler} (h : Ticks haveLive live send u u') :
    ∃ rs, replayed u' = replayed u ++ sent rs ∧
      u.buffer.content = sent rs ++ u'.buffer.content := by
  obtain ⟨rs, v, hreplays, hbuffer, hsends⟩ := h
  refine ⟨rs, ?_, hbuffer ▸ hreplays.content⟩
  have hsame : UplinkScheduler.replayed u' = UplinkScheduler.replayed v := by
    unfold UplinkScheduler.replayed
    rw [hsends]
    cases haveLive with
    | false => simp
    | true => simp
  rw [hsame, hreplays.replayed]

/-! ### Every run -/

/-- What the other calls do to the buffer and to the sends. -/
theorem onRxByte_frame (rxByte : UInt8) (nowMs : UInt64) (u : UplinkScheduler) :
    (onRxByte rxByte nowMs u).2.buffer = u.buffer ∧
      (onRxByte rxByte nowMs u).2.sends = u.sends := by
  unfold onRxByte
  split_ifs
  · exact ⟨rfl, rfl⟩
  · exact ⟨rfl, rfl⟩

theorem updateLink_frame (nowMs bootMs : UInt64) (u : UplinkScheduler) :
    (updateLink nowMs bootMs u).2.buffer = u.buffer ∧
      (updateLink nowMs bootMs u).2.sends = u.sends := by
  unfold updateLink
  dsimp only
  split_ifs
  · exact ⟨rfl, rfl⟩
  · exact ⟨rfl, rfl⟩
  · exact ⟨rfl, rfl⟩

/-- Whether `offlineSample` takes a sample. -/
theorem offlineSample_fst (nowMs : UInt64) (live : TelemetryData) (u : UplinkScheduler) :
    (offlineSample nowMs live u).1 = offlineShouldSample nowMs u.m_lastOfflineSampleMs
      u.m_offlineHasSamples u.m_offlineSamplePeriodMs := by
  unfold offlineSample
  cases offlineShouldSample nowMs u.m_lastOfflineSampleMs u.m_offlineHasSamples
    u.m_offlineSamplePeriodMs with
  | false => rfl
  | true => rfl

theorem offlineSample_of_not_due {nowMs : UInt64} {live : TelemetryData} {u : UplinkScheduler}
    (h : ¬(offlineSample nowMs live u).1 = true) : (offlineSample nowMs live u).2 = u := by
  rw [offlineSample_fst, Bool.not_eq_true] at h
  unfold offlineSample
  rw [h]
  rfl

/-- The first sample of an outage sets the first time stamp. -/
theorem offlineSample_of_due {nowMs : UInt64} {live : TelemetryData} {u : UplinkScheduler}
    (h : (offlineSample nowMs live u).1 = true) :
    (offlineSample nowMs live u).2 =
      { u with
        m_lastOfflineSampleMs := nowMs
        buffer := (obPush live u.buffer).2
        m_offlineFirstTs :=
          if u.m_offlineHasSamples then u.m_offlineFirstTs else live.TEL_timestampMs
        m_offlineHasSamples := true
        m_offlineLastTs := live.TEL_timestampMs } := by
  rw [offlineSample_fst] at h
  unfold offlineSample
  rw [h]
  rfl

theorem offlineSample_frame (nowMs : UInt64) (live : TelemetryData) (u : UplinkScheduler) :
    (offlineSample nowMs live u).2.buffer =
        (if (offlineSample nowMs live u).1 then (obPush live u.buffer).2 else u.buffer) ∧
      (offlineSample nowMs live u).2.sends = u.sends := by
  by_cases hdue : (offlineSample nowMs live u).1 = true
  · rw [if_pos hdue, offlineSample_of_due hdue]
    exact ⟨rfl, rfl⟩
  · rw [if_neg hdue, offlineSample_of_not_due hdue]
    exact ⟨rfl, rfl⟩

theorem buffer_offlineSample_of_due {nowMs : UInt64} {live : TelemetryData} {u : UplinkScheduler}
    (h : (offlineSample nowMs live u).1 = true) :
    (offlineSample nowMs live u).2.buffer = (obPush live u.buffer).2 := by
  rw [(offlineSample_frame nowMs live u).1, if_pos h]

/-- A sample is no replay. -/
theorem replayed_offlineSample (nowMs : UInt64) (live : TelemetryData) (u : UplinkScheduler) :
    replayed (offlineSample nowMs live u).2 = replayed u := by
  unfold replayed
  rw [(offlineSample_frame nowMs live u).2]

/-- A call that touches neither the buffer nor the sends. -/
theorem balances_congr {l : Buffer.Ledger TelemetryData} {u u' : UplinkScheduler}
    (h : Buffer.Balances l (replayed u) u.buffer.content)
    (hframe : u'.buffer = u.buffer ∧ u'.sends = u.sends) :
    Buffer.Balances l (replayed u') u'.buffer.content := by
  unfold replayed at h ⊢
  rw [hframe.1, hframe.2]
  exact h

/-- **One action** keeps the ledger balanced. -/
theorem balances_step {l : Buffer.Ledger TelemetryData} {u : UplinkScheduler}
    (h : Buffer.Balances l (replayed u) u.buffer.content) (a : Action) :
    Buffer.Balances (record l u a) (replayed (step u a)) (step u a).buffer.content := by
  cases a with
  | onRxByte rxByte nowMs => exact balances_congr h (onRxByte_frame rxByte nowMs u)
  | updateLink nowMs bootMs => exact balances_congr h (updateLink_frame nowMs bootMs u)
  | offlineSample nowMs live =>
    simp only [record, step]
    rw [replayed_offlineSample, (offlineSample_frame nowMs live u).1]
    by_cases hsampled : (offlineSample nowMs live u).1 = true
    · rw [if_pos hsampled, if_pos hsampled, content_obPush]
      by_cases hfull : u.buffer.s_count = OB_CAPACITY
      · -- the oldest packet goes, the new one comes
        rw [if_pos hfull, if_pos hfull]
        have hcount : u.buffer.content.length = OB_CAPACITY := by rw [length_content, hfull]
        rcases hcontent : u.buffer.content with _ | ⟨oldest, rest⟩
        · rw [hcontent] at hcount
          cases hcount
        · rw [hcontent] at h hcount
          have hevict := h.evict
          rw [hcount] at hevict
          exact hevict.push live
      · rw [if_neg hfull, if_neg hfull]
        exact h.push live
    · rw [if_neg hsampled, if_neg hsampled]
      exact h
  | onTxTickLinkUp haveLive live send =>
    obtain ⟨rs, hreplayed, hcontent⟩ := (ticks_onTxTickLinkUp haveLive live send u).replayed
    show Buffer.Balances l (replayed (onTxTickLinkUp haveLive live send u).2) _
    rw [hcontent] at h
    rw [hreplayed]
    exact h.takeAll

theorem balances_exec (linkTimeoutMs bootGraceMs offlineSamplePeriodMs : UInt32)
    (replayBurstPerTick : UInt8) (unknownByteWarnIntervalMs : UInt32) (as : List Action) :
    let u₀ := configured linkTimeoutMs bootGraceMs offlineSamplePeriodMs replayBurstPerTick
      unknownByteWarnIntervalMs
    Buffer.Balances (ledger u₀ as) (replayed (Machine.exec step u₀ as))
      (Machine.exec step u₀ as).buffer.content := by
  intro u₀
  induction as using List.reverseRecOn with
  | nil => exact .empty
  | append_singleton as a ih =>
    rw [ledger, Machine.ghost_concat, Machine.exec_concat]
    exact balances_step ih a

/-- The promises about the offline samples of the run `as` from `u₀`. -/
structure Conserved (u₀ : UplinkScheduler) (as : List Action) : Prop where
  /-- What was pushed and not evicted is what was replayed, followed by what is buffered. -/
  kept : (ledger u₀ as).kept =
    replayed (Machine.exec step u₀ as) ++ (Machine.exec step u₀ as).buffer.content
  /-- What is buffered was pushed last, so that the evicted packets were the oldest. -/
  newest : (ledger u₀ as).pushed.drop
      ((ledger u₀ as).pushed.length - (Machine.exec step u₀ as).buffer.s_count) =
    (Machine.exec step u₀ as).buffer.content
  /-- A TX tick attempts replays, the first failed one leaving its packet in line, and then the
  live packet once. -/
  ticks : ∀ pre haveLive live send post, as = pre ++ .onTxTickLinkUp haveLive live send :: post →
    Ticks haveLive live send (Machine.exec step u₀ pre)
      (Machine.exec step u₀ (pre ++ [.onTxTickLinkUp haveLive live send]))

/-- **Offline samples are neither lost, duplicated nor reordered**, for every configuration, every
sequence of calls and all answers of the send callback. -/
theorem conserved (linkTimeoutMs bootGraceMs offlineSamplePeriodMs : UInt32)
    (replayBurstPerTick : UInt8) (unknownByteWarnIntervalMs : UInt32) (as : List Action) :
    Conserved (configured linkTimeoutMs bootGraceMs offlineSamplePeriodMs replayBurstPerTick
      unknownByteWarnIntervalMs) as := by
  have hbalances := balances_exec linkTimeoutMs bootGraceMs offlineSamplePeriodMs
    replayBurstPerTick unknownByteWarnIntervalMs as
  refine ⟨hbalances.kept_eq, ?_, ?_⟩
  · rw [← length_content]
    exact hbalances.drop_eq
  · rintro pre haveLive live send post -
    rw [Machine.exec_concat]
    exact ticks_onTxTickLinkUp haveLive live send _

end TufanAks.UplinkScheduler
