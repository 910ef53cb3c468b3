import TufanAks.LoraTask
import TufanAks.UplinkScheduler.Equiv.LinkState

/-!
# The link, by the clock

With the configured constants, and on readings of a clock that does not go back, the link is down
after the first two steps of a pass exactly when it has timed out (`linked_spec`).
-/

namespace TufanAks.LoraTask

open UplinkScheduler OfflineBuffer

/-! ### The timeout -/

/-- Whether the link has timed out at `now`, the last heartbeat having come at `h` (0 for none). -/
def late (bootMs h now : ℕ) : Bool :=
  if h = 0 then bootMs + BOOT_LINK_GRACE_MS.toNat < now else h + LINK_TIMEOUT_MS.toNat < now

/-- A link without a heartbeat stays timed out. -/
theorem late_mono {bootMs h s t : ℕ} (hst : s ≤ t) (hs : late bootMs h s = true) :
    late bootMs h t = true := by
  unfold late at hs ⊢
  split_ifs at hs ⊢
  · simp only [decide_eq_true_eq] at hs ⊢
    omega
  · simp only [decide_eq_true_eq] at hs ⊢
    omega

/-- The check of the source, on readings of a clock that does not go back. -/
theorem linkCheckTimeoutWithBootGrace_eq {now last bootMs : UInt64}
    (hlast : last.toNat ≤ now.toNat) (hboot : bootMs.toNat ≤ now.toNat) :
    linkCheckTimeoutWithBootGrace now last LINK_TIMEOUT_MS bootMs BOOT_LINK_GRACE_MS =
      late bootMs.toNat last.toNat now.toNat := by
  have hzero : last = 0 ↔ last.toNat = 0 := by
    rw [← UInt64.toNat_inj]
    rfl
  rw [Bool.eq_iff_iff, linkCheckTimeoutWithBootGrace_iff (UInt64.le_iff_toNat_le.mpr hlast)
    (UInt64.le_iff_toNat_le.mpr hboot)]
  unfold late
  by_cases h : last = 0
  · rw [if_pos h, if_pos (hzero.mp h), decide_eq_true_iff]
    omega
  · rw [if_neg h, if_neg (fun h0 => h (hzero.mpr h0)), decide_eq_true_iff]
    omega

/-- One reading of the clock serves the whole pass. -/
structure Pass.Instant (p : Pass) : Prop where
  rx : ∀ rx ∈ p.rx, rx.2 = p.nowMs
  sample : p.sampleMs = p.nowMs

/-- The time of the last heartbeat after a pass. -/
def heard (h : ℕ) (p : Pass) : ℕ :=
  if UKS_HEARTBEAT_BYTE ∈ p.rx.map Prod.fst then p.nowMs.toNat else h

theorem heard_le {h : ℕ} {p : Pass} (hle : h ≤ p.nowMs.toNat) : heard h p ≤ p.nowMs.toNat := by
  unfold heard
  split_ifs
  · exact le_rfl
  · exact hle

/-- A link that has timed out comes back with a heartbeat after the epoch. -/
theorem heard_ne_zero {bootMs h now : ℕ} {p : Pass} (hh : h ≤ now) (hle : now ≤ p.nowMs.toNat)
    (hlate : late bootMs h now = true) (hnot : late bootMs (heard h p) p.nowMs.toNat = false) :
    heard h p ≠ 0 := by
  intro hzero
  have hstill := late_mono hle hlate
  have hsame : heard h p = h := by
    unfold heard at hzero ⊢
    split_ifs at hzero ⊢
    · omega
    · rfl
  rw [hsame, hstill] at hnot
  cases hnot

/-- Receiving bytes only notes heartbeats and counts the rest. -/
theorem foldl_onRxByte_eq {nowMs : UInt64} {rxs : List (UInt8 × UInt64)}
    (hnow : ∀ rx ∈ rxs, rx.2 = nowMs) (u : UplinkScheduler) :
    ∃ count lastWarn, rxs.foldl (fun u rx => (onRxByte rx.1 rx.2 u).2) u =
      { u with
        m_lastHeartbeatMs :=
          if UKS_HEARTBEAT_BYTE ∈ rxs.map Prod.fst then nowMs else u.m_lastHeartbeatMs
        m_unknownRxByteCount := count
        m_lastUnknownRxByteWarnMs := lastWarn } := by
  induction rxs generalizing u with
  | nil => exact ⟨_, _, rfl⟩
  | cons rx rxs ih =>
    obtain ⟨rxByte, rxMs⟩ := rx
    obtain rfl : rxMs = nowMs := hnow (rxByte, rxMs) List.mem_cons_self
    obtain ⟨count, lastWarn, h⟩ :=
      ih (fun rx hrx => hnow rx (List.mem_cons_of_mem _ hrx)) (onRxByte rxByte rxMs u).2
    refine ⟨count, lastWarn, ?_⟩
    rw [List.foldl_cons, h, List.map_cons]
    by_cases hbyte : rxByte = UKS_HEARTBEAT_BYTE
    · subst hbyte
      simp [onRxByte, loraClassifyRxByte]
    · have hmem : UKS_HEARTBEAT_BYTE ∈ rxByte :: rxs.map Prod.fst ↔
          UKS_HEARTBEAT_BYTE ∈ rxs.map Prod.fst :=
        List.mem_cons.trans (or_iff_right fun heq => hbyte heq.symm)
      simp only [hmem, onRxByte, loraClassifyRxByte, if_neg hbyte, reduceCtorEq, if_false]

/-- A scheduler with the configured constants at the time `now`, the last heartbeat having come at
`h`: a link that is down has timed out. -/
structure Clocked (bootMs : UInt64) (h now : ℕ) (u : UplinkScheduler) : Prop where
  linkTimeout : u.m_linkTimeoutMs = LINK_TIMEOUT_MS
  bootGrace : u.m_bootGraceMs = BOOT_LINK_GRACE_MS
  samplePeriod : u.m_offlineSamplePeriodMs = OFFLINE_SAMPLE_PERIOD_MS
  heartbeat : u.m_lastHeartbeatMs.toNat = h
  heartbeat_le : h ≤ now
  boot_le : bootMs.toNat ≤ now
  down : u.m_linkDown = true → late bootMs.toNat h now = true

/-- The scheduler after the first two steps of a pass. -/
def linked (bootMs : UInt64) (u : UplinkScheduler) (p : Pass) : UplinkScheduler :=
  (updateLink p.nowMs bootMs (p.rx.foldl (fun u rx => (onRxByte rx.1 rx.2 u).2) u)).2

/-- What the first two steps do to the scheduler. -/
structure Linked (bootMs : UInt64) (h now : ℕ) (u v : UplinkScheduler) : Prop where
  clocked : Clocked bootMs h now v
  linkDown : v.m_linkDown = late bootMs.toNat h now
  buffer : v.buffer = u.buffer
  sends : v.sends = u.sends
  /-- A new outage starts without samples. -/
  fresh : v.m_linkDown = true → u.m_linkDown = false → v.m_offlineHasSamples = false
  kept : v.m_linkDown = true → u.m_linkDown = true →
    v.m_offlineHasSamples = u.m_offlineHasSamples ∧
      v.m_lastOfflineSampleMs = u.m_lastOfflineSampleMs

/-- **The link** is down exactly when it has timed out. -/
theorem linked_spec {bootMs : UInt64} {h now : ℕ} {u : UplinkScheduler}
    (hc : Clocked bootMs h now u) {p : Pass} (hp : p.Instant) (hle : now ≤ p.nowMs.toNat) :
    Linked bootMs (heard h p) p.nowMs.toNat u (linked bootMs u p) := by
  obtain ⟨count, lastWarn, hrx⟩ := foldl_onRxByte_eq hp.rx u
  have hheard : (if UKS_HEARTBEAT_BYTE ∈ p.rx.map Prod.fst then p.nowMs
      else u.m_lastHeartbeatMs).toNat = heard h p := by
    unfold heard
    split_ifs
    · rfl
    · exact hc.heartbeat
  have hheard_le : heard h p ≤ p.nowMs.toNat := heard_le (hc.heartbeat_le.trans hle)
  have hboot := hc.boot_le.trans hle
  unfold linked
  rw [hrx]
  generalize (if UKS_HEARTBEAT_BYTE ∈ p.rx.map Prod.fst then p.nowMs
    else u.m_lastHeartbeatMs) = last at *
  -- the scheduler that has read its bytes
  let v : UplinkScheduler :=
    { u with
      m_lastHeartbeatMs := last
      m_unknownRxByteCount := count
      m_lastUnknownRxByteWarnMs := lastWarn }
  have hcheck : timeout p.nowMs bootMs v = late bootMs.toNat (heard h p) p.nowMs.toNat := by
    unfold timeout
    rw [hc.linkTimeout, hc.bootGrace,
      linkCheckTimeoutWithBootGrace_eq (by rw [hheard]; exact hheard_le) hboot, hheard]
  have hupdated := updated p.nowMs bootMs v
  show Linked bootMs (heard h p) p.nowMs.toNat u (updateLink p.nowMs bootMs v).2
  generalize updateLink p.nowMs bootMs v = result at hupdated ⊢
  cases hupdated with
  | down hlate hup =>
    rw [hcheck] at hlate
    exact ⟨⟨hc.linkTimeout, hc.bootGrace, hc.samplePeriod, hheard, hheard_le, hboot,
      fun _ => hlate⟩, hlate.symm, rfl, rfl, fun _ _ => rfl,
      fun _ hdown => absurd (hup.symm.trans hdown) (by decide)⟩
  | up htime _ _ =>
    rw [hcheck] at htime
    exact ⟨⟨hc.linkTimeout, hc.bootGrace, hc.samplePeriod, hheard, hheard_le, hboot, by simp⟩,
      htime.symm, rfl, rfl, by simp, by simp⟩
  | same hlate hstill =>
    rw [hcheck] at hlate hstill
    have hdown : u.m_linkDown = late bootMs.toNat (heard h p) p.nowMs.toNat := by
      rw [Bool.eq_iff_iff]
      refine ⟨fun hdown => ?_, hlate⟩
      -- a link that is no longer late would have a heartbeat
      by_contra hnot
      have hzero := (hstill hdown).resolve_left hnot
      rw [Bool.not_eq_true] at hnot
      refine heard_ne_zero hc.heartbeat_le hle (hc.down hdown) hnot ?_
      rw [← hheard]
      exact congrArg UInt64.toNat hzero
    exact ⟨⟨hc.linkTimeout, hc.bootGrace, hc.samplePeriod, hheard, hheard_le, hboot,
      fun h => hdown.symm.trans h⟩, hdown, rfl, rfl,
      fun h hup => absurd (hup.symm.trans h) (by decide), fun _ _ => ⟨rfl, rfl⟩⟩

/-- The third step of a pass follows the first two. -/
theorem pass_eq (bootMs : UInt64) (u : UplinkScheduler) (p : Pass) :
    pass bootMs u p =
      if p.txDue then
        if !(linked bootMs u p).m_linkDown then
          (onTxTickLinkUp p.live.isSome (p.live.getD {}) p.send (linked bootMs u p)).2
        else
          match p.live with
          | some buffered => (offlineSample p.sampleMs buffered (linked bootMs u p)).2
          | none => linked bootMs u p
      else linked bootMs u p := rfl

theorem Clocked.onTxTickLinkUp {bootMs : UInt64} {h now : ℕ} {u : UplinkScheduler}
    (hc : Clocked bootMs h now u) (haveLive : Bool) (live : TelemetryData) (send : SendFn) :
    Clocked bootMs h now (onTxTickLinkUp haveLive live send u).2 := by
  obtain ⟨buffer, sends, hu⟩ := onTxTickLinkUp_eq haveLive live send u
  rw [hu]
  exact ⟨hc.linkTimeout, hc.bootGrace, hc.samplePeriod, hc.heartbeat, hc.heartbeat_le, hc.boot_le,
    hc.down⟩

theorem Clocked.offlineSample {bootMs : UInt64} {h now : ℕ} {u : UplinkScheduler}
    (hc : Clocked bootMs h now u) (nowMs : UInt64) (live : TelemetryData) :
    Clocked bootMs h now (offlineSample nowMs live u).2 := by
  by_cases hdue : (UplinkScheduler.offlineSample nowMs live u).1 = true
  · rw [offlineSample_of_due hdue]
    exact ⟨hc.linkTimeout, hc.bootGrace, hc.samplePeriod, hc.heartbeat, hc.heartbeat_le,
      hc.boot_le, hc.down⟩
  · rw [offlineSample_of_not_due hdue]
    exact hc

/-- A sample is due when there is none yet, or when the last one is old enough. -/
theorem offlineShouldSample_iff {nowMs lastSampleMs : UInt64} {hasSample : Bool}
    {periodMs : UInt32} :
    offlineShouldSample nowMs lastSampleMs hasSample periodMs = true ↔
      (hasSample = true → periodMs.toNat ≤ (nowMs - lastSampleMs).toNat) := by
  have hperiod : periodMs.toUInt64.toNat = periodMs.toNat := rfl
  cases hasSample with
  | false => simp [offlineShouldSample]
  | true =>
    simp only [offlineShouldSample, Bool.not_true, Bool.false_eq_true, if_false,
      decide_eq_true_eq, ge_iff_le, UInt64.le_iff_toNat_le, hperiod, forall_const]

/-- The scheduler after a sample. -/
structure TookSample (nowMs : UInt64) (live : TelemetryData) (u v : UplinkScheduler) : Prop where
  hasSamples : v.m_offlineHasSamples = true
  lastSample : v.m_lastOfflineSampleMs = nowMs
  buffer : v.buffer = (obPush live u.buffer).2

theorem offlineSample_fst_iff {nowMs : UInt64} {u : UplinkScheduler} (live : TelemetryData) :
    (offlineSample nowMs live u).1 = true ↔ (u.m_offlineHasSamples = true →
      u.m_offlineSamplePeriodMs.toNat ≤ (nowMs - u.m_lastOfflineSampleMs).toNat) := by
  rw [offlineSample_fst, offlineShouldSample_iff]

theorem tookSample_of_due {nowMs : UInt64} {live : TelemetryData} {u : UplinkScheduler}
    (hdue : (offlineSample nowMs live u).1 = true) :
    TookSample nowMs live u (offlineSample nowMs live u).2 := by
  rw [offlineSample_of_due hdue]
  exact ⟨rfl, rfl, rfl⟩

/-- The TX tick does not touch the state of the link. -/
theorem pass_linkDown (bootMs : UInt64) (u : UplinkScheduler) (p : Pass) :
    (pass bootMs u p).m_linkDown = (linked bootMs u p).m_linkDown := by
  rw [pass_eq]
  split_ifs
  · obtain ⟨buffer, sends, hu⟩ :=
      onTxTickLinkUp_eq p.live.isSome (p.live.getD {}) p.send (linked bootMs u p)
    rw [hu]
  · cases p.live with
    | none => rfl
    | some buffered => exact congrArg LinkMembers.linkDown (linkMembers_offlineSample ..)
  · rfl

/-- A whole pass. -/
theorem Clocked.pass {bootMs : UInt64} {h now : ℕ} {u : UplinkScheduler}
    (hc : Clocked bootMs h now u) {p : Pass} (hp : p.Instant) (hle : now ≤ p.nowMs.toNat) :
    Clocked bootMs (heard h p) p.nowMs.toNat (pass bootMs u p) := by
  have hlinked := (linked_spec hc hp hle).clocked
  rw [pass_eq]
  split_ifs
  · exact hlinked.onTxTickLinkUp ..
  · cases p.live with
    | none => exact hlinked
    | some buffered => exact hlinked.offlineSample ..
  · exact hlinked

end TufanAks.LoraTask
