import TufanAks.LoraTask.Equiv.Records
import TufanAks.LoraTask.Equiv.Timing
import TufanAks.Machine.Run
import TufanAks.Timeline.Gaps

/-!
# Coverage of a radio outage

The radio is cut from `cutStart` to `cutEnd`.  Before the cut every TX tick puts its packet on
record.  During the cut a tick loses its packet as long as the link counts as up, and once the link
has timed out the packets are sampled.  After the cut every tick is on record again, or the one
before it.  So the records have a hole from the last tick before the cut to the first tick at which
the link has timed out or the cut has ended (`Recovered`), and `covered_iff` says that this hole is
what decides.
-/

namespace TufanAks.LoraTask

open UplinkScheduler OfflineBuffer Timeline

/-! ### What every pass keeps -/

/-- The record of the first `n` TX ticks. -/
abbrev Timing.Sampled (w : Timing) (hCut n : ℕ) (K : List ℕ) : Prop :=
  Timeline.Sampled w.stamp w.Early (fun i => Recovered w hCut (w.tick i)) n K

/-- The clock of the link is right, and so are the records. -/
structure OnTime (w : Timing) (hCut : ℕ) (s : Uplink) (g : Progress) : Prop where
  clocked : Clocked w.bootMs g.heartbeat g.now s.sched
  start_le : w.startMs ≤ g.now
  sampled : w.Sampled hCut g.ticks (onRecord w.epoch s)

/-- The state after the first two steps of a pass. -/
def afterLink (w : Timing) (s : Uplink) (p : Pass) : Uplink :=
  ⟨linked w.bootMs s.sched p, s.received⟩

section step

variable {w : Timing} {hCut : ℕ} {s : Uplink} {g : Progress} {p : Pass}

/-- The link is down exactly when it has timed out. -/
theorem OnTime.link (h : OnTime w hCut s g) (hr : Regular w g p) :
    Linked w.bootMs (heard g.heartbeat p) p.nowMs.toNat s.sched (linked w.bootMs s.sched p) :=
  linked_spec h.clocked hr.instant hr.forward

theorem OnTime.onRecord_afterLink (h : OnTime w hCut s g) (hr : Regular w g p) :
    onRecord w.epoch (afterLink w s p) = onRecord w.epoch s := by
  unfold onRecord afterLink
  rw [(h.link hr).buffer]

/-- The packet of a TX tick and its stamp. -/
theorem OnTime.live (h : OnTime w hCut s g) (hfresh : w.Fresh) (hr : Regular w g p)
    (hdue : p.txDue = true) : ∃ d, p.live = some d ∧ time w.epoch d = w.stamp g.ticks := by
  obtain ⟨d, hlive, hstamp⟩ := Option.map_eq_some_iff.mp (hr.stamped hdue)
  obtain ⟨hle, hlt⟩ := hfresh g.ticks
  have hnow := hr.tick hdue
  have hturn := hr.turn
  have hstart := h.start_le.trans hr.forward
  have hepoch : w.epoch ≤ w.stamp g.ticks := by
    unfold Timing.epoch
    omega
  exact ⟨d, hlive, time_eq hepoch (by omega) hstamp⟩

/-- A pass is in order if its TX tick leaves the records so. -/
theorem OnTime.step (h : OnTime w hCut s g) (hr : Regular w g p)
    (hdue : p.txDue = true → w.Sampled hCut (g.ticks + 1)
      (onRecord w.epoch (transmit w.bootMs w.cutStart w.cutEnd s p))) :
    OnTime w hCut (transmit w.bootMs w.cutStart w.cutEnd s p) (g.step p) := by
  refine ⟨h.clocked.pass hr.instant hr.forward, h.start_le.trans hr.forward, ?_⟩
  show w.Sampled hCut (if p.txDue then g.ticks + 1 else g.ticks) _
  cases hp : p.txDue with
  | false =>
    rw [transmit_idle hp (h.link hr).sends]
    show w.Sampled hCut g.ticks (onRecord w.epoch (afterLink w s p))
    rw [h.onRecord_afterLink hr]
    exact h.sampled
  | true => exact hdue hp

/-- With the link up outside the cut, the packet of a TX tick comes on record. -/
theorem OnTime.step_up (h : OnTime w hCut s g) (hfresh : w.Fresh) (hr : Regular w g p)
    (hready : Ready p) (hup : (linked w.bootMs s.sched p).m_linkDown = false)
    (hrec : p.nowMs.toNat < w.cutStart ∨ w.cutEnd ≤ p.nowMs.toNat) :
    OnTime w hCut (transmit w.bootMs w.cutStart w.cutEnd s p) (g.step p) := by
  refine h.step hr fun hdue => ?_
  obtain ⟨d, hlive, htime⟩ := h.live hfresh hr hdue
  have hL := h.link hr
  have hnow := hr.tick hdue
  refine h.sampled.add ?_ fun x => ?_
  · show w.tick g.ticks < w.cutStart ∨ Recovered w hCut (w.tick g.ticks)
    rw [← hnow]
    exact hrec.imp_right .inl
  · rw [mem_onRecord_up hdue hlive hready hup hL.sends hL.buffer (by omega), htime]

/-- With the link up and nothing to replay, the packet of a TX tick during the cut is lost. -/
theorem OnTime.step_lost (h : OnTime w hCut s g) (hfresh : w.Fresh) (hr : Regular w g p)
    (hready : Ready p) (hup : (linked w.bootMs s.sched p).m_linkDown = false)
    (hempty : s.sched.buffer.content = [])
    (hcut : w.cutStart ≤ p.nowMs.toNat ∧ p.nowMs.toNat < w.cutEnd)
    (hlost : ¬Recovered w hCut p.nowMs.toNat) :
    OnTime w hCut (transmit w.bootMs w.cutStart w.cutEnd s p) (g.step p) := by
  refine h.step hr fun hdue => ?_
  obtain ⟨d, hlive, -⟩ := h.live hfresh hr hdue
  have hL := h.link hr
  obtain ⟨rs, hcontent, hreceived⟩ :=
    transmit_up w.cutStart w.cutEnd hdue hlive hready hup hL.sends
  rw [hL.buffer, hempty] at hcontent
  rw [if_pos hcut, List.append_nil] at hreceived
  have hnow := hr.tick hdue
  refine h.sampled.skip ?_ (.inl (hnow ▸ hlost)) fun x => ?_
  · show ¬w.tick g.ticks < w.cutStart
    omega
  · unfold onRecord
    rw [hreceived, hempty, (List.append_eq_nil_iff.mp hcontent.symm).2]

/-- An empty buffer stays empty while the link is up. -/
theorem OnTime.content_step_up (h : OnTime w hCut s g) (hfresh : w.Fresh) (hr : Regular w g p)
    (hready : Ready p) (hup : (linked w.bootMs s.sched p).m_linkDown = false)
    (hempty : s.sched.buffer.content = []) :
    (transmit w.bootMs w.cutStart w.cutEnd s p).sched.buffer.content = [] := by
  have hL := h.link hr
  cases hdue : p.txDue with
  | false =>
    rw [transmit_idle hdue hL.sends]
    show (linked w.bootMs s.sched p).buffer.content = []
    rw [hL.buffer, hempty]
  | true =>
    obtain ⟨d, hlive, -⟩ := h.live hfresh hr hdue
    obtain ⟨rs, hcontent, -⟩ := transmit_up w.cutStart w.cutEnd hdue hlive hready hup hL.sends
    rw [hL.buffer, hempty] at hcontent
    exact (List.append_eq_nil_iff.mp hcontent.symm).2

/-! ### Before the cut -/

/-- The stage before the cut: the link is up and nothing is buffered. -/
structure Before (w : Timing) (hCut : ℕ) (s : Uplink) (g : Progress) : Prop where
  onTime : OnTime w hCut s g
  up : s.sched.m_linkDown = false
  empty : s.sched.buffer.content = []

theorem Before.step (h : Before w hCut s g) (hfresh : w.Fresh) (hr : Regular w g p)
    (hready : Ready p) (hearly : p.nowMs.toNat < w.cutStart) :
    Before w hCut (transmit w.bootMs w.cutStart w.cutEnd s p) (g.step p) := by
  have hup : (linked w.bootMs s.sched p).m_linkDown = false :=
    (h.onTime.link hr).linkDown.trans (hr.inTime (.inl hearly))
  exact ⟨h.onTime.step_up hfresh hr hready hup (.inl hearly),
    (pass_linkDown w.bootMs s.sched p).trans hup,
    h.onTime.content_step_up hfresh hr hready hup h.empty⟩

/-! ### Until the next heartbeat -/

/-- The last sample was that of the tick `i`: the samples in the buffer are at least a sampling
period apart. -/
structure LastSample (w : Timing) (hCut : ℕ) (s : Uplink) (i : ℕ) : Prop where
  time_eq : s.sched.m_lastOfflineSampleMs.toNat = w.tick i
  cut_le : w.cutStart ≤ w.tick i
  recovered : Recovered w hCut (w.tick i)
  mem : w.stamp i ∈ onRecord w.epoch s
  spaced : s.sched.buffer.s_count * OFFLINE_SAMPLE_PERIOD_MS.toNat + w.cutStart ≤
    w.tick i + OFFLINE_SAMPLE_PERIOD_MS.toNat

/-- The buffer while the link is down, after `n` ticks. -/
structure Sampling (w : Timing) (hCut : ℕ) (s : Uplink) (n : ℕ) : Prop where
  none : s.sched.m_offlineHasSamples = false → s.sched.buffer.content = []
  last : s.sched.m_offlineHasSamples = true → ∃ i < n, LastSample w hCut s i

/-- The stage in which the last heartbeat is that before the cut. -/
structure Silent (w : Timing) (hCut : ℕ) (s : Uplink) (g : Progress) : Prop where
  onTime : OnTime w hCut s g
  heartbeat : g.heartbeat = hCut
  empty : s.sched.m_linkDown = false → s.sched.buffer.content = []
  sampling : s.sched.m_linkDown = true → Sampling w hCut s g.ticks

theorem Before.silent (h : Before w g.heartbeat s g) : Silent w g.heartbeat s g :=
  ⟨h.onTime, rfl, fun _ => h.empty, by simp [h.up]⟩

/-- The first two steps of a pass keep the samples; a new outage has none yet. -/
theorem Silent.sampling_afterLink (h : Silent w hCut s g) (hr : Regular w g p)
    (hdown : (linked w.bootMs s.sched p).m_linkDown = true) :
    Sampling w hCut (afterLink w s p) g.ticks := by
  have hL := h.onTime.link hr
  have hrecord := h.onTime.onRecord_afterLink hr
  cases hwas : s.sched.m_linkDown with
  | false =>
    have hnew := hL.fresh hdown hwas
    refine ⟨fun _ => ?_, fun hsome => ?_⟩
    · show (linked w.bootMs s.sched p).buffer.content = []
      rw [hL.buffer]
      exact h.empty hwas
    · cases hnew.symm.trans hsome
  | true =>
    obtain ⟨hhas, hlast⟩ := hL.kept hdown hwas
    have hs := h.sampling hwas
    refine ⟨fun hnone => ?_, fun hsome => ?_⟩
    · show (linked w.bootMs s.sched p).buffer.content = []
      rw [hL.buffer]
      exact hs.none (hhas.symm.trans hnone)
    · obtain ⟨i, hi, htime, hcut, hrecovered, hmem, hspaced⟩ := hs.last (hhas.symm.trans hsome)
      rw [← hlast] at htime
      rw [← hL.buffer] at hspaced
      rw [← hrecord] at hmem
      exact ⟨i, hi, htime, hcut, hrecovered, hmem, hspaced⟩

/-- While the link is down, the cut ended no longer than the link timeout ago. -/
theorem Regular.lt_of_late (hr : Regular w g p)
    (hlate : late w.bootMs.toNat (heard g.heartbeat p) p.nowMs.toNat = true) :
    p.nowMs.toNat < w.cutEnd + LINK_TIMEOUT_MS.toNat := by
  by_contra hge
  have hin := hr.inTime (.inr (by omega))
  rw [hlate] at hin
  cases hin

/-- The samples of a short cut fit into the buffer. -/
theorem Sampling.not_full {n : ℕ} (h : Sampling w hCut s n)
    (hshort : w.cutEnd ≤ w.cutStart + 60000)
    (hnow : w.tick n < w.cutEnd + LINK_TIMEOUT_MS.toNat) :
    s.sched.buffer.s_count ≠ OB_CAPACITY := by
  have htimeout : LINK_TIMEOUT_MS.toNat = 9000 := rfl
  have hperiod : OFFLINE_SAMPLE_PERIOD_MS.toNat = 1000 := rfl
  have hcapacity : OB_CAPACITY = 75 := rfl
  cases hhas : s.sched.m_offlineHasSamples with
  | false =>
    rw [← length_content, h.none hhas]
    decide
  | true =>
    obtain ⟨i, hi, hlast⟩ := h.last hhas
    have hspaced := hlast.spaced
    have hlt := w.tick_strictMono hi
    rw [hperiod] at hspaced
    omega

/-- A sample that finds room comes on record, and is the last one now. -/
theorem Sampling.take {n : ℕ} {nowMs : UInt64} {d : TelemetryData} {v : UplinkScheduler}
    (h : Sampling w hCut s n) (htook : TookSample nowMs d s.sched v)
    (hnow : nowMs.toNat = w.tick n)
    (hdue : s.sched.m_offlineHasSamples = true →
      OFFLINE_SAMPLE_PERIOD_MS.toNat ≤ (nowMs - s.sched.m_lastOfflineSampleMs).toNat)
    (hroom : s.sched.buffer.s_count ≠ OB_CAPACITY) (hcut : w.cutStart ≤ w.tick n)
    (hrecovered : Recovered w hCut (w.tick n)) (htime : time w.epoch d = w.stamp n) :
    onRecord w.epoch ⟨v, s.received⟩ = onRecord w.epoch s ++ [w.stamp n] ∧
      Sampling w hCut ⟨v, s.received⟩ (n + 1) := by
  have hcontent : v.buffer.content = s.sched.buffer.content ++ [d] := by
    rw [htook.buffer, content_obPush, if_neg hroom]
  have hcount : v.buffer.s_count = s.sched.buffer.s_count + 1 := by
    rw [← length_content, hcontent, List.length_append, length_content]
    rfl
  have hrecord : onRecord w.epoch ⟨v, s.received⟩ = onRecord w.epoch s ++ [w.stamp n] := by
    unfold onRecord
    rw [hcontent, ← List.append_assoc, List.map_append, List.map_singleton, htime]
  have hspaced : s.sched.buffer.s_count * OFFLINE_SAMPLE_PERIOD_MS.toNat + w.cutStart ≤
      w.tick n := by
    cases hhas : s.sched.m_offlineHasSamples with
    | false =>
      rw [← length_content, h.none hhas]
      simpa using hcut
    | true =>
      obtain ⟨i, hi, hlast⟩ := h.last hhas
      have hlt := w.tick_strictMono hi
      have hsince := hdue hhas
      rw [UInt64.toNat_sub_of_le _ _ (UInt64.le_iff_toNat_le.mpr (by rw [hlast.time_eq]; omega)),
        hlast.time_eq, hnow] at hsince
      have := hlast.spaced
      omega
  refine ⟨hrecord, fun hnone => ?_, fun _ => ⟨n, Nat.lt_succ_self n, ?_⟩⟩
  · cases htook.hasSamples.symm.trans hnone
  · refine ⟨htook.lastSample ▸ hnow, hcut, hrecovered, ?_, ?_⟩
    · rw [hrecord]
      exact List.mem_append_right _ (List.mem_singleton_self _)
    · show v.buffer.s_count * _ + _ ≤ _
      rw [hcount, Nat.succ_mul]
      omega

/-- A sample that is not due follows that of the tick before. -/
theorem LastSample.succ_eq {i n : ℕ} {nowMs : UInt64} (h : LastSample w hCut s i) (hi : i < n)
    (hnow : nowMs.toNat = w.tick n)
    (hrecent : ¬OFFLINE_SAMPLE_PERIOD_MS.toNat ≤ (nowMs - s.sched.m_lastOfflineSampleMs).toNat) :
    i + 1 = n := by
  have hlt := w.tick_strictMono hi
  rw [UInt64.toNat_sub_of_le _ _ (UInt64.le_iff_toNat_le.mpr (by rw [h.time_eq]; omega)),
    h.time_eq, hnow] at hrecent
  have hperiod : OFFLINE_SAMPLE_PERIOD_MS.toNat = 1000 := rfl
  have htick : LORA_TX_PERIOD_MS = 500 := rfl
  unfold Timing.tick at hrecent
  rw [hperiod, htick] at hrecent
  omega

/-- **With the link down** a TX tick is on record, or the one before it. -/
theorem Silent.step_down (h : Silent w hCut s g) (hfresh : w.Fresh) (hr : Regular w g p)
    (hshort : w.cutEnd ≤ w.cutStart + 60000) (hcut : w.cutStart ≤ p.nowMs.toNat)
    (hheard : heard g.heartbeat p = hCut)
    (hdown : (linked w.bootMs s.sched p).m_linkDown = true) :
    Silent w hCut (transmit w.bootMs w.cutStart w.cutEnd s p) (g.step p) := by
  have hL := h.onTime.link hr
  have hsampled := h.onTime.sampled
  rw [← h.onTime.onRecord_afterLink hr] at hsampled
  have hsampling := h.sampling_afterLink hr hdown
  have hlate : late w.bootMs.toNat (heard g.heartbeat p) p.nowMs.toNat = true :=
    hL.linkDown.symm.trans hdown
  have hstill : (transmit w.bootMs w.cutStart w.cutEnd s p).sched.m_linkDown = true :=
    (pass_linkDown w.bootMs s.sched p).trans hdown
  suffices hall : (p.txDue = true → w.Sampled hCut (g.ticks + 1)
        (onRecord w.epoch (transmit w.bootMs w.cutStart w.cutEnd s p))) ∧
      Sampling w hCut (transmit w.bootMs w.cutStart w.cutEnd s p)
        (if p.txDue then g.ticks + 1 else g.ticks) by
    refine ⟨h.onTime.step hr hall.1, hheard, fun hup => ?_, fun _ => hall.2⟩
    cases hstill.symm.trans hup
  cases hdue : p.txDue with
  | false =>
    rw [transmit_idle hdue hL.sends]
    exact ⟨by simp, hsampling⟩
  | true =>
    obtain ⟨d, hlive, htime⟩ := h.onTime.live hfresh hr hdue
    have hnow := hr.tick hdue
    have hlt := hr.lt_of_late hlate
    rw [hheard, hnow] at hlate
    rw [hnow] at hcut hlt
    rw [transmit_down hdue hlive hdown hL.sends, hr.instant.sample, if_pos rfl]
    by_cases hsample : (linked w.bootMs s.sched p).m_offlineHasSamples = true →
        (linked w.bootMs s.sched p).m_offlineSamplePeriodMs.toNat ≤
          (p.nowMs - (linked w.bootMs s.sched p).m_lastOfflineSampleMs).toNat
    · have htook := tookSample_of_due ((offlineSample_fst_iff d).mpr hsample)
      rw [hL.clocked.samplePeriod] at hsample
      obtain ⟨hrecord, hsamples⟩ := hsampling.take htook hnow hsample
        (hsampling.not_full hshort hlt) hcut (.inr hlate) htime
      refine ⟨fun _ => hsampled.add (.inr (.inr hlate)) fun x => ?_, hsamples⟩
      show x ∈ onRecord w.epoch ⟨_, (afterLink w s p).received⟩ ↔ _
      rw [hrecord, List.mem_append, List.mem_singleton]
    · rw [offlineSample_of_not_due (mt (offlineSample_fst_iff d).mp hsample)]
      rw [hL.clocked.samplePeriod] at hsample
      obtain ⟨hhas, hrecent⟩ := Classical.not_imp.mp hsample
      obtain ⟨i, hi, hlast⟩ := hsampling.last hhas
      refine ⟨fun _ => hsampled.skip (not_lt.mpr hcut) (.inr ?_) fun x => Iff.rfl,
        hsampling.none, fun _ => ⟨i, Nat.lt_succ_of_lt hi, hlast⟩⟩
      exact ⟨i, hlast.succ_eq hi hnow hrecent, not_lt.mpr hlast.cut_le, hlast.recovered,
        hlast.mem⟩

/-- **With the link up** nothing is buffered, and what is sent during the cut is lost. -/
theorem Silent.step_up (h : Silent w hCut s g) (hfresh : w.Fresh) (hr : Regular w g p)
    (hready : Ready p) (hcut : w.cutStart ≤ p.nowMs.toNat) (hheard : heard g.heartbeat p = hCut)
    (hup : (linked w.bootMs s.sched p).m_linkDown = false) :
    Silent w hCut (transmit w.bootMs w.cutStart w.cutEnd s p) (g.step p) := by
  have hnotLate : late w.bootMs.toNat hCut p.nowMs.toNat = false := by
    rw [← hheard, ← (h.onTime.link hr).linkDown]
    exact hup
  -- a link that had timed out would still be down
  have hempty : s.sched.buffer.content = [] := by
    cases hwas : s.sched.m_linkDown with
    | false => exact h.empty hwas
    | true =>
      have hlate := late_mono hr.forward (h.onTime.clocked.down hwas)
      rw [h.heartbeat, hnotLate] at hlate
      cases hlate
  have hon : OnTime w hCut (transmit w.bootMs w.cutStart w.cutEnd s p) (g.step p) := by
    by_cases hend : w.cutEnd ≤ p.nowMs.toNat
    · exact h.onTime.step_up hfresh hr hready hup (.inr hend)
    · refine h.onTime.step_lost hfresh hr hready hup hempty ⟨hcut, by omega⟩ ?_
      rintro (hback | hlate)
      · exact hend hback
      · cases hnotLate.symm.trans hlate
  have hkept := h.onTime.content_step_up hfresh hr hready hup hempty
  refine ⟨hon, hheard, fun _ => hkept, fun hdown => ?_⟩
  cases (hup.symm.trans (pass_linkDown w.bootMs s.sched p).symm).trans hdown

/-! ### After a heartbeat -/

/-- The stage in which a heartbeat has come since the cut. -/
structure Heard (w : Timing) (hCut : ℕ) (s : Uplink) (g : Progress) : Prop where
  onTime : OnTime w hCut s g
  cutEnd_le : w.cutEnd ≤ g.heartbeat
  heartbeat_pos : 0 < g.heartbeat

/-- From a heartbeat after the cut on, the link is up. -/
theorem OnTime.step_heard (h : OnTime w hCut s g) (hfresh : w.Fresh) (hr : Regular w g p)
    (hready : Ready p) (hend : w.cutEnd ≤ heard g.heartbeat p) (hpos : 0 < heard g.heartbeat p) :
    Heard w hCut (transmit w.bootMs w.cutStart w.cutEnd s p) (g.step p) := by
  have hL := h.link hr
  have hup : (linked w.bootMs s.sched p).m_linkDown = false := by
    rw [hL.linkDown, ← Bool.not_eq_true]
    intro hlate
    have hlt := hr.lt_of_late hlate
    unfold late at hlate
    rw [if_neg (by omega), decide_eq_true_eq] at hlate
    omega
  exact ⟨h.step_up hfresh hr hready hup (.inr (hend.trans hL.clocked.heartbeat_le)), hend, hpos⟩

/-- **A pass after the cut has begun**: the next heartbeat, which cannot come during the cut, ends
the silence. -/
theorem step_since (hfresh : w.Fresh) (hshort : w.cutEnd ≤ w.cutStart + 60000)
    (h : Silent w hCut s g ∨ Heard w hCut s g) (hr : Regular w g p) (hready : Ready p)
    (hcut : w.cutStart ≤ p.nowMs.toNat) :
    Silent w hCut (transmit w.bootMs w.cutStart w.cutEnd s p) (g.step p) ∨
      Heard w hCut (transmit w.bootMs w.cutStart w.cutEnd s p) (g.step p) := by
  have hnew : UKS_HEARTBEAT_BYTE ∈ p.rx.map Prod.fst →
      heard g.heartbeat p = p.nowMs.toNat ∧ w.cutEnd ≤ p.nowMs.toNat := by
    intro hmem
    refine ⟨if_pos hmem, ?_⟩
    by_contra hlt
    exact hr.silent hcut (by omega) hmem
  rcases h with h | h
  · by_cases hsame : heard g.heartbeat p = hCut
    · cases hlink : (linked w.bootMs s.sched p).m_linkDown with
      | false => exact .inl (h.step_up hfresh hr hready hcut hsame hlink)
      | true => exact .inl (h.step_down hfresh hr hshort hcut hsame hlink)
    · by_cases hmem : UKS_HEARTBEAT_BYTE ∈ p.rx.map Prod.fst
      · obtain ⟨hnow, hend⟩ := hnew hmem
        refine .inr (h.onTime.step_heard hfresh hr hready (hnow ▸ hend) ?_)
        -- at time 0 there is no earlier heartbeat, and the new one does not count either
        have hle := h.onTime.clocked.heartbeat_le
        have hforward := hr.forward
        have hheartbeat := h.heartbeat
        omega
      · exact absurd ((if_neg hmem).trans h.heartbeat) hsame
  · refine .inr (h.onTime.step_heard hfresh hr hready ?_ ?_)
    all_goals
      by_cases hmem : UKS_HEARTBEAT_BYTE ∈ p.rx.map Prod.fst
    · rw [(hnew hmem).1]
      exact (hnew hmem).2
    · rw [show heard g.heartbeat p = g.heartbeat from if_neg hmem]
      exact h.cutEnd_le
    · have hle := h.onTime.clocked.heartbeat_le
      have hforward := hr.forward
      have hpos := h.heartbeat_pos
      rw [(hnew hmem).1]
      omega
    · rw [show heard g.heartbeat p = g.heartbeat from if_neg hmem]
      exact h.heartbeat_pos

end step

/-! ### A whole outage -/

/-- The passes before the cut and those since. -/
structure Trace extends Timing where
  /-- The scheduler when the records start. -/
  sched : UplinkScheduler
  before : List Pass
  since : List Pass

namespace Trace

/-- How far the loop has come after the passes `ps`. -/
def progress (o : Trace) (ps : List Pass) : Progress :=
  Machine.exec Progress.step ⟨o.startMs, 0, o.sched.m_lastHeartbeatMs.toNat⟩ ps

/-- The uplink after the passes `ps`. -/
def reached (o : Trace) (ps : List Pass) : Uplink :=
  Machine.exec (transmit o.bootMs o.cutStart o.cutEnd) { sched := o.sched } ps

/-- When the last heartbeat before the cut came. -/
def hCut (o : Trace) : ℕ := (o.progress o.before).heartbeat

/-- The stamps of the packets that the ground station has received in the end. -/
def received (o : Trace) : List ℕ :=
  (o.reached (o.before ++ o.since)).received.map (time o.epoch)

/-- The ground station has a record every 5 s. -/
def Covered (o : Trace) : Prop := NoGap 5000 o.received

instance (o : Trace) : Decidable o.Covered := inferInstanceAs (Decidable (NoGap _ _))

/-- The TX tick `j` is the first since the last one before the cut at which the cut has ended or the
link has timed out. -/
abbrev Hole (o : Trace) (i j : ℕ) : Prop :=
  Timeline.Hole o.Early (fun k => Recovered o.toTiming o.hCut (o.tick k)) i j

end Trace

/-- A cut of at most 60 s that starts with the link up and the buffer empty, followed until it has
ended and the buffer has drained. -/
structure Outage extends Trace where
  fresh : toTiming.Fresh
  clocked : Clocked bootMs sched.m_lastHeartbeatMs.toNat startMs sched
  up : sched.m_linkDown = false
  empty : sched.buffer.content = []
  cutStart_le : cutStart ≤ cutEnd
  cutEnd_le : cutEnd ≤ cutStart + 60000
  early : ∀ p ∈ before, p.nowMs.toNat < cutStart
  onward : ∀ p ∈ since, cutStart ≤ p.nowMs.toNat
  regular : Machine.Along Progress.step (Regular toTiming)
    ⟨startMs, 0, sched.m_lastHeartbeatMs.toNat⟩ (before ++ since)
  ready : ∀ p ∈ before ++ since, Ready p
  /-- There has been a TX tick after the cut. -/
  ended : ∃ k < (toTrace.progress (before ++ since)).ticks, cutEnd ≤ toTiming.tick k
  drained : (toTrace.reached (before ++ since)).sched.buffer.content = []

namespace Outage

/-- Every stage of the outage keeps the records in order. -/
theorem onTime (o : Outage) :
    OnTime o.toTiming o.hCut (o.reached (o.before ++ o.since))
      (o.progress (o.before ++ o.since)) := by
  obtain ⟨hbefore, hsince⟩ := (Machine.along_append _ _ _).mp o.regular
  have hstart : Before o.toTiming o.hCut { sched := o.sched }
      ⟨o.startMs, 0, o.sched.m_lastHeartbeatMs.toNat⟩ := by
    refine ⟨⟨o.clocked, le_rfl, ?_⟩, o.up, o.empty⟩
    show o.Sampled o.hCut 0 (([] ++ o.sched.buffer.content).map _)
    rw [o.empty]
    exact .empty ..
  have hstepBefore : ∀ g s, ∀ p ∈ o.before, Before o.toTiming o.hCut s g →
      Regular o.toTiming g p →
      Before o.toTiming o.hCut (transmit o.bootMs o.cutStart o.cutEnd s p) (g.step p) :=
    fun g s p hp h hr => h.step o.fresh hr (o.ready p (List.mem_append_left _ hp)) (o.early p hp)
  have hcut : Before o.toTiming o.hCut (o.reached o.before) (o.progress o.before) :=
    Machine.exec_simulation_of_along (fun g s => Before o.toTiming o.hCut s g) hstepBefore hstart
      hbefore
  have hstepSince : ∀ g s, ∀ p ∈ o.since,
      Silent o.toTiming o.hCut s g ∨ Heard o.toTiming o.hCut s g → Regular o.toTiming g p →
      Silent o.toTiming o.hCut (transmit o.bootMs o.cutStart o.cutEnd s p) (g.step p) ∨
        Heard o.toTiming o.hCut (transmit o.bootMs o.cutStart o.cutEnd s p) (g.step p) :=
    fun g s p hp h hr =>
      step_since o.fresh o.cutEnd_le h hr (o.ready p (List.mem_append_right _ hp)) (o.onward p hp)
  have hend := Machine.exec_simulation_of_along
    (fun g s => Silent o.toTiming o.hCut s g ∨ Heard o.toTiming o.hCut s g) hstepSince
    (.inl hcut.silent) hsince
  unfold Trace.reached Trace.progress
  rw [Machine.exec_append, Machine.exec_append]
  exact hend.elim Silent.onTime Heard.onTime

/-- **Coverage of an outage**: the ground station has a record every 5 s exactly when the first TX
tick since the last one before the cut at which the cut has ended or the link has timed out carries
a packet stamped at most 5 s later. -/
theorem covered_iff (o : Outage) :
    o.Covered ↔ ∀ i j, o.Hole i j → o.stamp j ≤ o.stamp i + 5000 := by
  have hrecord : onRecord o.epoch (o.reached (o.before ++ o.since)) = o.received := by
    unfold onRecord Trace.received
    rw [o.drained, List.append_nil]
  have hsampled := o.onTime.sampled
  rw [hrecord] at hsampled
  have hshort : ∀ i, o.stamp (i + 2) ≤ o.stamp i + 5000 := by
    intro i
    apply (o.fresh.stamp_add_two_le i).trans
    have htick : LORA_TX_PERIOD_MS = 500 := rfl
    omega
  obtain ⟨k, hk, hend⟩ := o.ended
  have hmono := o.tick_strictMono.monotone
  exact hsampled.noGap_iff o.fresh.strictMono hshort
    (fun i j hij hj => (hmono hij).trans_lt hj) (fun i j hij => recovered_mono (hmono hij))
    ⟨k, hk, not_lt.mpr (o.cutStart_le.trans hend), .inl hend⟩

/-! ### A cut of 6 s -/

/-- A pass at `now` with a TX tick. -/
def tickAt (now : ℕ) (rx : List UInt8) : Pass where
  rx := rx.map fun rxByte => (rxByte, UInt64.ofNat now)
  nowMs := UInt64.ofNat now
  txDue := true
  live := some { TEL_timestampMs := UInt32.ofNat now }
  sampleMs := UInt64.ofNat now
  send := fun _ _ _ => true

/-- A cut of 6 s, of which the link never hears. -/
def briefCut : Outage where
  bootMs := 0
  startMs := 10000
  firstTick := 10000
  cutStart := 10001
  cutEnd := 16000
  stamp := fun i => 10000 + 500 * i
  sched := { LO_sched with m_lastHeartbeatMs := 9000 }
  before := [tickAt 10000 [UKS_HEARTBEAT_BYTE]]
  since := (List.range 11).map (fun i => tickAt (10500 + 500 * i) []) ++
    [tickAt 16000 [UKS_HEARTBEAT_BYTE]]
  fresh := fun i => ⟨le_rfl, Nat.lt_add_of_pos_right (by decide)⟩
  clocked := ⟨rfl, rfl, rfl, rfl, by decide, by decide, by decide⟩
  up := rfl
  empty := rfl
  cutStart_le := by decide
  cutEnd_le := by decide
  early := by decide
  onward := by decide
  regular := by decide
  ready := by
    intro p hp
    simp only [List.mem_append, List.mem_map, List.mem_singleton] at hp
    rcases hp with rfl | ⟨i, -, rfl⟩ | rfl
    all_goals exact fun _ _ _ => rfl
  ended := by decide
  drained := by decide +kernel

theorem not_covered_of_briefCut : ¬briefCut.Covered := by
  decide +kernel

end Outage

end TufanAks.LoraTask
