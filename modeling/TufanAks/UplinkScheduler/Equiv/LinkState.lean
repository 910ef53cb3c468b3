import TufanAks.UplinkScheduler.Equiv.Conservation

/-!
# The state of the link

By the clock, the link is down exactly when the last heartbeat is too old, or when there has been
none for too long after the start (`isLinkDown_iff`).  The transitions that `updateLink` reports
alternate, and the link comes up with a heartbeat only; other bytes do not matter
(`linkExact_of_timed`).
-/

namespace TufanAks.UplinkScheduler

/-! ### The calls and the clock -/

/-- The reading of the clock that a call is given. -/
def Action.time : Action → Option UInt64
  | .onRxByte _ nowMs => some nowMs
  | .updateLink nowMs _ => some nowMs
  | _ => none

/-- The time of a heartbeat. -/
def Action.heartbeat : Action → Option UInt64
  | .onRxByte rxByte nowMs => if rxByte = UKS_HEARTBEAT_BYTE then some nowMs else none
  | _ => none

/-- The readings of the clock, in order. -/
abbrev times (as : List Action) : List UInt64 := as.filterMap Action.time

/-- The time of the last heartbeat among the calls. -/
def lastHeartbeat (as : List Action) : Option UInt64 := (as.filterMap Action.heartbeat).getLast?

/-- The clock does not go back, the task started before its first reading, and the heartbeats come
after the epoch. -/
structure Timed (bootMs : UInt64) (as : List Action) : Prop where
  mono : (times as).Pairwise (· ≤ ·)
  boot_le : ∀ t ∈ times as, bootMs ≤ t
  boot_eq : ∀ a ∈ as, ∀ nowMs b, a = .updateLink nowMs b → b = bootMs
  heartbeat_pos : ∀ t ∈ as.filterMap Action.heartbeat, 0 < t

theorem Timed.prefix {bootMs : UInt64} {as bs : List Action} (h : Timed bootMs (as ++ bs)) :
    Timed bootMs as where
  mono := by
    have hmono := h.mono
    rw [times, List.filterMap_append] at hmono
    exact (List.pairwise_append.mp hmono).1
  boot_le t ht :=
    h.boot_le t (by rw [times, List.filterMap_append]; exact List.mem_append_left _ ht)
  boot_eq a ha := h.boot_eq a (List.mem_append_left _ ha)
  heartbeat_pos t ht :=
    h.heartbeat_pos t (by rw [List.filterMap_append]; exact List.mem_append_left _ ht)

theorem Timed.of_prefix {bootMs : UInt64} {as pre : List Action} (h : Timed bootMs as)
    (hpre : pre <+: as) : Timed bootMs pre := by
  obtain ⟨bs, rfl⟩ := hpre
  exact h.prefix

/-- The last call is not earlier than any before. -/
theorem Timed.le_last {bootMs : UInt64} {as : List Action} {a : Action} {nowMs : UInt64}
    (h : Timed bootMs (as ++ [a])) (ha : a.time = some nowMs) {t : UInt64} (ht : t ∈ times as) :
    t ≤ nowMs := by
  have hmono := h.mono
  rw [times, List.filterMap_append] at hmono
  exact (List.pairwise_append.mp hmono).2.2 t ht nowMs (by simp [ha])

theorem lastHeartbeat_concat (as : List Action) (a : Action) :
    lastHeartbeat (as ++ [a]) = a.heartbeat.or (lastHeartbeat as) := by
  unfold lastHeartbeat
  rw [List.filterMap_append]
  cases ha : a.heartbeat <;> simp [ha]

theorem mem_heartbeats_of_last {as : List Action} {t : UInt64} (h : lastHeartbeat as = some t) :
    t ∈ as.filterMap Action.heartbeat := List.mem_of_getLast? h

/-- A heartbeat is noted at its time. -/
theorem time_of_heartbeat {a : Action} {t : UInt64} (h : a.heartbeat = some t) :
    a.time = some t := by
  cases a with
  | onRxByte rxByte nowMs =>
    rw [Action.heartbeat] at h
    split_ifs at h
    exact h
  | _ => cases h

theorem mem_times_of_last {as : List Action} {t : UInt64} (h : lastHeartbeat as = some t) :
    t ∈ times as := by
  obtain ⟨a, ha, hat⟩ := List.mem_filterMap.mp (mem_heartbeats_of_last h)
  exact List.mem_filterMap.mpr ⟨a, ha, time_of_heartbeat hat⟩

/-! ### The timeout -/

/-- The check of the source, on readings of a clock that does not go back. -/
theorem linkCheckTimeoutWithBootGrace_iff {now last bootMs : UInt64} {timeoutMs graceMs : UInt32}
    (hlast : last ≤ now) (hboot : bootMs ≤ now) :
    linkCheckTimeoutWithBootGrace now last timeoutMs bootMs graceMs = true ↔
      if last = 0 then graceMs.toNat < now.toNat - bootMs.toNat
      else timeoutMs.toNat < now.toNat - last.toNat := by
  have hsince : (now - last).toNat = now.toNat - last.toNat := UInt64.toNat_sub_of_le _ _ hlast
  have hup : (now - bootMs).toNat = now.toNat - bootMs.toNat := UInt64.toNat_sub_of_le _ _ hboot
  unfold linkCheckTimeoutWithBootGrace linkCheckTimeout
  by_cases h : last = 0
  · rw [if_pos h, if_pos h, decide_eq_true_iff, gt_iff_lt, UInt64.lt_iff_toNat_lt, hup]
    rfl
  · rw [if_neg h, if_neg h, if_neg h, decide_eq_true_iff, gt_iff_lt, UInt64.lt_iff_toNat_lt, hsince]
    rfl

/-- With the configuration of `u`, the link has timed out at `nowMs`: there has been no heartbeat
for the grace period after the start, or none since the last for the timeout. -/
def TimedOut (u : UplinkScheduler) (bootMs : UInt64) (last : Option UInt64) (nowMs : UInt64) :
    Prop :=
  (last = none ∧ u.m_bootGraceMs.toNat < nowMs.toNat - bootMs.toNat) ∨
    ∃ t, last = some t ∧ u.m_linkTimeoutMs.toNat < nowMs.toNat - t.toNat

/-- Without a further heartbeat the link stays timed out. -/
theorem TimedOut.mono {u : UplinkScheduler} {bootMs s t : UInt64} {last : Option UInt64}
    (h : TimedOut u bootMs last s) (hst : s ≤ t) : TimedOut u bootMs last t := by
  have hle : s.toNat ≤ t.toNat := UInt64.le_iff_toNat_le.mp hst
  rcases h with ⟨hnone, hgrace⟩ | ⟨r, hsome, htimeout⟩
  · exact .inl ⟨hnone, by omega⟩
  · exact .inr ⟨r, hsome, by omega⟩

/-! ### One call -/

/-- The members that only the constructor and the link functions set. -/
structure LinkMembers where
  linkTimeoutMs : UInt32
  bootGraceMs : UInt32
  linkDown : Bool
  lastHeartbeatMs : UInt64

def linkMembers (u : UplinkScheduler) : LinkMembers where
  linkTimeoutMs := u.m_linkTimeoutMs
  bootGraceMs := u.m_bootGraceMs
  linkDown := u.m_linkDown
  lastHeartbeatMs := u.m_lastHeartbeatMs

theorem linkMembers_onRxByte (rxByte : UInt8) (nowMs : UInt64) (u : UplinkScheduler) :
    linkMembers (onRxByte rxByte nowMs u).2 =
      { linkMembers u with
        lastHeartbeatMs :=
          ((Action.onRxByte rxByte nowMs).heartbeat).getD u.m_lastHeartbeatMs } := by
  unfold onRxByte loraClassifyRxByte
  rw [Action.heartbeat]
  by_cases hbyte : rxByte = UKS_HEARTBEAT_BYTE
  · rw [if_pos hbyte, if_pos rfl, if_pos hbyte]
    rfl
  · rw [if_neg hbyte, if_neg (by decide), if_neg hbyte]
    rfl

theorem linkMembers_offlineSample (nowMs : UInt64) (live : TelemetryData) (u : UplinkScheduler) :
    linkMembers (offlineSample nowMs live u).2 = linkMembers u := by
  by_cases hdue : (offlineSample nowMs live u).1 = true
  · rw [offlineSample_of_due hdue]
    rfl
  · rw [offlineSample_of_not_due hdue]

theorem linkMembers_onTxTickLinkUp (haveLive : Bool) (live : TelemetryData) (send : SendFn)
    (u : UplinkScheduler) :
    linkMembers (onTxTickLinkUp haveLive live send u).2 = linkMembers u := by
  obtain ⟨buffer, sends, h⟩ := onTxTickLinkUp_eq haveLive live send u
  rw [h]
  rfl

/-- The check that `updateLink` makes. -/
def timeout (nowMs bootMs : UInt64) (u : UplinkScheduler) : Bool :=
  linkCheckTimeoutWithBootGrace nowMs u.m_lastHeartbeatMs u.m_linkTimeoutMs bootMs u.m_bootGraceMs

/-- What an update of the link can do. -/
inductive Updated (nowMs bootMs : UInt64) (u : UplinkScheduler) :
    LinkTransition × UplinkScheduler → Prop
  | down (hlate : timeout nowMs bootMs u = true) (hup : u.m_linkDown = false) :
      Updated nowMs bootMs u
        ({ changed := true, becameDown := true, linkDown := true },
          { u with m_linkDown := true, m_lastOfflineSampleMs := 0, m_offlineHasSamples := false })
  | up (htime : timeout nowMs bootMs u = false) (hdown : u.m_linkDown = true)
      (hheard : u.m_lastHeartbeatMs ≠ 0) :
      Updated nowMs bootMs u
        ({ changed := true, becameUp := true, linkDown := false
           hadSamples := u.m_offlineHasSamples
           bufferedCount := u.buffer.s_count
           firstTs := u.m_offlineFirstTs
           lastTs := u.m_offlineLastTs },
          { u with m_linkDown := false })
  | same (hlate : timeout nowMs bootMs u = true → u.m_linkDown = true)
      (hdown : u.m_linkDown = true → timeout nowMs bootMs u = true ∨ u.m_lastHeartbeatMs = 0) :
      Updated nowMs bootMs u ({ linkDown := u.m_linkDown }, u)

theorem updated (nowMs bootMs : UInt64) (u : UplinkScheduler) :
    Updated nowMs bootMs u (updateLink nowMs bootMs u) := by
  unfold updateLink
  dsimp only
  split_ifs with hdown hup
  · simp only [Bool.and_eq_true_iff, Bool.not_eq_true'] at hdown
    exact .down hdown.1 hdown.2
  · simp only [Bool.and_eq_true_iff, Bool.not_eq_true', bne_iff_ne] at hup
    exact .up hup.1.1 hup.1.2 hup.2
  · refine .same ?_ ?_
    · intro hlate
      rw [show linkCheckTimeoutWithBootGrace _ _ _ _ _ = true from hlate] at hdown
      simpa using hdown
    · intro hstill
      rw [hstill] at hup
      by_contra hnot
      rw [not_or, Bool.not_eq_true] at hnot
      rw [show linkCheckTimeoutWithBootGrace _ _ _ _ _ = false from hnot.1] at hup
      exact hup (by simpa using hnot.2)

/-- The link goes down when it has timed out, and comes up when it has not and there is a
heartbeat. -/
theorem linkMembers_updateLink (nowMs bootMs : UInt64) (u : UplinkScheduler) :
    linkMembers (updateLink nowMs bootMs u).2 =
      { linkMembers u with
        linkDown := timeout nowMs bootMs u || u.m_linkDown && u.m_lastHeartbeatMs == 0 } := by
  have h := updated nowMs bootMs u
  generalize updateLink nowMs bootMs u = result at h ⊢
  cases h with
  | down hlate hup => simp [linkMembers, hlate]
  | up htime hdown hheard => simp [linkMembers, htime, hheard]
  | same hlate hdown =>
    have hkeep : u.m_linkDown =
        (timeout nowMs bootMs u || u.m_linkDown && u.m_lastHeartbeatMs == 0) := by
      rw [Bool.eq_iff_iff, Bool.or_eq_true_iff, Bool.and_eq_true_iff, beq_iff_eq]
      constructor
      · exact fun h => (hdown h).imp_right fun hzero => ⟨h, hzero⟩
      · rintro (htimeout | ⟨h, -⟩)
        · exact hlate htimeout
        · exact h
    rw [← hkeep]
    rfl

/-- The scheduler as it was constructed. -/
def configuration (u : UplinkScheduler) : UplinkScheduler :=
  configured u.m_linkTimeoutMs u.m_bootGraceMs u.m_offlineSamplePeriodMs u.m_replayBurstPerTick
    u.m_unknownByteWarnIntervalMs

/-- No call changes the configuration. -/
theorem configuration_step (u : UplinkScheduler) (a : Action) :
    configuration (step u a) = configuration u := by
  cases a with
  | onRxByte rxByte nowMs =>
    simp only [step, onRxByte]
    split_ifs <;> rfl
  | updateLink nowMs bootMs =>
    simp only [step]
    have h := updated nowMs bootMs u
    generalize updateLink nowMs bootMs u = result at h ⊢
    cases h <;> rfl
  | offlineSample nowMs live =>
    simp only [step]
    by_cases hdue : (offlineSample nowMs live u).1 = true
    · rw [offlineSample_of_due hdue]
      rfl
    · rw [offlineSample_of_not_due hdue]
  | onTxTickLinkUp haveLive live send =>
    obtain ⟨buffer, sends, h⟩ := onTxTickLinkUp_eq haveLive live send u
    rw [show step u (.onTxTickLinkUp haveLive live send) = _ from h]
    rfl

/-! ### The state of the link in a run -/

/-- After the calls `as` on `u₀`: the last heartbeat is noted, and a link that is down without a
heartbeat has been timed out at some reading of the clock. -/
structure LinkKnown (u₀ : UplinkScheduler) (bootMs : UInt64) (as : List Action)
    (u : UplinkScheduler) : Prop where
  linkTimeout : u.m_linkTimeoutMs = u₀.m_linkTimeoutMs
  bootGrace : u.m_bootGraceMs = u₀.m_bootGraceMs
  heartbeat : u.m_lastHeartbeatMs = (lastHeartbeat as).getD 0
  down : u.m_linkDown = true → lastHeartbeat as = none →
    ∃ t ∈ times as, u₀.m_bootGraceMs.toNat < t.toNat - bootMs.toNat

/-- The check of a call at the end of a run. -/
theorem LinkKnown.timeout_iff {u₀ u : UplinkScheduler} {bootMs nowMs : UInt64} {as : List Action}
    (h : LinkKnown u₀ bootMs as u) (htimed : Timed bootMs (as ++ [.updateLink nowMs bootMs])) :
    timeout nowMs bootMs u = true ↔ TimedOut u₀ bootMs (lastHeartbeat as) nowMs := by
  have hboot : bootMs ≤ nowMs := htimed.boot_le nowMs (by simp [times, Action.time])
  unfold timeout TimedOut
  rw [h.linkTimeout, h.bootGrace, h.heartbeat]
  cases hlast : lastHeartbeat as with
  | none =>
    rw [Option.getD_none, linkCheckTimeoutWithBootGrace_iff UInt64.zero_le hboot, if_pos rfl]
    simp
  | some t =>
    have hpos : 0 < t := htimed.prefix.heartbeat_pos t (mem_heartbeats_of_last hlast)
    have hle : t ≤ nowMs := htimed.le_last rfl (mem_times_of_last hlast)
    have hne : t ≠ 0 := by
      rintro rfl
      exact absurd hpos (by decide)
    rw [Option.getD_some, linkCheckTimeoutWithBootGrace_iff hle hboot, if_neg hne]
    simp

/-- **One call** keeps what is known of the link. -/
theorem LinkKnown.step {u₀ u : UplinkScheduler} {bootMs : UInt64} {as : List Action}
    (h : LinkKnown u₀ bootMs as u) {a : Action} (htimed : Timed bootMs (as ++ [a])) :
    LinkKnown u₀ bootMs (as ++ [a]) (step u a) := by
  have htimes : times (as ++ [a]) = times as ++ a.time.toList := by
    rw [times, List.filterMap_append]
    cases ha : a.time <;> simp [ha]
  -- a call that only notes its heartbeat, if it is one
  have hnote : linkMembers (UplinkScheduler.step u a) =
      { linkMembers u with lastHeartbeatMs := a.heartbeat.getD u.m_lastHeartbeatMs } →
      LinkKnown u₀ bootMs (as ++ [a]) (UplinkScheduler.step u a) := by
    intro hmembers
    refine ⟨?_, ?_, ?_, ?_⟩
    · exact (congrArg LinkMembers.linkTimeoutMs hmembers).trans h.linkTimeout
    · exact (congrArg LinkMembers.bootGraceMs hmembers).trans h.bootGrace
    · refine (congrArg LinkMembers.lastHeartbeatMs hmembers).trans ?_
      rw [lastHeartbeat_concat, h.heartbeat]
      cases a.heartbeat <;> rfl
    · intro hdown hnone
      rw [lastHeartbeat_concat, Option.or_eq_none_iff] at hnone
      have hbefore : u.m_linkDown = true :=
        (congrArg LinkMembers.linkDown hmembers).symm.trans hdown
      obtain ⟨t, ht, hgrace⟩ := h.down hbefore hnone.2
      exact ⟨t, by rw [htimes]; exact List.mem_append_left _ ht, hgrace⟩
  cases a with
  | onRxByte rxByte nowMs => exact hnote (linkMembers_onRxByte rxByte nowMs u)
  | offlineSample nowMs live => exact hnote (linkMembers_offlineSample nowMs live u)
  | onTxTickLinkUp haveLive live send =>
    exact hnote (linkMembers_onTxTickLinkUp haveLive live send u)
  | updateLink nowMs b =>
    obtain rfl : b = bootMs := htimed.boot_eq _ (by simp) nowMs b rfl
    have hmembers := linkMembers_updateLink nowMs b u
    have hlast : lastHeartbeat (as ++ [.updateLink nowMs b]) = lastHeartbeat as :=
      lastHeartbeat_concat as _
    refine ⟨?_, ?_, ?_, ?_⟩
    · exact (congrArg LinkMembers.linkTimeoutMs hmembers).trans h.linkTimeout
    · exact (congrArg LinkMembers.bootGraceMs hmembers).trans h.bootGrace
    · rw [hlast]
      exact (congrArg LinkMembers.lastHeartbeatMs hmembers).trans h.heartbeat
    · rw [hlast, htimes]
      intro hdown hnone
      have hafter : (timeout nowMs b u || u.m_linkDown && u.m_lastHeartbeatMs == 0) = true :=
        (congrArg LinkMembers.linkDown hmembers).symm.trans hdown
      rcases Bool.or_eq_true_iff.mp hafter with htimeout | hstill
      · -- timed out just now
        rw [h.timeout_iff htimed, hnone] at htimeout
        rcases htimeout with ⟨-, hgrace⟩ | ⟨t, hsome, -⟩
        · exact ⟨nowMs, by simp [Action.time], hgrace⟩
        · cases hsome
      · obtain ⟨t, ht, hgrace⟩ := h.down (Bool.and_eq_true_iff.mp hstill).1 hnone
        exact ⟨t, List.mem_append_left _ ht, hgrace⟩

/-- **After an update** the link is down exactly when it has timed out. -/
theorem LinkKnown.linkDown_iff {u₀ u : UplinkScheduler} {bootMs nowMs : UInt64}
    {as : List Action} (h : LinkKnown u₀ bootMs as u)
    (htimed : Timed bootMs (as ++ [.updateLink nowMs bootMs])) :
    (updateLink nowMs bootMs u).2.m_linkDown = true ↔
      TimedOut u₀ bootMs (lastHeartbeat as) nowMs := by
  have hdown : (updateLink nowMs bootMs u).2.m_linkDown = _ :=
    congrArg LinkMembers.linkDown (linkMembers_updateLink nowMs bootMs u)
  rw [hdown, Bool.or_eq_true_iff, h.timeout_iff htimed]
  refine or_iff_left_of_imp fun hstill => ?_
  obtain ⟨hbefore, hzero⟩ := Bool.and_eq_true_iff.mp hstill
  -- a link that is down without a heartbeat was timed out before, and the clock has gone on
  have hnone : lastHeartbeat as = none := by
    cases hlast : lastHeartbeat as with
    | none => rfl
    | some t =>
      have hpos : 0 < t := htimed.prefix.heartbeat_pos t (mem_heartbeats_of_last hlast)
      rw [h.heartbeat, hlast, Option.getD_some, beq_iff_eq] at hzero
      rw [hzero] at hpos
      exact absurd hpos (by decide)
  obtain ⟨t, ht, hgrace⟩ := h.down hbefore hnone
  have hle : t ≤ nowMs := htimed.le_last rfl ht
  exact (TimedOut.mono (.inl ⟨hnone, hgrace⟩) hle)

theorem linkKnown_exec {u₀ : UplinkScheduler} (hfresh : u₀.m_linkDown = false)
    (hnever : u₀.m_lastHeartbeatMs = 0) {bootMs : UInt64} {as : List Action}
    (htimed : Timed bootMs as) : LinkKnown u₀ bootMs as (Machine.exec step u₀ as) := by
  induction as using List.reverseRecOn with
  | nil => exact ⟨rfl, rfl, hnever, fun hdown => absurd (hfresh.symm.trans hdown) (by decide)⟩
  | append_singleton as a ih =>
    rw [Machine.exec_concat]
    exact (ih htimed.prefix).step htimed

/-! ### The transitions -/

/-- The transition that a call reports. -/
def transition (u : UplinkScheduler) : Action → LinkTransition
  | .updateLink nowMs bootMs => (updateLink nowMs bootMs u).1
  | _ => {}

/-- The call reports no transition. -/
def Steady (u : UplinkScheduler) (a : Action) : Prop :=
  (transition u a).becameDown = false ∧ (transition u a).becameUp = false

/-- **A transition** is reported when the state of the link changes. -/
theorem transition_spec (u : UplinkScheduler) (a : Action) :
    (transition u a).becameDown = (!u.m_linkDown && (step u a).m_linkDown) ∧
      (transition u a).becameUp = (u.m_linkDown && !(step u a).m_linkDown) := by
  have hsame : (step u a).m_linkDown = u.m_linkDown →
      false = (!u.m_linkDown && (step u a).m_linkDown) ∧
        false = (u.m_linkDown && !(step u a).m_linkDown) := by
    intro h
    rw [h]
    cases u.m_linkDown <;> exact ⟨rfl, rfl⟩
  cases a with
  | onRxByte rxByte nowMs =>
    exact hsame (congrArg LinkMembers.linkDown (linkMembers_onRxByte rxByte nowMs u))
  | offlineSample nowMs live =>
    exact hsame (congrArg LinkMembers.linkDown (linkMembers_offlineSample nowMs live u))
  | onTxTickLinkUp haveLive live send =>
    exact hsame (congrArg LinkMembers.linkDown (linkMembers_onTxTickLinkUp haveLive live send u))
  | updateLink nowMs bootMs =>
    simp only [transition, step]
    have h := updated nowMs bootMs u
    generalize updateLink nowMs bootMs u = result at h ⊢
    cases h with
    | down hlate hup => simp [hup]
    | up htime hdown hheard => simp [hdown]
    | same hlate hdown => simp

theorem becameDown_iff (u : UplinkScheduler) (a : Action) :
    (transition u a).becameDown = true ↔
      u.m_linkDown = false ∧ (step u a).m_linkDown = true := by
  rw [(transition_spec u a).1]
  cases u.m_linkDown <;> cases (step u a).m_linkDown <;> decide

theorem becameUp_iff (u : UplinkScheduler) (a : Action) :
    (transition u a).becameUp = true ↔
      u.m_linkDown = true ∧ (step u a).m_linkDown = false := by
  rw [(transition_spec u a).2]
  cases u.m_linkDown <;> cases (step u a).m_linkDown <;> decide

theorem steady_of_eq {u : UplinkScheduler} {a : Action}
    (h : (step u a).m_linkDown = u.m_linkDown) : Steady u a := by
  unfold Steady
  rw [(transition_spec u a).1, (transition_spec u a).2, h]
  cases u.m_linkDown <;> exact ⟨rfl, rfl⟩

/-- A part of a run in which the link keeps its state is steady. -/
theorem along_steady {down : Bool} {u : UplinkScheduler} {as : List Action}
    (h : Machine.Along step (fun v a => v.m_linkDown = down ∧ (step v a).m_linkDown = down) u as) :
    Machine.Along step Steady u as := by
  rw [Machine.along_iff_forall] at h ⊢
  intro pre a post heq
  obtain ⟨hbefore, hafter⟩ := h pre a post heq
  exact steady_of_eq (hafter.trans hbefore.symm)

/-- Only an update reports a transition. -/
theorem exists_updateLink_of_becameDown {u : UplinkScheduler} {a : Action}
    (h : (transition u a).becameDown = true) : ∃ nowMs bootMs, a = .updateLink nowMs bootMs := by
  cases a with
  | updateLink nowMs bootMs => exact ⟨nowMs, bootMs, rfl⟩
  | _ => cases h

theorem exists_updateLink_of_becameUp {u : UplinkScheduler} {a : Action}
    (h : (transition u a).becameUp = true) : ∃ nowMs bootMs, a = .updateLink nowMs bootMs := by
  cases a with
  | updateLink nowMs bootMs => exact ⟨nowMs, bootMs, rfl⟩
  | _ => cases h

/-! ### Other bytes -/

/-- A received byte that is not the heartbeat. -/
def Action.isOtherByte : Action → Bool
  | .onRxByte rxByte _ => rxByte != UKS_HEARTBEAT_BYTE
  | _ => false

/-- The schedulers differ in what they know about other bytes at most. -/
def SameButBytes (u v : UplinkScheduler) : Prop :=
  ∃ count lastWarn,
    u = { v with m_unknownRxByteCount := count, m_lastUnknownRxByteWarnMs := lastWarn }

theorem sameButBytes_of_isOtherByte {u v : UplinkScheduler} (h : SameButBytes u v) {a : Action}
    (ha : a.isOtherByte = true) : SameButBytes (step u a) v := by
  obtain ⟨count, lastWarn, rfl⟩ := h
  cases a with
  | onRxByte rxByte nowMs =>
    simp only [step]
    unfold onRxByte loraClassifyRxByte
    rw [if_neg (bne_iff_ne.mp ha), if_neg (by decide)]
    exact ⟨_, _, rfl⟩
  | _ => cases ha

theorem replayLoop_with_bytes (send : SendFn) (n : ℕ) (count : UInt32) (lastWarn : UInt64)
    (v : UplinkScheduler) :
    replayLoop send n
        { v with m_unknownRxByteCount := count, m_lastUnknownRxByteWarnMs := lastWarn } =
      ((replayLoop send n v).1,
        { (replayLoop send n v).2 with
          m_unknownRxByteCount := count
          m_lastUnknownRxByteWarnMs := lastWarn }) := by
  induction n generalizing v with
  | zero => rfl
  | succ n ih =>
    unfold replayLoop
    dsimp only
    rcases v.buffer.obPeek with _ | pkt
    · rfl
    dsimp only [callSend]
    rcases send v.sends pkt true with _ | _
    · rfl
    · dsimp only
      have hrest := ih
        { v with sends := v.sends ++ [⟨pkt, true, true⟩], buffer := v.buffer.obDropFront.2 }
      dsimp only at hrest
      rw [hrest]

/-- What is known about other bytes does not matter to a call. -/
theorem SameButBytes.step {u v : UplinkScheduler} (h : SameButBytes u v) (a : Action) :
    SameButBytes (step u a) (step v a) := by
  obtain ⟨count, lastWarn, rfl⟩ := h
  cases a with
  | onRxByte rxByte nowMs =>
    simp only [UplinkScheduler.step]
    unfold onRxByte
    split_ifs
    · exact ⟨count, lastWarn, rfl⟩
    · exact ⟨_, _, rfl⟩
  | updateLink nowMs bootMs =>
    simp only [UplinkScheduler.step]
    unfold updateLink
    dsimp only
    split_ifs <;> exact ⟨count, lastWarn, rfl⟩
  | offlineSample nowMs live =>
    simp only [UplinkScheduler.step]
    unfold offlineSample
    dsimp only
    split_ifs <;> exact ⟨count, lastWarn, rfl⟩
  | onTxTickLinkUp haveLive live send =>
    simp only [UplinkScheduler.step]
    unfold onTxTickLinkUp
    dsimp only
    rw [replayLoop_with_bytes]
    dsimp only [callSend]
    cases haveLive with
    | false => exact ⟨count, lastWarn, rfl⟩
    | true => exact ⟨count, lastWarn, rfl⟩

/-- **Other bytes** change nothing but what is known about them. -/
theorem sameButBytes_filter (u₀ : UplinkScheduler) (as : List Action) :
    SameButBytes (Machine.exec step u₀ as)
      (Machine.exec step u₀ (as.filter fun a => !a.isOtherByte)) := by
  induction as using List.reverseRecOn with
  | nil => exact ⟨u₀.m_unknownRxByteCount, u₀.m_lastUnknownRxByteWarnMs, rfl⟩
  | append_singleton as a ih =>
    rw [Machine.exec_concat, List.filter_append]
    cases ha : a.isOtherByte with
    | true =>
      rw [List.filter_cons_of_neg (by simp [ha]), List.filter_nil, List.append_nil]
      exact sameButBytes_of_isOtherByte ih ha
    | false =>
      rw [List.filter_cons_of_pos (by simp [ha]), List.filter_nil, Machine.exec_concat]
      exact ih.step a

/-! ### Every run -/

/-- The promises about the link in the run `as` from `u₀`. -/
structure LinkExact (u₀ : UplinkScheduler) (bootMs : UInt64) (as : List Action) : Prop where
  /-- After an update the link is down exactly when it has timed out. -/
  isLinkDown_iff : ∀ pre nowMs post, as = pre ++ .updateLink nowMs bootMs :: post →
    (isLinkDown (Machine.exec step u₀ (pre ++ [.updateLink nowMs bootMs])) = true ↔
      TimedOut u₀ bootMs (lastHeartbeat pre) nowMs)
  /-- The link does not go down and come up in one call. -/
  exclusive : ∀ pre a post, as = pre ++ a :: post →
    ¬((transition (Machine.exec step u₀ pre) a).becameDown = true ∧
      (transition (Machine.exec step u₀ pre) a).becameUp = true)
  /-- The link goes down for the first time, or again after it has come up. -/
  becameDown : ∀ pre a post, as = pre ++ a :: post →
    (transition (Machine.exec step u₀ pre) a).becameDown = true →
      Machine.Along step Steady u₀ pre ∨
        ∃ pre₁ b mid, pre = pre₁ ++ b :: mid ∧
          (transition (Machine.exec step u₀ pre₁) b).becameUp = true ∧
          Machine.Along step Steady (Machine.exec step u₀ (pre₁ ++ [b])) mid
  /-- The link comes up after it has gone down, with a heartbeat between. -/
  becameUp : ∀ pre a post, as = pre ++ a :: post →
    (transition (Machine.exec step u₀ pre) a).becameUp = true →
      ∃ pre₁ b mid, pre = pre₁ ++ b :: mid ∧
        (transition (Machine.exec step u₀ pre₁) b).becameDown = true ∧
        Machine.Along step Steady (Machine.exec step u₀ (pre₁ ++ [b])) mid ∧
        ∃ c ∈ mid, ∃ t, c.heartbeat = some t
  /-- Without the other bytes the run differs in what is known about them at most. -/
  otherBytes : ∀ pre, pre <+: as →
    SameButBytes (Machine.exec step u₀ pre)
      (Machine.exec step u₀ (pre.filter fun a => !a.isOtherByte))

/-- Without a heartbeat in `mid` the last one is that of the calls before. -/
theorem lastHeartbeat_of_none {pre mid : List Action} (nowMs bootMs : UInt64)
    (h : ∀ c ∈ mid, ∀ t, c.heartbeat ≠ some t) :
    lastHeartbeat (pre ++ .updateLink nowMs bootMs :: mid) = lastHeartbeat pre := by
  have hmid : mid.filterMap Action.heartbeat = [] :=
    List.filterMap_eq_nil_iff.mpr fun c hc => Option.eq_none_iff_forall_ne_some.mpr (h c hc)
  unfold lastHeartbeat
  rw [List.filterMap_append, List.filterMap_cons_none rfl, hmid, List.append_nil]

theorem becameDown_exec {u₀ : UplinkScheduler} {pre : List Action} {a : Action}
    (h : (transition (Machine.exec step u₀ pre) a).becameDown = true) :
    Machine.Along step Steady u₀ pre ∨
      ∃ pre₁ b mid, pre = pre₁ ++ b :: mid ∧
        (transition (Machine.exec step u₀ pre₁) b).becameUp = true ∧
        Machine.Along step Steady (Machine.exec step u₀ (pre₁ ++ [b])) mid := by
  have hup := ((becameDown_iff _ a).mp h).1
  rcases Machine.exec_last_crossing (fun u : UplinkScheduler => u.m_linkDown = false) hup with
    ⟨-, hsteady⟩ | ⟨pre₁, b, mid, rfl, hout, hin, hsteady⟩
  · exact .inl (along_steady hsteady)
  · refine .inr ⟨pre₁, b, mid, rfl, ?_, ?_⟩
    · exact (becameUp_iff _ b).mpr ⟨Bool.eq_true_of_not_eq_false hout, hin⟩
    · rw [Machine.exec_concat]
      exact along_steady hsteady

theorem becameUp_exec {u₀ : UplinkScheduler} (hfresh : u₀.m_linkDown = false)
    (hnever : u₀.m_lastHeartbeatMs = 0) {bootMs : UInt64} {pre : List Action} {a : Action}
    (htimed : Timed bootMs (pre ++ [a]))
    (h : (transition (Machine.exec step u₀ pre) a).becameUp = true) :
    ∃ pre₁ b mid, pre = pre₁ ++ b :: mid ∧
      (transition (Machine.exec step u₀ pre₁) b).becameDown = true ∧
      Machine.Along step Steady (Machine.exec step u₀ (pre₁ ++ [b])) mid ∧
      ∃ c ∈ mid, ∃ t, c.heartbeat = some t := by
  obtain ⟨hdown, hup⟩ := (becameUp_iff _ a).mp h
  rcases Machine.exec_last_crossing (fun u : UplinkScheduler => u.m_linkDown = true) hdown with
    ⟨hstart, -⟩ | ⟨pre₁, b, mid, rfl, hout, hin, hsteady⟩
  · exact absurd (hfresh.symm.trans hstart) (by decide)
  have hbdown : (transition (Machine.exec step u₀ pre₁) b).becameDown = true :=
    (becameDown_iff _ b).mpr ⟨Bool.eq_false_of_not_eq_true hout, hin⟩
  refine ⟨pre₁, b, mid, rfl, hbdown, ?_, ?_⟩
  · rw [Machine.exec_concat]
    exact along_steady hsteady
  -- without a heartbeat the link would still be timed out
  by_contra hnone
  simp only [not_exists, not_and] at hnone
  obtain ⟨t, b', rfl⟩ := exists_updateLink_of_becameDown hbdown
  obtain ⟨nowMs, a', rfl⟩ := exists_updateLink_of_becameUp h
  obtain rfl : b' = bootMs := htimed.boot_eq _ (by simp) t b' rfl
  obtain rfl : a' = b' := htimed.boot_eq _ (by simp) nowMs a' rfl
  have htimed₁ : Timed a' (pre₁ ++ [.updateLink t a']) :=
    htimed.of_prefix ⟨mid ++ [.updateLink nowMs a'], by simp⟩
  have hlate := ((linkKnown_exec hfresh hnever htimed₁.prefix).linkDown_iff htimed₁).mp hin
  have hle : t ≤ nowMs := htimed.le_last rfl (by simp [times, Action.time])
  have hstill := hlate.mono hle
  rw [← lastHeartbeat_of_none t a' hnone] at hstill
  have hagain := ((linkKnown_exec hfresh hnever htimed.prefix).linkDown_iff htimed).mpr hstill
  exact absurd (hup.symm.trans hagain) (by decide)

/-- **The link state machine**, for every configuration, every sequence of calls and every clock
that does not go back. -/
theorem linkExact_of_timed (linkTimeoutMs bootGraceMs offlineSamplePeriodMs : UInt32)
    (replayBurstPerTick : UInt8) (unknownByteWarnIntervalMs : UInt32) {bootMs : UInt64}
    {as : List Action} (htimed : Timed bootMs as) :
    LinkExact (configured linkTimeoutMs bootGraceMs offlineSamplePeriodMs replayBurstPerTick
      unknownByteWarnIntervalMs) bootMs as := by
  constructor
  · rintro pre nowMs post rfl
    have htimed₁ : Timed bootMs (pre ++ [.updateLink nowMs bootMs]) :=
      htimed.of_prefix ⟨post, by simp⟩
    rw [Machine.exec_concat]
    exact (linkKnown_exec rfl rfl htimed₁.prefix).linkDown_iff htimed₁
  · rintro pre a post - ⟨hdown, hup⟩
    have hbefore := ((becameDown_iff _ a).mp hdown).1
    exact absurd (hbefore.symm.trans ((becameUp_iff _ a).mp hup).1) (by decide)
  · rintro pre a post - hdown
    exact becameDown_exec hdown
  · rintro pre a post rfl hup
    exact becameUp_exec rfl rfl (htimed.of_prefix ⟨post, by simp⟩) hup
  · rintro pre -
    exact sameButBytes_filter _ pre

/-- The link goes down at the end of the grace period and comes up with a heartbeat. -/
theorem linkExact_of_first_heartbeat :
    LinkExact (configured 500 1000 1000 3 60000) 10
      [.updateLink 20 10, .onRxByte 0x00 30, .updateLink 1011 10,
        .onRxByte UKS_HEARTBEAT_BYTE 1020, .updateLink 1030 10] :=
  linkExact_of_timed 500 1000 1000 3 60000
    { mono := by decide
      boot_le := by simp [times, Action.time]
      boot_eq := by simp
      heartbeat_pos := by simp [Action.heartbeat, UKS_HEARTBEAT_BYTE] }

end TufanAks.UplinkScheduler
