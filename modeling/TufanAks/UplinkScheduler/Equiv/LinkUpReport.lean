import TufanAks.UplinkScheduler.Equiv.LinkState

/-!
# What is reported when the link comes up

An outage lasts from the transition that reports the link down to the one that reports it up.  The
second reports the samples of the outage: whether there were any, and the time stamps of the first
and the last (`reportRight_of_becameUp`).  They span the packets about to be replayed if the buffer
was empty before the outage, could hold all its samples and has kept them; packets left over from an
earlier outage are counted, but the range leaves them out (`not_reportMatches_of_leftover`).
-/

namespace TufanAks.UplinkScheduler

open OfflineBuffer

/-! ### The samples of an outage -/

/-- The sample that a call stores. -/
def stored (u : UplinkScheduler) : Action → Option TelemetryData
  | .offlineSample nowMs live => if (offlineSample nowMs live u).1 then some live else none
  | _ => none

/-- The samples that the calls `as` on `u` store, oldest first. -/
abbrev samples (u : UplinkScheduler) (as : List Action) : List TelemetryData :=
  Machine.observe step stored u as

/-- From `w`, at the start of an outage, to `v` the samples `xs` have been stored. -/
structure Outage (w : UplinkScheduler) (xs : List TelemetryData) (v : UplinkScheduler) :
    Prop where
  hasSamples : v.m_offlineHasSamples = true ↔ xs ≠ []
  firstTs : ∀ x ∈ xs.head?, v.m_offlineFirstTs = x.TEL_timestampMs
  lastTs : ∀ x ∈ xs.getLast?, v.m_offlineLastTs = x.TEL_timestampMs
  content : v.buffer.content <:+ w.buffer.content ++ xs
  replayed : replayed w <+: replayed v
  /-- A sample stays in the buffer as long as nothing is replayed. -/
  nonempty : UplinkScheduler.replayed v = UplinkScheduler.replayed w → xs ≠ [] →
    v.buffer.content ≠ []
  /-- Nothing is lost as long as nothing is replayed and the buffer has room. -/
  kept : UplinkScheduler.replayed v = UplinkScheduler.replayed w →
    (w.buffer.content ++ xs).length ≤ OB_CAPACITY → v.buffer.content = w.buffer.content ++ xs

/-- A new outage has no samples yet. -/
theorem Outage.start {w : UplinkScheduler} (h : w.m_offlineHasSamples = false) :
    Outage w [] w where
  hasSamples := by simp [h]
  firstTs := by simp
  lastTs := by simp
  content := by simp
  replayed := List.prefix_rfl
  nonempty _ h := absurd rfl h
  kept _ _ := (List.append_nil _).symm

/-- The members that the report is made of. -/
structure SampleMembers where
  hasSamples : Bool
  firstTs : UInt32
  lastTs : UInt32

def sampleMembers (u : UplinkScheduler) : SampleMembers where
  hasSamples := u.m_offlineHasSamples
  firstTs := u.m_offlineFirstTs
  lastTs := u.m_offlineLastTs

/-- A call that stores nothing and takes `ys` out of the buffer. -/
theorem Outage.take {w v v' : UplinkScheduler} {xs ys : List TelemetryData} (h : Outage w xs v)
    (hmembers : sampleMembers v' = sampleMembers v)
    (hreplayed : UplinkScheduler.replayed v' = UplinkScheduler.replayed v ++ ys)
    (hcontent : v.buffer.content = ys ++ v'.buffer.content) : Outage w xs v' := by
  -- nothing is taken if nothing more is replayed
  have hnone : UplinkScheduler.replayed v' = UplinkScheduler.replayed w →
      UplinkScheduler.replayed v = UplinkScheduler.replayed w ∧
        v'.buffer.content = v.buffer.content := by
    intro heq
    have hlen := h.replayed.length_le
    have hlen' := congrArg List.length (hreplayed.symm.trans heq)
    rw [List.length_append] at hlen'
    obtain rfl : ys = [] := List.length_eq_zero_iff.mp (by omega)
    rw [List.append_nil] at hreplayed
    exact ⟨hreplayed.symm.trans heq, hcontent.symm⟩
  refine ⟨?_, ?_, ?_, ?_, ?_, ?_, ?_⟩
  · rw [← h.hasSamples]
    exact iff_of_eq (congrArg (fun m => m.hasSamples = true) hmembers)
  · exact fun x hx => (congrArg SampleMembers.firstTs hmembers).trans (h.firstTs x hx)
  · exact fun x hx => (congrArg SampleMembers.lastTs hmembers).trans (h.lastTs x hx)
  · exact List.IsSuffix.trans ⟨ys, hcontent.symm⟩ h.content
  · rw [hreplayed]
    exact h.replayed.trans (List.prefix_append _ _)
  · intro heq hne
    rw [(hnone heq).2]
    exact h.nonempty (hnone heq).1 hne
  · intro heq hroom
    rw [(hnone heq).2]
    exact h.kept (hnone heq).1 hroom

/-- A call that touches none of this. -/
theorem Outage.idle {w v v' : UplinkScheduler} {xs : List TelemetryData} (h : Outage w xs v)
    (hmembers : sampleMembers v' = sampleMembers v)
    (hframe : v'.buffer = v.buffer ∧ v'.sends = v.sends) : Outage w xs v' := by
  have hreplayed : UplinkScheduler.replayed v' = UplinkScheduler.replayed v ++ [] := by
    unfold UplinkScheduler.replayed
    rw [hframe.2, List.append_nil]
  refine h.take hmembers hreplayed ?_
  rw [hframe.1, List.nil_append]

/-- A sample that is due is stored at the end of the buffer. -/
theorem Outage.store {w v : UplinkScheduler} {xs : List TelemetryData} (h : Outage w xs v)
    {nowMs : UInt64} {live : TelemetryData} (hdue : (offlineSample nowMs live v).1 = true) :
    Outage w (xs ++ [live]) (offlineSample nowMs live v).2 := by
  have hbuffer := buffer_offlineSample_of_due hdue
  have hreplayed := replayed_offlineSample nowMs live v
  have hmembers : sampleMembers (offlineSample nowMs live v).2 =
      { hasSamples := true
        firstTs := if v.m_offlineHasSamples then v.m_offlineFirstTs else live.TEL_timestampMs
        lastTs := live.TEL_timestampMs } := by
    rw [offlineSample_of_due hdue]
    rfl
  refine ⟨?_, ?_, ?_, ?_, ?_, ?_, ?_⟩
  · rw [show (offlineSample nowMs live v).2.m_offlineHasSamples = true from
      congrArg SampleMembers.hasSamples hmembers]
    simp
  · intro x hx
    refine (congrArg SampleMembers.firstTs hmembers).trans ?_
    show (if v.m_offlineHasSamples then v.m_offlineFirstTs else live.TEL_timestampMs) = _
    cases hxs : xs with
    | nil =>
      have hfirst : v.m_offlineHasSamples ≠ true := fun hhas => h.hasSamples.mp hhas hxs
      rw [hxs] at hx
      rw [if_neg hfirst, Option.mem_some_iff.mp hx]
    | cons y ys =>
      have hlater : v.m_offlineHasSamples = true := h.hasSamples.mpr (by simp [hxs])
      rw [hxs] at hx
      rw [if_pos hlater]
      exact h.firstTs x (by rw [hxs]; exact hx)
  · intro x hx
    rw [List.getLast?_concat] at hx
    rw [← Option.mem_some_iff.mp hx]
    exact congrArg SampleMembers.lastTs hmembers
  · obtain ⟨lost, hlost⟩ := h.content
    rw [hbuffer]
    refine (content_obPush_suffix live v.buffer).trans ⟨lost, ?_⟩
    rw [← List.append_assoc, hlost, List.append_assoc]
  · rw [hreplayed]
    exact h.replayed
  · intro _ _
    rw [hbuffer, content_obPush]
    simp
  · intro heq hroom
    rw [hreplayed] at heq
    rw [← List.append_assoc, List.length_append, List.length_singleton] at hroom
    have hkept := h.kept heq (by omega)
    have hnotFull : v.buffer.s_count ≠ OB_CAPACITY := by
      rw [← length_content, hkept]
      omega
    rw [hbuffer, content_obPush, if_neg hnotFull, hkept, List.append_assoc]

/-- A call without a transition leaves the link as it is. -/
theorem updateLink_of_steady {v : UplinkScheduler} {nowMs bootMs : UInt64}
    (h : Steady v (.updateLink nowMs bootMs)) : (updateLink nowMs bootMs v).2 = v := by
  obtain ⟨hnotDown, hnotUp⟩ := h
  simp only [transition] at hnotDown hnotUp
  have h := updated nowMs bootMs v
  generalize updateLink nowMs bootMs v = result at h hnotDown hnotUp ⊢
  cases h with
  | down hlate hup => cases hnotDown
  | up htime hdown hheard => cases hnotUp
  | same hlate hdown => rfl

/-- **One call** during an outage. -/
theorem Outage.step {w v : UplinkScheduler} {xs : List TelemetryData} (h : Outage w xs v)
    {a : Action} (ha : Steady v a) :
    Outage w (xs ++ (stored v a).toList) (step v a) := by
  cases a with
  | onRxByte rxByte nowMs =>
    rw [show stored v (.onRxByte rxByte nowMs) = none from rfl, Option.toList_none,
      List.append_nil]
    refine h.idle ?_ (onRxByte_frame rxByte nowMs v)
    simp only [UplinkScheduler.step, onRxByte]
    split_ifs <;> rfl
  | updateLink nowMs bootMs =>
    rw [show stored v (.updateLink nowMs bootMs) = none from rfl, Option.toList_none,
      List.append_nil]
    rw [show UplinkScheduler.step v (.updateLink nowMs bootMs) = v from updateLink_of_steady ha]
    exact h
  | offlineSample nowMs live =>
    simp only [stored, UplinkScheduler.step]
    by_cases hdue : (offlineSample nowMs live v).1 = true
    · rw [if_pos hdue]
      exact h.store hdue
    · rw [if_neg hdue, offlineSample_of_not_due hdue, Option.toList_none, List.append_nil]
      exact h
  | onTxTickLinkUp haveLive live send =>
    rw [show stored v (.onTxTickLinkUp haveLive live send) = none from rfl, Option.toList_none,
      List.append_nil]
    obtain ⟨rs, hreplayed, hcontent⟩ := (ticks_onTxTickLinkUp haveLive live send v).replayed
    obtain ⟨buffer, sends, heq⟩ := onTxTickLinkUp_eq haveLive live send v
    refine h.take ?_ hreplayed hcontent
    show sampleMembers (onTxTickLinkUp haveLive live send v).2 = _
    rw [heq]
    rfl

/-- **The outage so far**: from the transition that starts it, as long as there is no other. -/
theorem outage_exec {w : UplinkScheduler} (hstart : w.m_offlineHasSamples = false)
    {mid : List Action} (hsteady : Machine.Along UplinkScheduler.step Steady w mid) :
    Outage w (samples w mid) (Machine.exec UplinkScheduler.step w mid) := by
  induction mid using List.reverseRecOn with
  | nil => exact .start hstart
  | append_singleton mid a ih =>
    rw [Machine.along_append] at hsteady
    rw [samples, Machine.observe_concat, Machine.exec_concat]
    exact (ih hsteady.1).step hsteady.2.1

/-! ### The report -/

/-- What a transition that takes the link up reports. -/
theorem transition_of_becameUp {v : UplinkScheduler} {a : Action}
    (h : (transition v a).becameUp = true) :
    transition v a =
      { changed := true
        becameUp := true
        hadSamples := v.m_offlineHasSamples
        bufferedCount := v.buffer.s_count
        firstTs := v.m_offlineFirstTs
        lastTs := v.m_offlineLastTs } := by
  obtain ⟨nowMs, bootMs, rfl⟩ := exists_updateLink_of_becameUp h
  simp only [transition] at h ⊢
  have hresult := updated nowMs bootMs v
  generalize updateLink nowMs bootMs v = result at h hresult ⊢
  cases hresult with
  | down hlate hup => cases h
  | up htime hdown hheard => rfl
  | same hlate hdown => cases h

/-- A transition that takes the link down starts a new outage. -/
theorem hasSamples_of_becameDown {u : UplinkScheduler} {b : Action}
    (h : (transition u b).becameDown = true) : (step u b).m_offlineHasSamples = false := by
  obtain ⟨nowMs, bootMs, rfl⟩ := exists_updateLink_of_becameDown h
  simp only [transition, step] at h ⊢
  have hresult := updated nowMs bootMs u
  generalize updateLink nowMs bootMs u = result at h hresult ⊢
  cases hresult with
  | down hlate hup => rfl
  | up htime hdown hheard => cases h
  | same hlate hdown => cases h

/-- The report `tr` on an outage from `w` to `v` in which the samples `xs` were stored. -/
structure ReportRight (w : UplinkScheduler) (xs : List TelemetryData) (v : UplinkScheduler)
    (tr : LinkTransition) : Prop where
  bufferedCount : tr.bufferedCount = v.buffer.content.length
  hadSamples : tr.hadSamples = true ↔ xs ≠ []
  firstTs : ∀ x ∈ xs.head?, tr.firstTs = x.TEL_timestampMs
  lastTs : ∀ x ∈ xs.getLast?, tr.lastTs = x.TEL_timestampMs
  /-- The last sample is the newest packet in the buffer. -/
  newest : tr.hadSamples = true → ∀ x ∈ v.buffer.content.getLast?, tr.lastTs = x.TEL_timestampMs
  /-- With samples there are packets, unless some were replayed during the outage. -/
  buffered : replayed v = replayed w → tr.hadSamples = true → 0 < tr.bufferedCount
  /-- And without samples there are none, if the buffer was empty when the outage began. -/
  unbuffered : w.buffer.content = [] → tr.hadSamples = false → tr.bufferedCount = 0
  /-- Then the first sample is the oldest packet, if the buffer could hold all the samples. -/
  oldest : w.buffer.content = [] → replayed v = replayed w → xs.length ≤ OB_CAPACITY →
    ∀ x ∈ v.buffer.content.head?, tr.firstTs = x.TEL_timestampMs

/-- The report on an outage is made of what is known of it. -/
theorem Outage.reportRight {w v : UplinkScheduler} {xs : List TelemetryData} (h : Outage w xs v)
    {a : Action} (hup : (transition v a).becameUp = true) :
    ReportRight w xs v (transition v a) := by
  rw [transition_of_becameUp hup]
  refine ⟨(length_content _).symm, h.hasSamples, h.firstTs, h.lastTs, ?_, ?_, ?_, ?_⟩
  · intro hhad x hx
    refine h.lastTs x ?_
    -- the buffer ends as the samples do
    obtain ⟨lost, hlost⟩ := h.content
    have hne : xs ≠ [] := h.hasSamples.mp hhad
    have hnewest : (w.buffer.content ++ xs).getLast? = some x := by
      rw [← hlost, List.getLast?_append, Option.mem_def.mp hx]
      rfl
    rw [List.getLast?_append_of_ne_nil _ hne] at hnewest
    exact hnewest
  · intro hnone hhad
    show 0 < v.buffer.s_count
    rw [← length_content]
    exact List.length_pos_of_ne_nil (h.nonempty hnone (h.hasSamples.mp hhad))
  · intro hempty hhad
    have hnil : xs = [] := by
      by_contra hne
      rw [h.hasSamples.mpr hne] at hhad
      cases hhad
    have hcontent := h.content
    rw [hempty, hnil, List.append_nil, List.suffix_nil] at hcontent
    show v.buffer.s_count = 0
    rw [← length_content, hcontent, List.length_nil]
  · intro hempty hnone hroom x hx
    have hkept := h.kept hnone
    rw [hempty, List.nil_append] at hkept
    rw [hkept hroom] at hx
    exact h.firstTs x hx

/-- **The report when the link comes up** is right about the outage that ends, for every
configuration, every sequence of calls and all answers of the send callback. -/
theorem reportRight_of_becameUp (linkTimeoutMs bootGraceMs offlineSamplePeriodMs : UInt32)
    (replayBurstPerTick : UInt8) (unknownByteWarnIntervalMs : UInt32) {pre : List Action}
    {a : Action}
    (hup : (transition (Machine.exec step (configured linkTimeoutMs bootGraceMs
      offlineSamplePeriodMs replayBurstPerTick unknownByteWarnIntervalMs) pre) a).becameUp = true) :
    let u₀ := configured linkTimeoutMs bootGraceMs offlineSamplePeriodMs replayBurstPerTick
      unknownByteWarnIntervalMs
    ∃ pre₁ b mid, pre = pre₁ ++ b :: mid ∧
      (transition (Machine.exec step u₀ pre₁) b).becameDown = true ∧
      Machine.Along step Steady (Machine.exec step u₀ (pre₁ ++ [b])) mid ∧
      ReportRight (Machine.exec step u₀ (pre₁ ++ [b]))
        (samples (Machine.exec step u₀ (pre₁ ++ [b])) mid) (Machine.exec step u₀ pre)
        (transition (Machine.exec step u₀ pre) a) := by
  intro u₀
  have hdown := ((becameUp_iff _ a).mp hup).1
  rcases Machine.exec_last_crossing (fun u : UplinkScheduler => u.m_linkDown = true) hdown with
    ⟨hstart, -⟩ | ⟨pre₁, b, mid, rfl, hout, hin, hsteady⟩
  · cases hstart
  have hbdown : (transition (Machine.exec step u₀ pre₁) b).becameDown = true :=
    (becameDown_iff _ b).mpr ⟨Bool.eq_false_of_not_eq_true hout, hin⟩
  have hmid : Machine.Along step Steady (Machine.exec step u₀ (pre₁ ++ [b])) mid := by
    rw [Machine.exec_concat]
    exact along_steady hsteady
  refine ⟨pre₁, b, mid, rfl, hbdown, hmid, ?_⟩
  have hsplit : Machine.exec step u₀ (pre₁ ++ b :: mid) =
      Machine.exec step (Machine.exec step u₀ (pre₁ ++ [b])) mid := by
    rw [← Machine.exec_append, List.append_assoc, List.singleton_append]
  have hfresh : (Machine.exec step u₀ (pre₁ ++ [b])).m_offlineHasSamples = false := by
    rw [Machine.exec_concat]
    exact hasSamples_of_becameDown hbdown
  rw [hsplit] at hup ⊢
  exact (outage_exec hfresh hmid).reportRight hup

/-- An outage with one sample. -/
def oneOutage : List Action :=
  [.updateLink 2000 0, .offlineSample 2000 { TEL_timestampMs := 2000 },
    .onRxByte UKS_HEARTBEAT_BYTE 2100]

theorem reportRight_after_one_outage :
    let u₀ := configured 500 1000 1000 3 60000
    ∃ pre₁ b mid, oneOutage = pre₁ ++ b :: mid ∧
      (transition (Machine.exec step u₀ pre₁) b).becameDown = true ∧
      Machine.Along step Steady (Machine.exec step u₀ (pre₁ ++ [b])) mid ∧
      ReportRight (Machine.exec step u₀ (pre₁ ++ [b]))
        (samples (Machine.exec step u₀ (pre₁ ++ [b])) mid) (Machine.exec step u₀ oneOutage)
        (transition (Machine.exec step u₀ oneOutage) (.updateLink 2110 0)) :=
  reportRight_of_becameUp 500 1000 1000 3 60000 (by decide)

/-! ### Leftovers -/

/-- The report `tr` is one on the packets that `v` is about to replay. -/
structure ReportMatches (v : UplinkScheduler) (tr : LinkTransition) : Prop where
  hadSamples : tr.hadSamples = true ↔ 0 < tr.bufferedCount
  oldest : tr.hadSamples = true → ∀ x ∈ v.buffer.content.head?, tr.firstTs = x.TEL_timestampMs
  newest : tr.hadSamples = true → ∀ x ∈ v.buffer.content.getLast?, tr.lastTs = x.TEL_timestampMs

/-- A second outage with one sample, before the sample of the first is replayed. -/
def twoOutages : List Action :=
  oneOutage ++ [.updateLink 2110 0, .updateLink 3000 0,
    .offlineSample 3000 { TEL_timestampMs := 3000 }, .onRxByte UKS_HEARTBEAT_BYTE 3100]

/-- **Leftovers** of an earlier outage are not in the range that is reported. -/
theorem not_reportMatches_of_leftover :
    ¬∀ pre a,
      (transition (Machine.exec step (configured 500 1000 1000 3 60000) pre) a).becameUp = true →
        ReportMatches (Machine.exec step (configured 500 1000 1000 3 60000) pre)
          (transition (Machine.exec step (configured 500 1000 1000 3 60000) pre) a) := by
  intro h
  have holdest := (h twoOutages (.updateLink 3110 0) (by decide)).oldest (by decide)
    { TEL_timestampMs := 2000 } (by decide)
  exact absurd holdest (by decide)

end TufanAks.UplinkScheduler
