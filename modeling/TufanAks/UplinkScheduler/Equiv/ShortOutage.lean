import TufanAks.Timeline.Thinning
import TufanAks.UplinkScheduler.Equiv.LinkUpReport

/-!
# A short outage loses no sample

During an outage `offlineSample` thins the calls: the samples stored are the ones that
`Timeline.thin` takes of the times of the calls (`storedTimes_eq_thin`), and the transition that
starts the outage makes the first of them due.  An outage shorter than the buffer has periods
therefore never fills the buffer (`lossless_of_short`).
-/

namespace TufanAks.UplinkScheduler

open OfflineBuffer Timeline

/-! ### The calls of `offlineSample` -/

/-- The time of a call of `offlineSample`. -/
def Action.sampleTime : Action → Option ℕ
  | .offlineSample nowMs _ => some nowMs.toNat
  | _ => none

theorem exists_of_sampleTime {a : Action} {t : ℕ} (h : a.sampleTime = some t) :
    ∃ nowMs live, a = .offlineSample nowMs live := by
  cases a with
  | offlineSample nowMs live => exact ⟨nowMs, live, rfl⟩
  | _ => cases h

/-- The times of the calls of `offlineSample`, in order. -/
abbrev sampleTimes (as : List Action) : List ℕ := as.filterMap Action.sampleTime

/-- The time of the sample that a call stores. -/
def storedTime (u : UplinkScheduler) : Action → Option ℕ
  | .offlineSample nowMs live =>
    if (offlineSample nowMs live u).1 then some nowMs.toNat else none
  | _ => none

/-- The times of the samples that the calls `as` on `u` store, in order. -/
abbrev storedTimes (u : UplinkScheduler) (as : List Action) : List ℕ :=
  Machine.observe step storedTime u as

/-- The time of the last sample of the outage. -/
def lastSample (u : UplinkScheduler) : Option ℕ :=
  if u.m_offlineHasSamples then some u.m_lastOfflineSampleMs.toNat else none

/-- The sampling period. -/
def period (u : UplinkScheduler) : ℕ := u.m_offlineSamplePeriodMs.toNat

/-! ### One call -/

/-- A sample is due as `Timeline.Due` says, on a clock that has not gone back. -/
theorem offlineSample_fst_iff {u : UplinkScheduler} {nowMs : UInt64} (live : TelemetryData)
    (hlast : ∀ s ∈ lastSample u, s ≤ nowMs.toNat) :
    (offlineSample nowMs live u).1 = true ↔ Due (period u) (lastSample u) nowMs.toNat := by
  rw [offlineSample_fst]
  unfold offlineShouldSample lastSample at *
  cases hhas : u.m_offlineHasSamples with
  | false => simp
  | true =>
    rw [hhas] at hlast
    have hle : u.m_lastOfflineSampleMs ≤ nowMs := UInt64.le_iff_toNat_le.mpr (hlast _ rfl)
    have hsince : (nowMs - u.m_lastOfflineSampleMs).toNat =
        nowMs.toNat - u.m_lastOfflineSampleMs.toNat := UInt64.toNat_sub_of_le _ _ hle
    have hnat := UInt64.le_iff_toNat_le.mp hle
    rw [Bool.not_true, if_neg (by decide), if_pos rfl, due_some, decide_eq_true_iff, ge_iff_le,
      UInt64.le_iff_toNat_le, hsince]
    show u.m_offlineSamplePeriodMs.toNat ≤ _ ↔ _ + u.m_offlineSamplePeriodMs.toNat ≤ _
    omega

/-- The period is part of the configuration. -/
theorem period_step (u : UplinkScheduler) (a : Action) : period (step u a) = period u :=
  congrArg (fun w => w.m_offlineSamplePeriodMs.toNat) (configuration_step u a)

theorem period_exec (u : UplinkScheduler) (as : List Action) :
    period (Machine.exec step u as) = period u :=
  Machine.exec_frame step period (fun v a _ => period_step v a) u

/-- The other calls of an outage store no sample and leave the sampling clock alone. -/
theorem sampling_of_none {u : UplinkScheduler} {a : Action} (hsteady : Steady u a)
    (ha : a.sampleTime = none) :
    storedTime u a = none ∧ lastSample (step u a) = lastSample u := by
  cases a with
  | onRxByte rxByte nowMs =>
    refine ⟨rfl, ?_⟩
    simp only [step, onRxByte]
    split_ifs <;> rfl
  | updateLink nowMs bootMs =>
    refine ⟨rfl, ?_⟩
    rw [show step u (.updateLink nowMs bootMs) = u from updateLink_of_steady hsteady]
  | offlineSample nowMs live => cases ha
  | onTxTickLinkUp haveLive live send =>
    refine ⟨rfl, ?_⟩
    obtain ⟨buffer, sends, h⟩ := onTxTickLinkUp_eq haveLive live send u
    rw [show step u (.onTxTickLinkUp haveLive live send) = _ from h]
    rfl

/-- A sample that is due is stored. -/
theorem sampling_of_due {u : UplinkScheduler} {nowMs : UInt64} {live : TelemetryData}
    (h : (offlineSample nowMs live u).1 = true) :
    storedTime u (.offlineSample nowMs live) = some nowMs.toNat ∧
      lastSample (step u (.offlineSample nowMs live)) = some nowMs.toNat := by
  refine ⟨if_pos h, ?_⟩
  rw [step, offlineSample_of_due h]
  rfl

theorem storedTime_of_not_due {u : UplinkScheduler} {nowMs : UInt64} {live : TelemetryData}
    (h : ¬(offlineSample nowMs live u).1 = true) :
    storedTime u (.offlineSample nowMs live) = none := if_neg h

/-! ### An outage -/

/-- **The samples of an outage** are those that `thin` takes, if the times of the calls do not
decrease and are not before the last sample. -/
theorem storedTimes_eq_thin {u : UplinkScheduler} {mid : List Action}
    (hsteady : Machine.Along step Steady u mid) (hmono : (sampleTimes mid).Pairwise (· ≤ ·))
    (hlast : ∀ s ∈ lastSample u, ∀ t ∈ sampleTimes mid, s ≤ t) :
    storedTimes u mid = thin (period u) (lastSample u) (sampleTimes mid) := by
  induction mid generalizing u with
  | nil => rfl
  | cons a mid ih =>
    obtain ⟨ha, hsteady⟩ := hsteady
    rw [storedTimes, Machine.observe_cons]
    cases htime : a.sampleTime with
    | none =>
      obtain ⟨hstored, hsame⟩ := sampling_of_none ha htime
      rw [sampleTimes, List.filterMap_cons_none htime] at hmono hlast ⊢
      rw [hstored, Option.toList_none, List.nil_append, ← period_step u a, ← hsame]
      exact ih hsteady hmono (by rwa [hsame])
    | some t =>
      obtain ⟨nowMs, live, rfl⟩ := exists_of_sampleTime htime
      obtain rfl : nowMs.toNat = t := Option.some.inj htime
      rw [sampleTimes, List.filterMap_cons_some htime] at hmono hlast ⊢
      obtain ⟨hfrom, hmono⟩ := List.pairwise_cons.mp hmono
      have hdue := offlineSample_fst_iff live fun s hs => hlast s hs _ List.mem_cons_self
      by_cases hsampled : (offlineSample nowMs live u).1 = true
      · obtain ⟨hstored, hnew⟩ := sampling_of_due hsampled
        have hrest := ih hsteady hmono (by
          rw [hnew]
          rintro s ⟨⟩
          exact hfrom)
        rw [period_step, hnew] at hrest
        rw [hstored, thin_of_due (hdue.mp hsampled)]
        exact congrArg (nowMs.toNat :: ·) hrest
      · rw [storedTime_of_not_due hsampled, thin_of_not_due fun h => hsampled (hdue.mpr h)]
        have hidle : step u (.offlineSample nowMs live) = u := offlineSample_of_not_due hsampled
        rw [hidle] at hsteady ⊢
        exact ih hsteady hmono fun s hs t ht => hlast s hs t (List.mem_cons_of_mem _ ht)

/-- The last sample of an outage was stored by one of its calls. -/
theorem mem_of_lastSample {w : UplinkScheduler} {mid : List Action}
    (hsteady : Machine.Along step Steady w mid) (hstart : lastSample w = none) :
    ∀ s ∈ lastSample (Machine.exec step w mid), s ∈ sampleTimes mid := by
  induction mid using List.reverseRecOn with
  | nil => simp [hstart]
  | append_singleton mid a ih =>
    rw [Machine.along_append] at hsteady
    have hbefore := ih hsteady.1
    rw [Machine.exec_concat, sampleTimes, List.filterMap_append]
    intro s hs
    rw [List.mem_append]
    cases htime : a.sampleTime with
    | none =>
      rw [(sampling_of_none hsteady.2.1 htime).2] at hs
      exact .inl (hbefore s hs)
    | some t =>
      obtain ⟨nowMs, live, rfl⟩ := exists_of_sampleTime htime
      by_cases hsampled : (offlineSample nowMs live (Machine.exec step w mid)).1 = true
      · rw [(sampling_of_due hsampled).2, Option.mem_some_iff] at hs
        exact .inr (by simp [← hs, Action.sampleTime])
      · rw [show step _ (.offlineSample nowMs live) = _ from offlineSample_of_not_due hsampled]
          at hs
        exact .inl (hbefore s hs)

/-- There are as many samples as times. -/
theorem length_storedTimes (u : UplinkScheduler) (as : List Action) :
    (storedTimes u as).length = (samples u as).length := by
  induction as using List.reverseRecOn with
  | nil => rfl
  | append_singleton as a ih =>
    have hone : (storedTime (Machine.exec step u as) a).toList.length =
        (stored (Machine.exec step u as) a).toList.length := by
      cases a with
      | offlineSample nowMs live =>
        simp only [storedTime, stored]
        split_ifs <;> rfl
      | _ => rfl
    rw [storedTimes, samples, Machine.observe_concat, Machine.observe_concat, List.length_append,
      List.length_append, ih, hone]

/-- The promises about the calls `mid` of an outage that begins in `w`, with the sampling period
`periodMs`. -/
structure Lossless (w : UplinkScheduler) (periodMs : ℕ) (mid : List Action) : Prop where
  /-- A sample that is stored finds room in the buffer. -/
  room : ∀ pre nowMs live post, mid = pre ++ .offlineSample nowMs live :: post →
    (stored (Machine.exec step w pre) (.offlineSample nowMs live)).isSome →
      (Machine.exec step w pre).buffer.s_count < OB_CAPACITY
  /-- The first call stores its sample. -/
  first : ∀ pre nowMs live post, mid = pre ++ .offlineSample nowMs live :: post →
    sampleTimes pre = [] →
      stored (Machine.exec step w pre) (.offlineSample nowMs live) = some live
  /-- Consecutive samples are a period apart. -/
  apart : (storedTimes w mid).IsChain fun s t => s + periodMs ≤ t
  /-- After a call, up to one that is a period later, a sample is stored. -/
  between : ∀ pre s x inner t y post,
    mid = pre ++ .offlineSample s x :: (inner ++ .offlineSample t y :: post) →
      s.toNat + periodMs ≤ t.toNat →
        samples (Machine.exec step w (pre ++ [.offlineSample s x]))
          (inner ++ [.offlineSample t y]) ≠ []

/-- A call that comes a period after the last call of `early` finds a sample due, unless one is
stored in between. -/
theorem samples_ne_nil {w : UplinkScheduler} {early inner : List Action} {s t : UInt64}
    {x y : TelemetryData} (hstart : lastSample w = none)
    (hsteady : Machine.Along step Steady w
      ((early ++ [.offlineSample s x]) ++ (inner ++ [.offlineSample t y])))
    (hmono : (sampleTimes ((early ++ [.offlineSample s x]) ++
      (inner ++ [.offlineSample t y]))).Pairwise (· ≤ ·))
    (hfar : s.toNat + period w ≤ t.toNat) :
    samples (Machine.exec step w (early ++ [.offlineSample s x]))
      (inner ++ [.offlineSample t y]) ≠ [] := by
  obtain ⟨hearly, hlater⟩ := (Machine.along_append _ _ _).mp hsteady
  rw [sampleTimes, List.filterMap_append] at hmono
  obtain ⟨hmonoEarly, hmonoLater, hcross⟩ := List.pairwise_append.mp hmono
  have hmem := mem_of_lastSample hearly hstart
  -- the last sample so far is not after `s`
  have hdue : Due (period w) (lastSample (Machine.exec step w (early ++ [.offlineSample s x])))
      t.toNat := by
    intro l hl
    have hle : l ≤ s.toNat := le_getLast_of_pairwise hmonoEarly (hmem l hl) s.toNat (by
      rw [List.filterMap_append]
      exact List.getLast?_concat)
    omega
  have hthin := storedTimes_eq_thin hlater hmonoLater fun l hl u hu => hcross l (hmem l hl) u hu
  have hne : storedTimes (Machine.exec step w (early ++ [.offlineSample s x]))
      (inner ++ [.offlineSample t y]) ≠ [] := by
    rw [hthin, period_exec, sampleTimes, List.filterMap_append]
    exact thin_concat_ne_nil hdue _
  rw [← List.length_pos_iff] at hne ⊢
  rwa [← length_storedTimes]

/-- An outage is lossless that starts with an empty buffer and whose calls span less time than the
buffer has periods. -/
theorem lossless_of_short {w : UplinkScheduler} {mid : List Action}
    (hstart : w.m_offlineHasSamples = false) (hempty : w.buffer.content = [])
    (hsteady : Machine.Along step Steady w mid) (hmono : (sampleTimes mid).Pairwise (· ≤ ·))
    (hspan : ∀ first ∈ (sampleTimes mid).head?, ∀ last ∈ (sampleTimes mid).getLast?,
      last - first < OB_CAPACITY * period w) : Lossless w (period w) mid := by
  have hnone : lastSample w = none := by
    rw [lastSample, hstart]
    rfl
  have hthin : storedTimes w mid = thin (period w) none (sampleTimes mid) := by
    rw [← hnone]
    exact storedTimes_eq_thin hsteady hmono (by simp [hnone])
  refine ⟨?_, ?_, ?_, ?_⟩
  · rintro pre nowMs live post rfl hstored
    have houtage := outage_exec hstart ((Machine.along_append _ _ _).mp hsteady).1
    have hcontent := houtage.content.length_le
    rw [hempty, List.nil_append, length_content] at hcontent
    -- the sample is one more, and there are not more than the buffer can hold
    have htotal := length_thin_le hmono hspan
    obtain ⟨x, hx⟩ := Option.isSome_iff_exists.mp hstored
    rw [← hthin, length_storedTimes, samples, Machine.observe_append, Machine.observe_cons, hx,
      List.length_append, Option.toList_some, List.length_append, List.length_singleton] at htotal
    rw [samples] at hcontent
    omega
  · rintro pre nowMs live post rfl hfirst
    have hlast : lastSample (Machine.exec step w pre) = none := by
      refine Option.eq_none_iff_forall_not_mem.mpr fun s hs => ?_
      have hmem := mem_of_lastSample ((Machine.along_append _ _ _).mp hsteady).1 hnone s hs
      rw [hfirst] at hmem
      exact List.not_mem_nil hmem
    exact if_pos ((offlineSample_fst_iff live (by simp [hlast])).mpr (by simp [hlast]))
  · rw [hthin]
    exact isChain_thin _
  · rintro pre s x inner t y post rfl hfar
    rw [List.append_cons, List.append_cons inner, ← List.append_assoc] at hsteady hmono
    rw [sampleTimes, List.filterMap_append] at hmono
    exact samples_ne_nil hnone ((Machine.along_append _ _ _).mp hsteady).1
      (List.pairwise_append.mp hmono).1 hfar

/-- **A short outage loses no sample**, for every configuration and whatever calls came before the
transition that starts it. -/
theorem lossless_of_becameDown (linkTimeoutMs bootGraceMs offlineSamplePeriodMs : UInt32)
    (replayBurstPerTick : UInt8) (unknownByteWarnIntervalMs : UInt32) (pre : List Action)
    (b : Action) (mid : List Action) :
    let u₀ := configured linkTimeoutMs bootGraceMs offlineSamplePeriodMs replayBurstPerTick
      unknownByteWarnIntervalMs
    let w := Machine.exec step u₀ (pre ++ [b])
    (transition (Machine.exec step u₀ pre) b).becameDown = true → w.buffer.content = [] →
      Machine.Along step Steady w mid → (sampleTimes mid).Pairwise (· ≤ ·) →
        (∀ first ∈ (sampleTimes mid).head?, ∀ last ∈ (sampleTimes mid).getLast?,
          last - first < OB_CAPACITY * offlineSamplePeriodMs.toNat) →
          Lossless w offlineSamplePeriodMs.toNat mid := by
  intro u₀ w hdown hempty hsteady hmono hspan
  have hperiod : period w = offlineSamplePeriodMs.toNat := period_exec u₀ _
  have hfresh : w.m_offlineHasSamples = false := by
    show (Machine.exec step u₀ (pre ++ [b])).m_offlineHasSamples = false
    rw [Machine.exec_concat]
    exact hasSamples_of_becameDown hdown
  rw [← hperiod] at hspan ⊢
  exact lossless_of_short hfresh hempty hsteady hmono hspan

/-- An outage with three calls, the second too early for a sample. -/
theorem lossless_of_three_calls :
    Lossless (Machine.exec step (configured 500 1000 OFFLINE_SAMPLE_PERIOD_MS 3 60000)
        [.updateLink 2000 0]) OFFLINE_SAMPLE_PERIOD_MS.toNat
      [.offlineSample 2000 {}, .offlineSample 2500 {}, .offlineSample 3000 {}] :=
  lossless_of_becameDown 500 1000 OFFLINE_SAMPLE_PERIOD_MS 3 60000 [] (.updateLink 2000 0) _
    (by decide) rfl ⟨⟨rfl, rfl⟩, ⟨rfl, rfl⟩, ⟨rfl, rfl⟩, trivial⟩ (by decide) (by decide)

end TufanAks.UplinkScheduler
