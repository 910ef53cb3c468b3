import TufanAks.AppMain.Equiv.Components
import TufanAks.LoraTask.Equiv.Drain
import TufanAks.Timeline.Echo

/-!
# The uplink sends what was published

The LoRa task looks at the queue once in a pass of its loop.  What it sends, live or from its
buffer, echoes the records that the CAN task has published (`uplink_echoes_published`).
-/

namespace TufanAks.Firmware

open Machine
open LoraTask (liveSends)
open Timeline (Echoes)
open UplinkScheduler (replayed)

/-! ### What the uplink sends -/

/-- The records that have been published, in order. -/
def publishedRecords (b : BootInput) (as : List Action) : List TelemetryData :=
  observe step published (booted b) as

/-- The queue holds the newest of them. -/
theorem queue_eq_getLast (b : BootInput) (as : List Action) :
    (after b as).TEL_sensorDataQueue = (publishedRecords b as).getLast? := by
  induction as using List.reverseRecOn with
  | nil => rfl
  | append_singleton as a ih =>
    rw [publishedRecords, observe_concat, List.getLast?_append, ← publishedRecords, ← ih]
    rw [show after b (as ++ [a]) = step (after b as) a from exec_concat _ _ _, queue_step]
    cases published (after b as) a <;> simp

/-- What the uplink has sent and what it keeps echoes the records `P`. -/
structure Uploads (P : List TelemetryData) (u : UplinkScheduler) : Prop where
  replays : Echoes P (replayed u ++ u.buffer.content)
  live : Echoes P (liveSends u)

theorem Uploads.append {P : List TelemetryData} {u : UplinkScheduler} (h : Uploads P u)
    (Q : List TelemetryData) : Uploads (P ++ Q) u := ⟨h.replays.append Q, h.live.append Q⟩

/-- A call that touches neither the buffer nor the sends. -/
theorem Uploads.congr {P : List TelemetryData} {u v : UplinkScheduler} (h : Uploads P u)
    (hframe : v.buffer = u.buffer ∧ v.sends = u.sends) : Uploads P v := by
  refine ⟨?_, ?_⟩
  · unfold replayed
    rw [hframe.1, hframe.2]
    exact h.replays
  · unfold liveSends
    rw [hframe.2]
    exact h.live

/-- A sample is the newest record; a full buffer gives up its oldest one for it. -/
theorem Uploads.offlineSample {P : List TelemetryData} {u : UplinkScheduler} (h : Uploads P u)
    (nowMs : UInt64) {d : TelemetryData} (hd : P.getLast? = some d) :
    Uploads P (u.offlineSample nowMs d).2 := by
  obtain ⟨hbuffer, hsends⟩ := UplinkScheduler.offlineSample_frame nowMs d u
  refine ⟨?_, ?_⟩
  · rw [UplinkScheduler.replayed_offlineSample, hbuffer]
    split_ifs with hdue
    · rw [OfflineBuffer.content_obPush, ← List.append_assoc]
      refine Echoes.append_last (h.replays.sublist ?_) hd
      refine (List.Sublist.refl _).append ?_
      split_ifs
      · exact List.tail_sublist _
      · exact List.Sublist.refl _
    · exact h.replays
  · unfold liveSends
    rw [hsends]
    exact h.live

/-- Replays take the records from the buffer, and the live packet is the newest record. -/
theorem Uploads.onTxTickLinkUp {P : List TelemetryData} {u : UplinkScheduler} (h : Uploads P u)
    (live : Option TelemetryData) (send : SendFn)
    (hlive : ∀ d, live = some d → P.getLast? = some d) :
    Uploads P (u.onTxTickLinkUp live.isSome (live.getD {}) send).2 := by
  have hticks := UplinkScheduler.ticks_onTxTickLinkUp live.isSome (live.getD {}) send u
  obtain ⟨rs, hreplayed, hcontent⟩ := hticks.replayed
  refine ⟨?_, ?_⟩
  · rw [hreplayed, List.append_assoc, ← hcontent]
    exact h.replays
  · obtain ⟨rs', v, hreplays, -, hsends⟩ := hticks
    have hnone : rs'.filter (fun s => !s.isReplay) = [] := by
      rw [List.filter_eq_nil_iff]
      intro s hs
      simp [hreplays.isReplay s hs]
    have hv : liveSends v = liveSends u := by
      unfold liveSends
      rw [hreplays.sends, List.filter_append, hnone, List.append_nil]
    have hsent : liveSends (u.onTxTickLinkUp live.isSome (live.getD {}) send).2 =
        liveSends u ++ live.toList := by
      rw [← hv]
      unfold liveSends
      rw [hsends]
      cases live <;> simp
    rw [hsent]
    cases live with
    | none => simpa using h.live
    | some d => exact h.live.append_last (hlive d rfl)

/-- **One pass** of the loop, with the newest record in the queue. -/
theorem Uploads.pass {P : List TelemetryData} {u : UplinkScheduler} (h : Uploads P u)
    (bootMs : UInt64) (p : LoraTask.Pass) (hlive : ∀ d, p.live = some d → P.getLast? = some d) :
    Uploads P (LoraTask.pass bootMs u p) := by
  have hlinked := h.congr (LoraTask.linked_frame bootMs u p).1
  rw [LoraTask.pass_eq]
  generalize LoraTask.linked bootMs u p = v at hlinked ⊢
  split_ifs
  · exact hlinked.onTxTickLinkUp p.live p.send hlive
  · cases hp : p.live with
    | none => exact hlinked
    | some d => exact hlinked.offlineSample p.sampleMs (hlive d hp)
  · exact hlinked

/-- The run up to now. -/
theorem uploads_after (b : BootInput) (as : List Action) :
    Uploads (publishedRecords b as) (after b as).LO_sched := by
  induction as using List.reverseRecOn with
  | nil => exact ⟨.nil _, .nil _⟩
  | append_singleton as a ih =>
    rw [publishedRecords, observe_concat, ← publishedRecords]
    rw [show after b (as ++ [a]) = step (after b as) a from exec_concat _ _ _, uplink_step]
    cases ha : uplinkActs (after b as) a with
    | nil => exact ih.append _
    | cons p rest =>
      -- a pass of the loop, which publishes nothing
      cases a with
      | lora input =>
        cases hpc : (after b as).loraPc with
        | loop LO_bootMs =>
          simp only [uplinkActs, hpc, List.cons.injEq] at ha
          obtain ⟨rfl, rfl⟩ := ha
          refine Uploads.append (ih.pass LO_bootMs _ fun d hd => ?_) _
          rw [← queue_eq_getLast]
          exact hd
        | _ => simp [uplinkActs, hpc] at ha
      | can | vcu | hmi | receive | chip => simp [uplinkActs] at ha

/-- **The uplink sends what was published.**  In every schedule and for all answers of the radio,
the replayed packets followed by those still buffered, and likewise the live packets, echo the
published records: each is one of them, and none is sent after a newer one.  So if the time stamps
of the published records do not fall, neither do those that are sent. -/
theorem uplink_echoes_published (b : BootInput) (as : List Action) :
    Echoes (publishedRecords b as)
        (replayed (after b as).LO_sched ++ (after b as).LO_sched.buffer.content) ∧
      Echoes (publishedRecords b as) (liveSends (after b as).LO_sched) ∧
      ((publishedRecords b as).Pairwise (fun d e => d.TEL_timestampMs ≤ e.TEL_timestampMs) →
        (replayed (after b as).LO_sched ++ (after b as).LO_sched.buffer.content).Pairwise
            (fun d e => d.TEL_timestampMs ≤ e.TEL_timestampMs) ∧
          (liveSends (after b as).LO_sched).Pairwise
            (fun d e => d.TEL_timestampMs ≤ e.TEL_timestampMs)) := by
  have hsteps := uploads_after b as
  refine ⟨hsteps.replays, hsteps.live, fun hP => ⟨?_, ?_⟩⟩
  · exact hsteps.replays.pairwise (fun d => UInt32.le_refl d.TEL_timestampMs) hP
  · exact hsteps.live.pairwise (fun d => UInt32.le_refl d.TEL_timestampMs) hP

end TufanAks.Firmware
