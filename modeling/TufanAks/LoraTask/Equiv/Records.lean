import TufanAks.LoraTask.Equiv.Link
import TufanAks.Word.Ticks

/-!
# What a pass puts on record

A packet is on record when the ground station has received it or the offline buffer holds it.  A
pass without a TX tick changes nothing (`transmit_idle`); with the link up a TX tick moves packets
out of the buffer and adds the live one (`transmit_up`), which is lost during the cut; with the link
down it offers the live packet to the buffer (`transmit_down`).
-/

namespace TufanAks.LoraTask

open UplinkScheduler OfflineBuffer

/-! ### Stamps -/

/-- The time at which a packet was stamped, the counter of 32 bits having been read at `epoch` or
less than a turn later. -/
def time (epoch : ℕ) (d : TelemetryData) : ℕ :=
  epoch + (d.TEL_timestampMs - UInt32.ofNat epoch).toNat

theorem time_eq {epoch t : ℕ} {d : TelemetryData} (hle : epoch ≤ t) (hlt : t < epoch + 2 ^ 32)
    (hd : d.TEL_timestampMs = UInt32.ofNat t) : time epoch d = t := by
  unfold time
  rw [hd, Word.toNat_ofNat_sub_ofNat_of_lt hle (by omega)]
  omega

/-! ### One pass -/

/-- The times of the packets that have been received or are still buffered. -/
def onRecord (epoch : ℕ) (s : Uplink) : List ℕ :=
  (s.received ++ s.sched.buffer.content).map (time epoch)

theorem sent_append (rs rs' : List Send) : sent (rs ++ rs') = sent rs ++ sent rs' := by
  unfold sent
  rw [List.filter_append, List.map_append]

section transmit

variable {bootMs : UInt64} {cutStart cutEnd : ℕ} {s : Uplink} {p : Pass} {d : TelemetryData}

/-- A pass without a TX tick sends nothing. -/
theorem transmit_idle (hdue : p.txDue = false)
    (hsends : (linked bootMs s.sched p).sends = s.sched.sends) :
    transmit bootMs cutStart cutEnd s p = ⟨linked bootMs s.sched p, s.received⟩ := by
  have hpass : pass bootMs s.sched p = linked bootMs s.sched p := by
    rw [pass_eq, hdue]
    rfl
  unfold transmit
  dsimp only
  rw [hpass, hsends, List.drop_length]
  simp [sent]

/-- A TX tick with the link up: replays, then the live packet. -/
theorem transmit_up (cutStart cutEnd : ℕ) (hdue : p.txDue = true) (hlive : p.live = some d)
    (hready : ∀ sends pkt isReplay, p.send sends pkt isReplay = true)
    (hup : (linked bootMs s.sched p).m_linkDown = false)
    (hsends : (linked bootMs s.sched p).sends = s.sched.sends) :
    ∃ rs, (linked bootMs s.sched p).buffer.content =
        sent rs ++ (transmit bootMs cutStart cutEnd s p).sched.buffer.content ∧
      (transmit bootMs cutStart cutEnd s p).received = s.received ++
        if cutStart ≤ p.nowMs.toNat ∧ p.nowMs.toNat < cutEnd then [] else sent rs ++ [d] := by
  have hpass : pass bootMs s.sched p =
      (onTxTickLinkUp true d p.send (linked bootMs s.sched p)).2 := by
    rw [pass_eq, hdue, hlive, hup]
    rfl
  obtain ⟨rs, v, hreplays, hbuffer, hv⟩ :=
    ticks_onTxTickLinkUp true d p.send (linked bootMs s.sched p)
  refine ⟨rs, ?_, ?_⟩
  · show _ = sent rs ++ (pass bootMs s.sched p).buffer.content
    rw [hpass, hbuffer]
    exact hreplays.content
  · show s.received ++ _ = s.received ++ _
    rw [hpass, hv, hreplays.sends, hsends, hready, List.append_assoc, List.drop_left', sent_append]
    rfl
    rfl

/-- A TX tick with the link down: a sample may be taken. -/
theorem transmit_down (hdue : p.txDue = true) (hlive : p.live = some d)
    (hdown : (linked bootMs s.sched p).m_linkDown = true)
    (hsends : (linked bootMs s.sched p).sends = s.sched.sends) :
    transmit bootMs cutStart cutEnd s p =
      ⟨(offlineSample p.sampleMs d (linked bootMs s.sched p)).2, s.received⟩ := by
  have hpass : pass bootMs s.sched p =
      (offlineSample p.sampleMs d (linked bootMs s.sched p)).2 := by
    rw [pass_eq, hdue, hlive, hdown]
    rfl
  unfold transmit
  dsimp only
  rw [hpass, (offlineSample_frame _ _ _).2, hsends, List.drop_length]
  simp [sent]

/-- With the link up outside the cut, the live packet comes on record. -/
theorem mem_onRecord_up {epoch x : ℕ} (hdue : p.txDue = true) (hlive : p.live = some d)
    (hready : ∀ sends pkt isReplay, p.send sends pkt isReplay = true)
    (hup : (linked bootMs s.sched p).m_linkDown = false)
    (hsends : (linked bootMs s.sched p).sends = s.sched.sends)
    (hbuffer : (linked bootMs s.sched p).buffer = s.sched.buffer)
    (hout : ¬(cutStart ≤ p.nowMs.toNat ∧ p.nowMs.toNat < cutEnd)) :
    x ∈ onRecord epoch (transmit bootMs cutStart cutEnd s p) ↔
      x ∈ onRecord epoch s ∨ x = time epoch d := by
  obtain ⟨rs, hcontent, hreceived⟩ :=
    transmit_up cutStart cutEnd hdue hlive hready hup hsends
  rw [if_neg hout] at hreceived
  rw [hbuffer] at hcontent
  unfold onRecord
  rw [hreceived, hcontent]
  simp only [List.map_append, List.mem_append, List.map_singleton, List.mem_singleton]
  tauto

end transmit

end TufanAks.LoraTask
