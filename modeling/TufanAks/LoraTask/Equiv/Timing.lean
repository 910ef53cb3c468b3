import Mathlib.Order.Monotone.Basic
import TufanAks.LoraTask.Equiv.Link

/-!
# The timing of an outage

A `Timing` says when the TX ticks come, when their packets are stamped and when the radio is cut;
`Regular` says that a pass of the loop keeps to it.
-/

namespace TufanAks.LoraTask

/-! ### Ticks and stamps -/

/-- The clock and the radio of an outage. -/
structure Timing where
  bootMs : UInt64
  /-- When the records start. -/
  startMs : ℕ
  firstTick : ℕ
  cutStart : ℕ
  cutEnd : ℕ
  /-- When the packet of each TX tick was stamped. -/
  stamp : ℕ → ℕ

namespace Timing

/-- The time of a TX tick. -/
def tick (w : Timing) (i : ℕ) : ℕ := w.firstTick + LORA_TX_PERIOD_MS * i

/-- A time before all stamps. -/
def epoch (w : Timing) : ℕ := w.startMs - LORA_TX_PERIOD_MS

/-- The packets are less than a TX period old. -/
def Fresh (w : Timing) : Prop :=
  ∀ i, w.stamp i ≤ w.tick i ∧ w.tick i < w.stamp i + LORA_TX_PERIOD_MS

/-- The tick comes before the cut. -/
def Early (w : Timing) (i : ℕ) : Prop := w.tick i < w.cutStart

variable {w : Timing}

theorem tick_succ (w : Timing) (i : ℕ) : w.tick (i + 1) = w.tick i + LORA_TX_PERIOD_MS := by
  unfold tick
  rw [Nat.mul_succ, Nat.add_assoc]

theorem tick_strictMono (w : Timing) : StrictMono w.tick := by
  apply strictMono_nat_of_lt_succ
  intro i
  rw [tick_succ]
  exact Nat.lt_add_of_pos_right (by decide)

theorem Fresh.strictMono (h : w.Fresh) : StrictMono w.stamp := by
  apply strictMono_nat_of_lt_succ
  intro i
  have hnext := w.tick_succ i
  have hi := h i
  have hi' := h (i + 1)
  omega

/-- Two ticks take no longer than three TX periods. -/
theorem Fresh.stamp_add_two_le (h : w.Fresh) (i : ℕ) :
    w.stamp (i + 2) ≤ w.stamp i + 3 * LORA_TX_PERIOD_MS := by
  have hnext := w.tick_succ i
  have hnext' : w.tick (i + 2) = _ := w.tick_succ (i + 1)
  have hi := h i
  have hi' := h (i + 2)
  omega

end Timing

/-! ### Regular passes -/

/-- How far the loop has come. -/
structure Progress where
  /-- The time of the last pass. -/
  now : ℕ
  /-- The number of TX ticks so far. -/
  ticks : ℕ
  /-- When the last heartbeat came, 0 for none. -/
  heartbeat : ℕ

def Progress.step (g : Progress) (p : Pass) : Progress where
  now := p.nowMs.toNat
  ticks := if p.txDue then g.ticks + 1 else g.ticks
  heartbeat := heard g.heartbeat p

/-- A pass at which clock and radio are as they should: a TX tick every `LORA_TX_PERIOD_MS`, no
heartbeat during the cut, and heartbeats in time otherwise. -/
structure Regular (w : Timing) (g : Progress) (p : Pass) : Prop where
  instant : p.Instant
  forward : g.now ≤ p.nowMs.toNat
  /-- The stamps do not repeat. -/
  turn : p.nowMs.toNat < w.epoch + 2 ^ 32
  tick : p.txDue = true → p.nowMs.toNat = w.tick g.ticks
  stamped : p.txDue = true →
    p.live.map TelemetryData.TEL_timestampMs = some (UInt32.ofNat (w.stamp g.ticks))
  silent : w.cutStart ≤ p.nowMs.toNat → p.nowMs.toNat < w.cutEnd →
    UKS_HEARTBEAT_BYTE ∉ p.rx.map Prod.fst
  inTime : p.nowMs.toNat < w.cutStart ∨ w.cutEnd + LINK_TIMEOUT_MS.toNat ≤ p.nowMs.toNat →
    late w.bootMs.toNat (heard g.heartbeat p) p.nowMs.toNat = false

instance (p : Pass) : Decidable p.Instant :=
  have := List.decidableBAll (fun rx => rx.2 = p.nowMs) p.rx
  decidable_of_iff ((∀ rx ∈ p.rx, rx.2 = p.nowMs) ∧ p.sampleMs = p.nowMs)
    ⟨fun ⟨h1, h2⟩ => ⟨h1, h2⟩, fun ⟨h1, h2⟩ => ⟨h1, h2⟩⟩

instance (w : Timing) (g : Progress) (p : Pass) : Decidable (Regular w g p) :=
  decidable_of_iff
    (p.Instant ∧ g.now ≤ p.nowMs.toNat ∧ p.nowMs.toNat < w.epoch + 2 ^ 32 ∧
      (p.txDue = true → p.nowMs.toNat = w.tick g.ticks) ∧
      (p.txDue = true →
        p.live.map TelemetryData.TEL_timestampMs = some (UInt32.ofNat (w.stamp g.ticks))) ∧
      (w.cutStart ≤ p.nowMs.toNat → p.nowMs.toNat < w.cutEnd →
        UKS_HEARTBEAT_BYTE ∉ p.rx.map Prod.fst) ∧
      (p.nowMs.toNat < w.cutStart ∨ w.cutEnd + LINK_TIMEOUT_MS.toNat ≤ p.nowMs.toNat →
        late w.bootMs.toNat (heard g.heartbeat p) p.nowMs.toNat = false))
    ⟨fun ⟨h1, h2, h3, h4, h5, h6, h7⟩ => ⟨h1, h2, h3, h4, h5, h6, h7⟩,
      fun ⟨h1, h2, h3, h4, h5, h6, h7⟩ => ⟨h1, h2, h3, h4, h5, h6, h7⟩⟩

/-- The radio module takes every packet. -/
def Ready (p : Pass) : Prop := ∀ sends pkt isReplay, p.send sends pkt isReplay = true

/-- Whether packets come on record at `t` in spite of the cut: it has ended, or the link has timed
out, the last heartbeat before the cut having come at `hCut`. -/
def Recovered (w : Timing) (hCut t : ℕ) : Prop :=
  w.cutEnd ≤ t ∨ late w.bootMs.toNat hCut t = true

theorem recovered_mono {w : Timing} {hCut s t : ℕ} (hst : s ≤ t) (hs : Recovered w hCut s) :
    Recovered w hCut t := by
  rcases hs with hend | hlate
  · exact .inl (hend.trans hst)
  · exact .inr (late_mono hst hlate)

end TufanAks.LoraTask
