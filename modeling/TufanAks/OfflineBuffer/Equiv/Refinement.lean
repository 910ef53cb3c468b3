import TufanAks.Machine.Ghost
import TufanAks.OfflineBuffer.Equiv.Queue
import TufanAks.OfflineBufferSim

/-!
# The offline buffer refines the simulation's deque

The same calls are performed on the circular buffer of the firmware and on the deque of the
simulation, and every answer is the same.  `Represents` ties the two states to each other:
the deque holds the `content` of the buffer.
-/

namespace TufanAks

/-! ### The calls on the deque

The class has no methods for `ob_reset` and `ob_pop`: the one is a new object, the other `peek`
followed by `drop_front`. -/

namespace OfflineBufferSim

open OfflineBuffer (Call Answer)

/-- Perform one call on the deque. -/
def perform (q : OfflineBufferSim TelemetryData) : Call → Answer × OfflineBufferSim TelemetryData
  | .obReset => (.done, init q.capacity q.capacity_pos)
  | .obPush data => (.flag true, q.push data)
  | .obPop => (.packet q.peek, q.dropFront.2)
  | .obPeek => (.packet q.peek, q)
  | .obDropFront => (.flag q.dropFront.1, q.dropFront.2)
  | .obCount => (.count q.count, q)
  | .obIsEmpty => (.flag q.isEmpty, q)

end OfflineBufferSim

namespace OfflineBuffer

/-! ### One call -/

/-- The deque `q` holds what the buffer `b` holds. -/
structure Represents (b : OfflineBuffer) (q : OfflineBufferSim TelemetryData) : Prop where
  items_eq : q.items = b.content
  capacity_eq : q.capacity = OB_CAPACITY

theorem isEmpty_content (b : OfflineBuffer) : b.content.isEmpty = (b.s_count == 0) := by
  rw [← length_content b]
  cases b.content <;> rfl

/-- `ob_pop` is `ob_peek` and `ob_drop_front` in one. -/
theorem obPop_snd (b : OfflineBuffer) : (obPop b).2 = (obDropFront b).2 := by
  unfold obPop obDropFront
  split_ifs <;> rfl

theorem obPop_fst (b : OfflineBuffer) : (obPop b).1 = obPeek b := by
  unfold obPop obPeek
  split_ifs <;> rfl

theorem obPush_fst (data : TelemetryData) (b : OfflineBuffer) : (obPush data b).1 = true := by
  unfold obPush
  split_ifs <;> rfl

theorem obDropFront_fst (b : OfflineBuffer) : (obDropFront b).1 = !b.content.isEmpty := by
  rw [isEmpty_content]
  unfold obDropFront
  split_ifs with h
  · rw [h]
    rfl
  · rw [beq_eq_false_iff_ne.mpr h]
    rfl

namespace Represents

variable {b : OfflineBuffer} {q : OfflineBufferSim TelemetryData}

theorem push (h : Represents b q) (data : TelemetryData) :
    Represents (obPush data b).2 (q.push data) where
  items_eq := by
    rw [OfflineBufferSim.items_push, OfflineBufferSim.pushed, content_obPush, h.items_eq,
      h.capacity_eq, length_content]
  capacity_eq := h.capacity_eq

theorem dropFront (h : Represents b q) : Represents (obDropFront b).2 q.dropFront.2 where
  items_eq := by rw [OfflineBufferSim.items_dropFront, content_obDropFront, h.items_eq]
  capacity_eq := by rw [OfflineBufferSim.capacity_dropFront, h.capacity_eq]

theorem peek_eq (h : Represents b q) : q.peek = obPeek b := by
  rw [obPeek_eq, OfflineBufferSim.peek, h.items_eq]

theorem dropFront_fst (h : Represents b q) : q.dropFront.1 = (obDropFront b).1 := by
  rw [obDropFront_fst, ← h.items_eq, OfflineBufferSim.dropFront]
  split_ifs with hempty
  · rw [hempty]
    rfl
  · rw [Bool.not_eq_true] at hempty
    rw [hempty]
    rfl

/-- **One call** gives the same answer on both sides and leaves the two tied to each other. -/
theorem perform (h : Represents b q) (c : Call) :
    Represents (b.perform c).2 (q.perform c).2 ∧ (b.perform c).1 = (q.perform c).1 := by
  cases c with
  | obReset => exact ⟨⟨rfl, h.capacity_eq⟩, rfl⟩
  | obPush data => exact ⟨h.push data, congrArg Answer.flag (obPush_fst data b)⟩
  | obPop =>
    refine ⟨?_, congrArg Answer.packet ((obPop_fst b).trans h.peek_eq.symm)⟩
    show Represents (obPop b).2 _
    rw [obPop_snd]
    exact h.dropFront
  | obPeek => exact ⟨h, congrArg Answer.packet h.peek_eq.symm⟩
  | obDropFront => exact ⟨h.dropFront, congrArg Answer.flag h.dropFront_fst.symm⟩
  | obCount =>
    refine ⟨h, congrArg Answer.count ?_⟩
    rw [OfflineBufferSim.count, h.items_eq, length_content]
    rfl
  | obIsEmpty =>
    refine ⟨h, congrArg Answer.flag ?_⟩
    rw [OfflineBufferSim.isEmpty, h.items_eq, isEmpty_content]
    rfl

end Represents

/-! ### Every sequence of calls -/

/-- The answers to the calls `cs`, made one after the other from the state `s` on. -/
def answers {σ : Type*} (perform : σ → Call → Answer × σ) (s : σ) (cs : List Call) :
    List Answer :=
  Machine.observe (fun s c => (perform s c).2) (fun s c => some (perform s c).1) s cs

/-- The buffer after the calls `cs` on the zero-initialised one. -/
def after (cs : List Call) : OfflineBuffer :=
  Machine.exec (fun b c => (perform b c).2) empty cs

/-- The simulation's deque at the start. -/
def emptySim : OfflineBufferSim TelemetryData := .init OB_CAPACITY (by decide)

/-- **The buffer is a queue that drops its oldest packet when it is full**: whatever calls are made
on the zero-initialised buffer, the deque of capacity `OB_CAPACITY` gives the same answers and ends
with the same packets, and the three indices stay in range and tied to each other. -/
theorem refines_sim (cs : List Call) :
    answers perform empty cs = answers OfflineBufferSim.perform emptySim cs ∧
      (after cs).content =
        (Machine.exec (fun q c => (OfflineBufferSim.perform q c).2) emptySim cs).items ∧
      (after cs).s_head < OB_CAPACITY ∧ (after cs).s_tail < OB_CAPACITY ∧
      (after cs).s_count ≤ OB_CAPACITY ∧
      (after cs).s_tail = ((after cs).s_head + (after cs).s_count) % OB_CAPACITY := by
  have hstart : Represents empty emptySim := ⟨rfl, rfl⟩
  obtain ⟨hlast, hanswers⟩ := Machine.observe_eq_of_simulation Represents
    (fun b q c h => (h.perform c).1) (fun b q c h => congrArg some (h.perform c).2) hstart cs
  have htail : (after cs).s_tail < OB_CAPACITY := by
    rw [(after cs).tail_eq]
    exact Nat.mod_lt _ (by decide)
  exact ⟨hanswers, hlast.items_eq.symm, (after cs).head_lt, htail, (after cs).count_le,
    (after cs).tail_eq⟩

end OfflineBuffer

end TufanAks
