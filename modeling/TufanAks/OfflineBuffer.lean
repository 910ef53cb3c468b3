import TufanAks.Buffer.Ring
import TufanAks.VehicleData

/-!
# `OfflineBuffer.cpp`

The circular buffer that keeps telemetry packets while the link is down.  An `OfflineBuffer` holds
the module's four static variables together with what ties the three indices to each other.
-/

namespace TufanAks

/-- `#define OB_CAPACITY`. -/
def OB_CAPACITY : ℕ := 75

/-- The static variables of the module. -/
structure OfflineBuffer where
  /-- The cells of the array, by index. -/
  s_buf : ℕ → TelemetryData
  s_head : ℕ
  s_tail : ℕ
  s_count : ℕ
  count_le : s_count ≤ OB_CAPACITY
  head_lt : s_head < OB_CAPACITY
  tail_eq : s_tail = (s_head + s_count) % OB_CAPACITY

namespace OfflineBuffer

/-- The zero-initialised buffer. -/
def empty : OfflineBuffer :=
  ⟨fun _ => {}, 0, 0, 0, Nat.zero_le _, Nat.zero_lt_succ _, rfl⟩

theorem tail_advance {head tail count : ℕ} (h : tail = (head + count) % OB_CAPACITY)
    (hcount : count ≠ 0) : tail = ((head + 1) % OB_CAPACITY + (count - 1)) % OB_CAPACITY := by
  rw [h, Nat.mod_add_mod]
  congr 1
  omega

theorem tail_append {head tail count : ℕ} (h : tail = (head + count) % OB_CAPACITY) :
    (tail + 1) % OB_CAPACITY = (head + (count + 1)) % OB_CAPACITY := by
  rw [h, Nat.mod_add_mod, Nat.add_assoc]

/-- The oldest packet is given up: `s_head` moves on and `s_count` goes down. -/
def advance (b : OfflineBuffer) (h : b.s_count ≠ 0) : OfflineBuffer where
  s_buf := b.s_buf
  s_head := (b.s_head + 1) % OB_CAPACITY
  s_tail := b.s_tail
  s_count := b.s_count - 1
  count_le := (Nat.sub_le _ _).trans b.count_le
  head_lt := Nat.mod_lt _ (Nat.zero_lt_succ _)
  tail_eq := tail_advance b.tail_eq h

/-- The cell at `s_tail` is written: `s_tail` moves on and `s_count` goes up. -/
def append (data : TelemetryData) (b : OfflineBuffer) (h : b.s_count < OB_CAPACITY) :
    OfflineBuffer where
  s_buf := Function.update b.s_buf b.s_tail data
  s_head := b.s_head
  s_tail := (b.s_tail + 1) % OB_CAPACITY
  s_count := b.s_count + 1
  count_le := h
  head_lt := b.head_lt
  tail_eq := tail_append b.tail_eq

theorem ne_zero_of_full {b : OfflineBuffer} (h : b.s_count = OB_CAPACITY) : b.s_count ≠ 0 := by
  rw [h]
  decide

theorem advance_lt {b : OfflineBuffer} (h : b.s_count = OB_CAPACITY) :
    (b.advance (ne_zero_of_full h)).s_count < OB_CAPACITY := by
  show b.s_count - 1 < OB_CAPACITY
  rw [h]
  decide

/-- `ob_reset`; the cells keep what they hold. -/
def obReset (b : OfflineBuffer) : OfflineBuffer where
  s_buf := b.s_buf
  s_head := 0
  s_tail := 0
  s_count := 0
  count_le := Nat.zero_le _
  head_lt := Nat.zero_lt_succ _
  tail_eq := rfl

/-- `ob_push`; the flag is its result. -/
def obPush (data : TelemetryData) (b : OfflineBuffer) : Bool × OfflineBuffer :=
  if h : b.s_count = OB_CAPACITY then
    -- the oldest packet makes room
    (true, append data (advance b (ne_zero_of_full h)) (advance_lt h))
  else (true, append data b (Nat.lt_of_le_of_ne b.count_le h))

/-- `ob_pop`: the oldest packet, if there is one, is read and given up. -/
def obPop (b : OfflineBuffer) : Option TelemetryData × OfflineBuffer :=
  if h : b.s_count = 0 then (none, b) else (some (b.s_buf b.s_head), advance b h)

/-- `ob_peek`: the oldest packet, if there is one. -/
def obPeek (b : OfflineBuffer) : Option TelemetryData :=
  if b.s_count = 0 then none else some (b.s_buf b.s_head)

/-- `ob_drop_front`; the flag is its result. -/
def obDropFront (b : OfflineBuffer) : Bool × OfflineBuffer :=
  if h : b.s_count = 0 then (false, b) else (true, advance b h)

/-- `ob_count`. -/
def obCount (b : OfflineBuffer) : ℕ := b.s_count

/-- `ob_is_empty`. -/
def obIsEmpty (b : OfflineBuffer) : Bool := b.s_count == 0

/-- `offline_should_sample`: a first sample is always due, a later one after the period. -/
def offlineShouldSample (nowMs lastSampleMs : UInt64) (hasSample : Bool) (periodMs : UInt32) :
    Bool :=
  if !hasSample then true else nowMs - lastSampleMs ≥ periodMs.toUInt64

/-! ### The module as a machine -/

/-- One call of a function of the module. -/
inductive Call
  | obReset
  | obPush (data : TelemetryData)
  | obPop
  | obPeek
  | obDropFront
  | obCount
  | obIsEmpty

/-- What a call answers.  A packet comes with the flag `true` of `ob_pop` and `ob_peek`. -/
inductive Answer
  | done
  | flag (b : Bool)
  | packet (out : Option TelemetryData)
  | count (n : ℕ)
  deriving DecidableEq

/-- Perform one call: its answer and the buffer after it. -/
def perform (b : OfflineBuffer) : Call → Answer × OfflineBuffer
  | .obReset => (.done, b.obReset)
  | .obPush data => (.flag (b.obPush data).1, (b.obPush data).2)
  | .obPop => (.packet b.obPop.1, b.obPop.2)
  | .obPeek => (.packet b.obPeek, b)
  | .obDropFront => (.flag b.obDropFront.1, b.obDropFront.2)
  | .obCount => (.count b.obCount, b)
  | .obIsEmpty => (.flag b.obIsEmpty, b)

end OfflineBuffer

end TufanAks
