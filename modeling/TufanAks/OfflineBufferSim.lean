import Mathlib.Data.List.Basic
import Mathlib.Tactic.Common

/-!
# `offline_buffer_sim.py`

The simulation's own offline buffer: a deque of at most `capacity` items.  The capacity is positive
in every use, so that `push` never asks an empty deque for an item; the bound on the length is what
`push` maintains.
-/

namespace TufanAks

/-- `class OfflineBufferSim`. -/
structure OfflineBufferSim (α : Type*) where
  capacity : ℕ
  /-- The deque, oldest item first. -/
  items : List α
  capacity_pos : 0 < capacity
  length_le : items.length ≤ capacity

namespace OfflineBufferSim

variable {α : Type*}

/-- The constructor. -/
def init (capacity : ℕ) (h : 0 < capacity) : OfflineBufferSim α :=
  ⟨capacity, [], h, Nat.zero_le _⟩

/-- `popleft`, whose item is not used. -/
def popleft (q : OfflineBufferSim α) : OfflineBufferSim α where
  capacity := q.capacity
  items := q.items.tail
  capacity_pos := q.capacity_pos
  length_le := by
    rw [List.length_tail]
    exact Nat.le_trans (Nat.sub_le _ _) q.length_le

/-- The items after `push`. -/
def pushed (item : α) (q : OfflineBufferSim α) : List α :=
  (if q.items.length = q.capacity then q.items.tail else q.items) ++ [item]

theorem length_pushed_le (item : α) (q : OfflineBufferSim α) :
    (q.pushed item).length ≤ q.capacity := by
  have hpos := q.capacity_pos
  have hle := q.length_le
  unfold pushed
  split_ifs with h
  · simp only [List.length_append, List.length_tail, List.length_singleton]
    omega
  · simp only [List.length_append, List.length_singleton]
    omega

def push (item : α) (q : OfflineBufferSim α) : OfflineBufferSim α where
  capacity := q.capacity
  items := q.pushed item
  capacity_pos := q.capacity_pos
  length_le := length_pushed_le item q

def peek (q : OfflineBufferSim α) : Option α := q.items.head?

/-- `drop_front`; the flag is its result. -/
def dropFront (q : OfflineBufferSim α) : Bool × OfflineBufferSim α :=
  if q.items.isEmpty then (false, q) else (true, q.popleft)

def count (q : OfflineBufferSim α) : ℕ := q.items.length

def isEmpty (q : OfflineBufferSim α) : Bool := q.items.isEmpty

@[simp] theorem items_init (capacity : ℕ) (h : 0 < capacity) :
    (init capacity h : OfflineBufferSim α).items = [] := rfl

@[simp] theorem items_push (item : α) (q : OfflineBufferSim α) :
    (q.push item).items = q.pushed item := rfl

@[simp] theorem capacity_push (item : α) (q : OfflineBufferSim α) :
    (q.push item).capacity = q.capacity := rfl

/-- Dropping the front of an empty deque leaves it empty. -/
@[simp] theorem items_dropFront (q : OfflineBufferSim α) :
    q.dropFront.2.items = q.items.tail := by
  unfold dropFront
  split_ifs with h
  · rw [List.isEmpty_iff.mp h]
    rfl
  · rfl

@[simp] theorem capacity_dropFront (q : OfflineBufferSim α) :
    q.dropFront.2.capacity = q.capacity := by
  unfold dropFront
  split_ifs <;> rfl

end OfflineBufferSim

end TufanAks
