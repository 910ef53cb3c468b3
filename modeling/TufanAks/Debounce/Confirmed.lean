import Mathlib.Data.List.DropRight
import Mathlib.Tactic.Common

/-!
# Debouncing

A stream of samples some of which are bad.  A fault is confirmed when the last `n` samples are all
bad (`Confirmed`).  A counter of the bad samples in a row decides this without the history
(`confirmed_iff_le_run`), even if it stops at some limit (`confirmed_iff_le_min`).
-/

namespace Debounce

variable {α : Type*} {bad : α → Bool}

/-- There are `n` samples, and the last `n` are bad. -/
def Confirmed (bad : α → Bool) (n : ℕ) (xs : List α) : Prop :=
  n ≤ xs.length ∧ ∀ x ∈ xs.rtake n, bad x = true

instance (n : ℕ) (xs : List α) : Decidable (Confirmed bad n xs) :=
  inferInstanceAs (Decidable (_ ∧ _))

/-- The number of bad samples in a row at the end. -/
def run (bad : α → Bool) (xs : List α) : ℕ := (xs.rtakeWhile bad).length

@[simp] theorem run_nil : run bad [] = 0 := rfl

theorem run_concat (xs : List α) (x : α) :
    run bad (xs ++ [x]) = if bad x then run bad xs + 1 else 0 := by
  unfold run
  rw [List.rtakeWhile_concat]
  split_ifs
  · exact List.length_append
  · rfl

theorem confirmed_concat_succ (n : ℕ) (xs : List α) (x : α) :
    Confirmed bad (n + 1) (xs ++ [x]) ↔ bad x = true ∧ Confirmed bad n xs := by
  unfold Confirmed
  rw [List.rtake_concat_succ, List.length_append, List.length_singleton, List.forall_mem_append,
    List.forall_mem_singleton]
  exact ⟨fun ⟨hn, hxs, hx⟩ => ⟨hx, Nat.le_of_succ_le_succ hn, hxs⟩,
    fun ⟨hx, hn, hxs⟩ => ⟨Nat.succ_le_succ hn, hxs, hx⟩⟩

/-- **The counter** of bad samples in a row decides. -/
theorem confirmed_iff_le_run (n : ℕ) (xs : List α) : Confirmed bad n xs ↔ n ≤ run bad xs := by
  induction xs using List.reverseRecOn generalizing n with
  | nil => simp [Confirmed]
  | append_singleton xs x ih =>
    cases n with
    | zero => simp [Confirmed]
    | succ n =>
      rw [confirmed_concat_succ, ih, run_concat]
      split_ifs with hx
      · simp [hx]
      · simp [hx]

/-- A counter that stops at `limit` decides as well, up to this limit. -/
theorem confirmed_iff_le_min {n limit : ℕ} (h : n ≤ limit) (xs : List α) :
    Confirmed bad n xs ↔ n ≤ min limit (run bad xs) := by
  rw [confirmed_iff_le_run, Nat.le_min, and_iff_right h]

end Debounce
