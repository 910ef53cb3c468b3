import Mathlib.Data.UInt

/-!
# Wrapping counters

A 32-bit counter that is read at time `t` shows `UInt32.ofNat t`.  The difference of two readings
is the time that has passed between them modulo `2 ^ 32`, so something that has looked too old
looks young again only after a full turn of the counter.
-/

namespace Word

/-- The difference of two readings is the elapsed time modulo `2 ^ 32`. -/
theorem toNat_ofNat_sub_ofNat {s t : ℕ} (h : s ≤ t) :
    (UInt32.ofNat t - UInt32.ofNat s).toNat = (t - s) % 2 ^ 32 := by
  rw [UInt32.toNat_sub, UInt32.toNat_ofNat', UInt32.toNat_ofNat']
  omega

/-- Within one turn of the counter the difference of two readings is the elapsed time. -/
theorem toNat_ofNat_sub_ofNat_of_lt {s t : ℕ} (h : s ≤ t) (hlt : t - s < 2 ^ 32) :
    (UInt32.ofNat t - UInt32.ofNat s).toNat = t - s := by
  rw [toNat_ofNat_sub_ofNat h]
  exact Nat.mod_eq_of_lt hlt

/-- A counter that moves on by `tick` is so much further from a stamp, unless it comes round. -/
theorem toNat_add_sub {now stamp tick : UInt32}
    (h : (now - stamp).toNat + tick.toNat < 2 ^ 32) :
    (now + tick - stamp).toNat = (now - stamp).toNat + tick.toNat := by
  have hcomm : now + tick - stamp = now - stamp + tick := (sub_add_eq_add_sub now stamp tick).symm
  rw [hcomm, UInt32.toNat_add]
  exact Nat.mod_eq_of_lt h

end Word
