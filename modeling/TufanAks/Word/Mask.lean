import Mathlib.Data.Nat.Bitwise
import Mathlib.Data.UInt

/-!
# Bits of a 16-bit word

A word as a set of bit numbers: `setBit` puts a number into the set or takes it out.
-/

namespace Word

/-- The bit `n` of the word is set to `b`. -/
def setBit (n : UInt16) (b : Bool) (s : UInt16) : UInt16 :=
  if b then s ||| 1 <<< n else s &&& ~~~(1 <<< n)

theorem testBit_not (s : UInt16) {k : ℕ} (hk : k < 16) :
    (~~~s).toNat.testBit k = !s.toNat.testBit k := by
  have hlt : s.toNat < 2 ^ 16 := s.toNat_lt
  have hnot : (~~~s).toNat = 2 ^ 16 - (s.toNat + 1) := by
    rw [UInt16.toNat_not, show UInt16.size = 2 ^ 16 from rfl]
    omega
  rw [hnot, Nat.testBit_two_pow_sub_succ hlt]
  simp [hk]

theorem toNat_one_shiftLeft {n : UInt16} (hn : n.toNat < 16) :
    ((1 : UInt16) <<< n).toNat = 2 ^ n.toNat := by
  have hpow : 2 ^ n.toNat < 2 ^ 16 := Nat.pow_lt_pow_right (by decide) hn
  rw [UInt16.toNat_shiftLeft, Nat.mod_eq_of_lt hn, Nat.shiftLeft_eq, UInt16.toNat_one, one_mul,
    Nat.mod_eq_of_lt hpow]

/-- **The bits** after one of them is set. -/
theorem testBit_setBit {n : UInt16} (hn : n.toNat < 16) (b : Bool) (s : UInt16) {k : ℕ}
    (hk : k < 16) :
    (setBit n b s).toNat.testBit k = if k = n.toNat then b else s.toNat.testBit k := by
  have hbit : ((1 : UInt16) <<< n).toNat.testBit k = decide (n.toNat = k) := by
    rw [toNat_one_shiftLeft hn, Nat.testBit_two_pow]
  unfold setBit
  cases b with
  | true =>
    rw [if_pos rfl, UInt16.toNat_or, Nat.testBit_or, hbit]
    by_cases hkn : k = n.toNat
    · simp [hkn]
    · simp [hkn, Ne.symm hkn]
  | false =>
    rw [if_neg Bool.false_ne_true, UInt16.toNat_and, Nat.testBit_and, testBit_not _ hk, hbit]
    by_cases hkn : k = n.toNat
    · simp [hkn]
    · simp [hkn, Ne.symm hkn]

theorem toNat_setBit_lt {n : UInt16} {m : ℕ} (hn : n.toNat < 16) (hnm : n.toNat < m) (b : Bool)
    {s : UInt16} (hs : s.toNat < 2 ^ m) : (setBit n b s).toNat < 2 ^ m := by
  unfold setBit
  cases b with
  | true =>
    rw [if_pos rfl, UInt16.toNat_or, toNat_one_shiftLeft hn]
    exact Nat.or_lt_two_pow hs (Nat.pow_lt_pow_right (by decide) hnm)
  | false =>
    rw [if_neg Bool.false_ne_true, UInt16.toNat_and]
    exact Nat.and_le_left.trans_lt hs

/-- The bit `n`, read by shifting. -/
theorem shiftRight_and_one_eq_one_iff {n : UInt16} (hn : n.toNat < 16) (s : UInt16) :
    (s >>> n) &&& 0x01 = 1 ↔ s.toNat.testBit n.toNat = true := by
  rw [← UInt16.toNat_inj, UInt16.toNat_and, UInt16.toNat_shiftRight, Nat.mod_eq_of_lt hn,
    Nat.testBit_eq_decide_div_mod_eq, decide_eq_true_iff, Nat.shiftRight_eq_div_pow]
  exact Eq.congr (Nat.and_one_is_mod _) rfl

end Word
