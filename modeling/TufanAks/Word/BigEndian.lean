import Mathlib.Data.UInt
import Mathlib.Tactic.Common

/-!
# Big-endian 16-bit words

`be16 hi lo` is the word whose high byte is `hi` and whose low byte is `lo`; `highByte` and
`lowByte` take a word apart.  `be16_split` says that a word is its two bytes.
-/

namespace Word

/-- The 16-bit word with bytes `hi`, `lo`: `(hi << 8) | lo`. -/
def be16 (hi lo : UInt8) : UInt16 :=
  (hi.toUInt16 <<< 8) ||| lo.toUInt16

/-- The high byte of a word. -/
def highByte (w : UInt16) : UInt8 := (w >>> 8).toUInt8

/-- The low byte of a word. -/
def lowByte (w : UInt16) : UInt8 := w.toUInt8

theorem toNat_be16 (hi lo : UInt8) : (be16 hi lo).toNat = 256 * hi.toNat + lo.toNat := by
  have hhi := hi.toNat_lt
  have hlo := lo.toNat_lt
  have hshift : hi.toNat <<< 8 = 2 ^ 8 * hi.toNat := by rw [Nat.shiftLeft_eq, Nat.mul_comm]
  simp only [be16, UInt16.toNat_or, UInt16.toNat_shiftLeft, UInt8.toNat_toUInt16]
  rw [show (8 : UInt16).toNat % 16 = 8 from rfl, hshift, Nat.mod_eq_of_lt (by omega),
    ← Nat.two_pow_add_eq_or_of_lt (by omega)]

/-- A word is put together again from its two bytes. -/
@[simp] theorem be16_split (w : UInt16) : be16 (highByte w) (lowByte w) = w := by
  have hw := w.toNat_lt
  apply UInt16.toNat_inj.mp
  have hhigh : (highByte w).toNat = w.toNat / 256 := by
    simp only [highByte, UInt16.toNat_toUInt8, UInt16.toNat_shiftRight]
    rw [show (8 : UInt16).toNat % 16 = 8 from rfl, Nat.shiftRight_eq_div_pow]
    omega
  have hlow : (lowByte w).toNat = w.toNat % 256 := by
    simp only [lowByte, UInt16.toNat_toUInt8]
  rw [toNat_be16, hhigh, hlow]
  omega

end Word
