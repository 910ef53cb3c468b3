import Mathlib.Algebra.Order.BigOperators.Group.List
import Mathlib.Algebra.Order.Ring.Nat
import Mathlib.Data.List.DropRight

/-!
# Lines of decimal fields

`decimal` prints an integer the way `printf` does and `intValue` reads it back
(`intValue_decimal`).  A printed integer has no characters besides digits and the minus sign
(`not_mem_decimal`), and a bound on the integer bounds its length (`length_decimal_le`).  A line is
a list of fields joined by a separator, with a line ending; `splitOn_line` takes it apart again.
-/

namespace Text

/-! ### Decimal integers -/

/-- The decimal digits of an integer, after a minus sign if it is negative. -/
def decimal : ℤ → List Char
  | .ofNat n => Nat.toDigits 10 n
  | .negSucc n => '-' :: Nat.toDigits 10 (n + 1)

/-- The integer that digits stand for, possibly after a sign. -/
def intValue : List Char → ℤ
  | [] => 0
  | c :: body =>
    if c = '-' then -(Nat.ofDigitChars 10 body 0 : ℤ)
    else if c = '+' then Nat.ofDigitChars 10 body 0
    else Nat.ofDigitChars 10 (c :: body) 0

theorem isDigit_of_mem_toDigits {n : ℕ} {c : Char} (hc : c ∈ Nat.toDigits 10 n) :
    c.isDigit = true :=
  Nat.isDigit_of_mem_toDigits (by decide) (by decide) hc

/-- A printed natural number starts with a digit, not with a sign. -/
theorem toDigits_cases (n : ℕ) :
    ∃ c body, Nat.toDigits 10 n = c :: body ∧ c ≠ '-' ∧ c ≠ '+' := by
  obtain ⟨c, body, h⟩ := List.exists_cons_of_ne_nil (Nat.toDigits_ne_nil (n := n) (b := 10))
  have hc : c.isDigit = true := isDigit_of_mem_toDigits (h ▸ List.mem_cons_self)
  refine ⟨c, body, h, ?_, ?_⟩
  · rintro rfl
    exact absurd hc (by decide)
  · rintro rfl
    exact absurd hc (by decide)

/-- **Reading undoes printing.** -/
theorem intValue_decimal (z : ℤ) : intValue (decimal z) = z := by
  cases z with
  | ofNat n =>
    obtain ⟨c, body, h, hminus, hplus⟩ := toDigits_cases n
    show intValue (Nat.toDigits 10 n) = (n : ℤ)
    rw [h, intValue, if_neg hminus, if_neg hplus, ← h, Nat.ofDigitChars_ten_toDigits]
  | negSucc n =>
    show intValue ('-' :: Nat.toDigits 10 (n + 1)) = _
    rw [intValue, if_pos rfl, Nat.ofDigitChars_ten_toDigits]
    rfl

theorem not_mem_decimal {z : ℤ} {c : Char} (hdigit : c.isDigit = false) (hminus : c ≠ '-') :
    c ∉ decimal z := by
  intro hc
  cases z with
  | ofNat n => cases hdigit.symm.trans (isDigit_of_mem_toDigits hc)
  | negSucc n =>
    rcases List.mem_cons.mp hc with rfl | hc
    · exact hminus rfl
    · cases hdigit.symm.trans (isDigit_of_mem_toDigits hc)

/-- `k` digits and a sign are enough below `10 ^ k`. -/
theorem length_decimal_le {z : ℤ} {k : ℕ} (hk : 0 < k) (hz : z.natAbs < 10 ^ k) :
    (decimal z).length ≤ k + 1 := by
  cases z with
  | ofNat n => exact ((Nat.length_toDigits_le_iff (by decide) hk).mpr hz).trans (Nat.le_succ k)
  | negSucc n => exact Nat.succ_le_succ ((Nat.length_toDigits_le_iff (by decide) hk).mpr hz)

/-- Without a sign the digits are enough. -/
theorem length_decimal_natCast_le {n k : ℕ} (hk : 0 < k) (hn : n < 10 ^ k) :
    (decimal n).length ≤ k :=
  (Nat.length_toDigits_le_iff (by decide) hk).mpr hn

/-! ### Lines -/

variable {α : Type*} {sep : α} {ls : List (List α)}

/-- What a line has to do with its fields. -/
theorem mem_intercalate {c : α} (hc : c ∈ [sep].intercalate ls) : c = sep ∨ ∃ l ∈ ls, c ∈ l := by
  induction ls with
  | nil => simp at hc
  | cons l rest ih =>
    rcases List.eq_nil_or_concat rest with rfl | ⟨_, _, hrest⟩
    · exact .inr ⟨l, List.mem_cons_self, by simpa using hc⟩
    · have hne : rest ≠ [] := by simp [hrest]
      rw [List.intercalate_cons_of_ne_nil hne, List.append_assoc, List.mem_append,
        List.mem_append, List.mem_singleton] at hc
      rcases hc with hl | hsep | hrest
      · exact .inr ⟨l, List.mem_cons_self, hl⟩
      · exact .inl hsep
      · exact (ih hrest).imp_right fun ⟨l', hl', hc⟩ => ⟨l', List.mem_cons_of_mem _ hl', hc⟩

theorem length_intercalate_le :
    ([sep].intercalate ls).length ≤ (ls.map fun l => l.length + 1).sum := by
  induction ls with
  | nil => simp
  | cons l rest ih =>
    rcases List.eq_nil_or_concat rest with rfl | ⟨_, _, hrest⟩
    · simp
    · have hne : rest ≠ [] := by simp [hrest]
      rw [List.intercalate_cons_of_ne_nil hne, List.length_append, List.length_append,
        List.map_cons, List.sum_cons]
      exact Nat.add_le_add_left ih _

/-- Stripping takes off the ending and nothing else. -/
theorem rdropWhile_append_ending {isEnding : α → Bool} {line ending : List α}
    (hending : ∀ c ∈ ending, isEnding c = true) (hline : ∀ c ∈ line, isEnding c = false) :
    (line ++ ending).rdropWhile isEnding = line := by
  induction ending using List.reverseRecOn with
  | nil =>
    rw [List.append_nil, List.rdropWhile_eq_self_iff]
    intro hne
    rw [hline _ (List.getLast_mem hne)]
    exact Bool.false_ne_true
  | append_singleton ending c ih =>
    rw [← List.append_assoc, List.rdropWhile_concat_pos _ _ _ (hending c (by simp))]
    exact ih fun x hx => hending x (List.mem_append_left _ hx)

/-- **Splitting undoes joining**, if no field contains the separator or an ending. -/
theorem splitOn_line [DecidableEq α] {isEnding : α → Bool} {ending : List α} (hls : ls ≠ [])
    (hending : ∀ c ∈ ending, isEnding c = true) (hsep : isEnding sep = false)
    (hfields : ∀ l ∈ ls, ∀ c ∈ l, c ≠ sep ∧ isEnding c = false) :
    (([sep].intercalate ls ++ ending).rdropWhile isEnding).splitOn sep = ls := by
  have hline : ∀ c ∈ [sep].intercalate ls, isEnding c = false := by
    intro c hc
    rcases mem_intercalate hc with rfl | ⟨l, hl, hcl⟩
    · exact hsep
    · exact (hfields l hl c hcl).2
  rw [rdropWhile_append_ending hending hline]
  exact List.splitOn_intercalate sep (fun l hl hmem => (hfields l hl sep hmem).1 rfl) hls

end Text
