import Mathlib.Data.List.Chain
import Mathlib.Tactic.Common

/-!
# Thinning a sequence of readings

Readings are offered at the times `ts`, and one is taken when the last one taken is at least
`period` old, or when none has been taken.  Those taken are at least `period` apart
(`isChain_thin`), one is taken in every stretch that reaches that far (`thin_concat_ne_nil`), and
readings offered over less than `n` periods give at most `n` that are taken (`length_thin_le`).
-/

namespace Timeline

/-- A reading at time `t` is due after the last one taken. -/
def Due (period : ℕ) (last : Option ℕ) (t : ℕ) : Prop := ∀ s ∈ last, s + period ≤ t

instance (period : ℕ) (last : Option ℕ) (t : ℕ) : Decidable (Due period last t) :=
  inferInstanceAs (Decidable (∀ s ∈ last, s + period ≤ t))

/-- The readings that are taken, of those offered at the times `ts`. -/
def thin (period : ℕ) : Option ℕ → List ℕ → List ℕ
  | _, [] => []
  | last, t :: ts =>
    if Due period last t then t :: thin period (some t) ts else thin period last ts

variable {period : ℕ} {last : Option ℕ} {t : ℕ} {ts : List ℕ}

@[simp] theorem due_none : Due period none t := by simp [Due]

theorem due_some {s : ℕ} : Due period (some s) t ↔ s + period ≤ t := by simp [Due]

@[simp] theorem thin_nil : thin period last [] = [] := rfl

theorem thin_of_due (h : Due period last t) :
    thin period last (t :: ts) = t :: thin period (some t) ts := if_pos h

theorem thin_of_not_due (h : ¬Due period last t) :
    thin period last (t :: ts) = thin period last ts := if_neg h

/-- The first reading is taken. -/
@[simp] theorem thin_none_cons : thin period none (t :: ts) = t :: thin period (some t) ts :=
  thin_of_due due_none

theorem thin_sublist : ∀ {last : Option ℕ} (ts : List ℕ), (thin period last ts).Sublist ts
  | _, [] => .slnil
  | last, t :: ts => by
    by_cases h : Due period last t
    · rw [thin_of_due h]
      exact (thin_sublist ts).cons_cons t
    · rw [thin_of_not_due h]
      exact (thin_sublist ts).cons t

/-- The first one taken after `last` is due. -/
theorem due_head_thin : ∀ {last : Option ℕ} (ts : List ℕ),
    ∀ t ∈ (thin period last ts).head?, Due period last t
  | _, [] => by simp
  | last, u :: ts => by
    by_cases h : Due period last u
    · rw [thin_of_due h]
      rintro t ⟨⟩
      exact h
    · rw [thin_of_not_due h]
      exact due_head_thin ts

/-- **Those taken are a period apart.** -/
theorem isChain_thin (ts : List ℕ) :
    (thin period last ts).IsChain fun s t => s + period ≤ t := by
  induction ts generalizing last with
  | nil => exact .nil
  | cons t ts ih =>
    by_cases h : Due period last t
    · rw [thin_of_due h, List.isChain_cons]
      exact ⟨fun u hu => due_some.mp (due_head_thin ts u hu), ih⟩
    · rw [thin_of_not_due h]
      exact ih

/-- **A reading is taken in every stretch that reaches a time when one is due.** -/
theorem thin_concat_ne_nil (h : Due period last t) (ts : List ℕ) :
    thin period last (ts ++ [t]) ≠ [] := by
  induction ts with
  | nil =>
    rw [List.nil_append, thin_of_due h]
    exact List.cons_ne_nil _ _
  | cons u ts ih =>
    by_cases hu : Due period last u
    · rw [List.cons_append, thin_of_due hu]
      exact List.cons_ne_nil _ _
    · rwa [List.cons_append, thin_of_not_due hu]

/-! ### Counting -/

/-- Times a period apart span so many periods. -/
theorem add_mul_le_of_isChain {first : ℕ}
    (h : (first :: ts).IsChain fun s t => s + period ≤ t) :
    ∀ last ∈ (first :: ts).getLast?, first + ts.length * period ≤ last := by
  induction ts generalizing first with
  | nil => simp
  | cons u ts ih =>
    rw [List.isChain_cons_cons] at h
    intro last hlast
    rw [List.getLast?_cons_cons] at hlast
    have hrest := ih h.2 last hlast
    rw [List.length_cons, Nat.add_mul, Nat.one_mul]
    have hone := h.1
    omega

/-- The last of the times that do not decrease is the latest. -/
theorem le_getLast_of_pairwise (h : ts.Pairwise (· ≤ ·)) (ht : t ∈ ts) :
    ∀ last ∈ ts.getLast?, t ≤ last := by
  intro last hlast
  obtain ⟨init, rfl⟩ := List.getLast?_eq_some_iff.mp hlast
  rcases List.mem_append.mp ht with hmem | hmem
  · exact (List.pairwise_append.mp h).2.2 t hmem last (List.mem_singleton_self _)
  · exact (List.mem_singleton.mp hmem).le

/-- **Counting**: readings offered over less than `n` periods. -/
theorem length_thin_le {n : ℕ} (hmono : ts.Pairwise (· ≤ ·))
    (hspan : ∀ first ∈ ts.head?, ∀ last ∈ ts.getLast?, last - first < n * period) :
    (thin period none ts).length ≤ n := by
  cases ts with
  | nil => exact Nat.zero_le _
  | cons first ts =>
    have hchain : (thin period none (first :: ts)).IsChain fun s t => s + period ≤ t :=
      isChain_thin (first :: ts)
    have hsub : (thin period none (first :: ts)).Sublist (first :: ts) := thin_sublist (first :: ts)
    rw [thin_none_cons] at hchain hsub ⊢
    obtain ⟨final, hfinal⟩ : ∃ final, (first :: ts).getLast? = some final :=
      ⟨_, List.getLast?_eq_some_getLast (List.cons_ne_nil _ _)⟩
    obtain ⟨last, hlast⟩ : ∃ last, (first :: thin period (some first) ts).getLast? = some last :=
      ⟨_, List.getLast?_eq_some_getLast (List.cons_ne_nil _ _)⟩
    have htotal := add_mul_le_of_isChain hchain last hlast
    have hle : last ≤ final :=
      le_getLast_of_pairwise hmono (hsub.subset (List.mem_of_getLast? hlast)) final hfinal
    have hshort := hspan first rfl final hfinal
    have hlt : (thin period (some first) ts).length * period < n * period := by omega
    exact Nat.lt_of_mul_lt_mul_right hlt

end Timeline
