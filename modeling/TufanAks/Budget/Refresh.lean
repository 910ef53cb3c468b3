import Mathlib.Algebra.Order.BigOperators.Group.List
import Mathlib.Algebra.Order.Ring.Nat
import Mathlib.Data.List.Nodup

/-!
# Refreshing a cached view under a budget

A view shows a value for each of the items `as` and remembers in a cache what it shows.  One refresh
sends the items whose value is no longer the cached one, in order, until the next one does not fit
into the budget (`fitting`), and caches what it has sent (`store`).

What is sent takes no more than the budget (`sum_fitting_le`), whether an item is sent depends on
what comes before it (`mem_fitting_iff`), and as long as every item fits into the budget by itself
each refresh leaves fewer items to send (`length_pending_store_lt`).
-/

namespace Budget

variable {α β : Type*} {size : α → ℕ} {budget : ℕ} {as : List α}

/-- The longest part of `as`, from its start on, that fits into the budget. -/
def fitting (size : α → ℕ) : ℕ → List α → List α
  | _, [] => []
  | budget, a :: as => if size a ≤ budget then a :: fitting size (budget - size a) as else []

@[simp] theorem fitting_nil : fitting size budget [] = [] := rfl

theorem fitting_cons_of_le {a : α} (h : size a ≤ budget) :
    fitting size budget (a :: as) = a :: fitting size (budget - size a) as := if_pos h

theorem fitting_cons_of_lt {a : α} (h : budget < size a) : fitting size budget (a :: as) = [] :=
  if_neg (Nat.not_le.mpr h)

theorem isPrefix_fitting (size : α → ℕ) (budget : ℕ) (as : List α) :
    fitting size budget as <+: as := by
  induction as generalizing budget with
  | nil => exact List.prefix_rfl
  | cons a as ih =>
    rcases Nat.lt_or_ge budget (size a) with h | h
    · rw [fitting_cons_of_lt h]
      exact List.nil_prefix
    · rw [fitting_cons_of_le h]
      exact (List.prefix_cons_inj a).mpr (ih _)

/-- **The budget is kept.** -/
theorem sum_fitting_le (size : α → ℕ) (budget : ℕ) (as : List α) :
    ((fitting size budget as).map size).sum ≤ budget := by
  induction as generalizing budget with
  | nil => exact Nat.zero_le _
  | cons a as ih =>
    rcases Nat.lt_or_ge budget (size a) with h | h
    · rw [fitting_cons_of_lt h]
      exact Nat.zero_le _
    · rw [fitting_cons_of_le h, List.map_cons, List.sum_cons]
      have hrest := ih (budget - size a)
      omega

/-- An item is sent when it fits together with those before it. -/
theorem mem_fitting_iff {pre post : List α} {a : α} (hnodup : (pre ++ a :: post).Nodup) :
    a ∈ fitting size budget (pre ++ a :: post) ↔ ((pre ++ [a]).map size).sum ≤ budget := by
  induction pre generalizing budget with
  | nil =>
    rcases Nat.lt_or_ge budget (size a) with h | h
    · simp [fitting_cons_of_lt h, h]
    · simp [fitting_cons_of_le h, h]
  | cons b pre ih =>
    rw [List.cons_append, List.nodup_cons] at hnodup
    have hne : a ≠ b := by
      rintro rfl
      exact hnodup.1 (by simp)
    rw [List.cons_append, List.cons_append, List.map_cons, List.sum_cons]
    rcases Nat.lt_or_ge budget (size b) with h | h
    · rw [fitting_cons_of_lt h]
      refine ⟨fun hmem => absurd hmem List.not_mem_nil, fun hle => ?_⟩
      omega
    · rw [fitting_cons_of_le h, List.mem_cons, ih hnodup.2]
      constructor
      · rintro (heq | hle)
        · exact absurd heq hne
        · omega
      · intro hle
        exact .inr (by omega)

/-! ### The cache -/

variable {value cache : α → β}

/-- The items whose value is no longer the cached one. -/
def pending [DecidableEq β] (value cache : α → β) (as : List α) : List α :=
  as.filter fun a => value a ≠ cache a

theorem mem_pending [DecidableEq β] {a : α} :
    a ∈ pending value cache as ↔ a ∈ as ∧ value a ≠ cache a := by
  simp [pending]

variable [DecidableEq α]

/-- The cache after the items `sent` have been sent. -/
def store (sent : List α) (value cache : α → β) (a : α) : β :=
  if a ∈ sent then value a else cache a

@[simp] theorem store_nil : store [] value cache = cache := rfl

theorem store_of_mem {sent : List α} {a : α} (h : a ∈ sent) :
    store sent value cache a = value a := if_pos h

theorem store_of_not_mem {sent : List α} {a : α} (h : a ∉ sent) :
    store sent value cache a = cache a := if_neg h

/-- Sending in two goes. -/
theorem store_append (sent more : List α) (value cache : α → β) :
    store (sent ++ more) value cache = store more value (store sent value cache) := by
  funext a
  by_cases hmore : a ∈ more
  · rw [store_of_mem hmore, store_of_mem (List.mem_append_right _ hmore)]
  · rw [store_of_not_mem hmore]
    by_cases hsent : a ∈ sent
    · rw [store_of_mem hsent, store_of_mem (List.mem_append_left _ hsent)]
    · rw [store_of_not_mem hsent, store_of_not_mem (by simp [hsent, hmore])]

/-- What has been sent is not pending any more. -/
theorem pending_store [DecidableEq β] (sent : List α) :
    pending value (store sent value cache) as =
      (pending value cache as).filter fun a => a ∉ sent := by
  unfold pending
  rw [List.filter_filter]
  refine List.filter_congr fun a _ => ?_
  by_cases h : a ∈ sent
  · simp [store_of_mem h, h]
  · simp [store_of_not_mem h, h]

/-- **Progress**: if every item fits into the budget, a refresh leaves less to send. -/
theorem length_pending_store_lt [DecidableEq β] (hfits : ∀ a ∈ as, size a ≤ budget)
    (hne : pending value cache as ≠ []) :
    (pending value (store (fitting size budget (pending value cache as)) value cache) as).length <
      (pending value cache as).length := by
  obtain ⟨a, rest, hcons⟩ := List.exists_cons_of_ne_nil hne
  have hmem : a ∈ pending value cache as := by
    rw [hcons]
    exact List.mem_cons_self
  have hsent : a ∈ fitting size budget (pending value cache as) := by
    rw [hcons, fitting_cons_of_le (hfits a (mem_pending.mp hmem).1)]
    exact List.mem_cons_self
  rw [pending_store]
  refine List.length_filter_lt_length_iff_exists.mpr ⟨a, hmem, ?_⟩
  simp [hsent]

end Budget
