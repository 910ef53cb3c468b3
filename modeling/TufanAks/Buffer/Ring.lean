import Mathlib.Data.List.Induction
import Mathlib.Logic.Function.Basic
import Mathlib.Tactic.Common

/-!
# Circular arrays and the fate of their entries

`window cap buf head n` lists the `n` entries that a circular array of `cap` cells holds from the
cell `head` on.  Writing the cell after the window lengthens it (`window_update`), moving `head` on
shortens it (`window_succ`).

A `Ledger` names what has become of the entries of a first-in first-out store that may evict its
oldest entry: everything pushed, in order, and the positions of the entries that were evicted.
`Balances` ties it to the entries that were taken out in order and to those still stored, and
`Balances.kept_eq` is the conservation law: what was pushed and not evicted is what was taken
followed by what is stored.
-/

namespace Buffer

variable {α : Type*}

/-! ### Windows -/

/-- The `n` entries of a circular array of `cap` cells from the cell `head` on. -/
def window (cap : ℕ) (buf : ℕ → α) (head n : ℕ) : List α :=
  (List.range n).map fun i => buf ((head + i) % cap)

@[simp] theorem length_window (cap : ℕ) (buf : ℕ → α) (head n : ℕ) :
    (window cap buf head n).length = n := by
  simp [window]

/-- The first entry, and the window from the next cell on. -/
theorem window_succ (cap : ℕ) (buf : ℕ → α) (head n : ℕ) :
    window cap buf head (n + 1) =
      buf (head % cap) :: window cap buf ((head + 1) % cap) n := by
  unfold window
  rw [List.range_succ_eq_map, List.map_cons, List.map_map, Nat.add_zero]
  congr 1
  refine List.map_congr_left fun i _ => ?_
  show buf ((head + (i + 1)) % cap) = buf (((head + 1) % cap + i) % cap)
  rw [Nat.mod_add_mod, Nat.add_assoc, Nat.add_comm 1]

/-- Two cells of a window are different cells of the array. -/
theorem add_mod_ne {cap head i n : ℕ} (hi : i < n) (hn : n < cap) :
    (head + i) % cap ≠ (head + n) % cap := by
  intro heq
  have hdvd : cap ∣ head + n - (head + i) :=
    Nat.dvd_of_mod_eq_zero (Nat.sub_mod_eq_zero_of_mod_eq heq.symm)
  have hzero : head + n - (head + i) = 0 := Nat.eq_zero_of_dvd_of_lt hdvd (by omega)
  omega

/-- Writing the cell after the window appends an entry, if there is a cell left. -/
theorem window_update {cap n : ℕ} (hn : n < cap) (buf : ℕ → α) (head : ℕ) (a : α) :
    window cap (Function.update buf ((head + n) % cap) a) head (n + 1) =
      window cap buf head n ++ [a] := by
  unfold window
  rw [List.range_succ, List.map_append, List.map_singleton, Function.update_self]
  congr 1
  refine List.map_congr_left fun i hi => ?_
  exact Function.update_of_ne (add_mod_ne (List.mem_range.mp hi) hn) _ _

/-! ### Survivors -/

/-- The entries of `l` at the positions that are not in `gone`. -/
def survivors (gone : List ℕ) (l : List α) : List α :=
  (l.zipIdx.filter fun p => p.2 ∉ gone).map Prod.fst

theorem survivors_concat (gone : List ℕ) (l : List α) (a : α) :
    survivors gone (l ++ [a]) =
      survivors gone l ++ if l.length ∈ gone then [] else [a] := by
  unfold survivors
  rw [List.zipIdx_append, List.filter_append, List.map_append]
  congr 1
  by_cases h : l.length ∈ gone
  · simp [h]
  · simp [h]

/-- Only the positions in the list matter. -/
theorem survivors_congr {gone gone' : List ℕ} {l : List α}
    (h : ∀ i < l.length, i ∈ gone ↔ i ∈ gone') : survivors gone l = survivors gone' l := by
  induction l using List.reverseRecOn with
  | nil => rfl
  | append_singleton l a ih =>
    have hlast : l.length ∈ gone ↔ l.length ∈ gone' := h l.length (by simp)
    rw [survivors_concat, survivors_concat, ih fun i hi => h i (by simp; omega)]
    simp only [hlast]

/-- What comes after the positions that are gone is untouched. -/
theorem survivors_append {gone : List ℕ} {l : List α} (h : ∀ i ∈ gone, i < l.length)
    (r : List α) : survivors gone (l ++ r) = survivors gone l ++ r := by
  induction r using List.reverseRecOn with
  | nil => simp
  | append_singleton r a ih =>
    have hkeep : (l ++ r).length ∉ gone := by
      intro hmem
      have hlt := h _ hmem
      rw [List.length_append] at hlt
      omega
    rw [← List.append_assoc, survivors_concat, if_neg hkeep, ih, List.append_assoc]

/-! ### Ledgers -/

/-- What has become of the entries of a store: everything that was pushed, and the positions of the
entries that were evicted. -/
structure Ledger (α : Type*) where
  pushed : List α := []
  evicted : List ℕ := []

namespace Ledger

/-- A new entry. -/
def push (a : α) (l : Ledger α) : Ledger α := { l with pushed := l.pushed ++ [a] }

/-- The oldest of the `count` entries that are still stored is evicted. -/
def evict (count : ℕ) (l : Ledger α) : Ledger α :=
  { l with evicted := l.evicted ++ [l.pushed.length - count] }

/-- The entries that were pushed and not evicted. -/
def kept (l : Ledger α) : List α := survivors l.evicted l.pushed

end Ledger

/-- Of the entries of the ledger, `taken` were taken out in order and `stored` are still there; the
entries before the stored ones were all taken or evicted. -/
def Balances (l : Ledger α) (taken stored : List α) : Prop :=
  ∃ start ≤ l.pushed.length, l.pushed.drop start = stored ∧ (∀ i ∈ l.evicted, i < start) ∧
    survivors l.evicted (l.pushed.take start) = taken

namespace Balances

variable {l : Ledger α} {taken stored : List α}

theorem empty : Balances ({} : Ledger α) [] [] :=
  ⟨0, Nat.le_refl 0, rfl, by simp, rfl⟩

/-- **Conservation**: what was pushed and not evicted is what was taken, followed by what is
stored. -/
theorem kept_eq (h : Balances l taken stored) : l.kept = taken ++ stored := by
  obtain ⟨start, hstart, rfl, hgone, rfl⟩ := h
  have hlength : (l.pushed.take start).length = start := List.length_take_of_le hstart
  have hsplit := survivors_append (l := l.pushed.take start) (by rwa [hlength])
    (l.pushed.drop start)
  rwa [List.take_append_drop] at hsplit

/-- The stored entries are the last ones pushed. -/
theorem drop_eq (h : Balances l taken stored) :
    l.pushed.drop (l.pushed.length - stored.length) = stored := by
  obtain ⟨start, hstart, rfl, -, -⟩ := h
  rw [List.length_drop, Nat.sub_sub_self hstart]

theorem push (h : Balances l taken stored) (a : α) : Balances (l.push a) taken (stored ++ [a]) := by
  obtain ⟨start, hstart, rfl, hgone, rfl⟩ := h
  refine ⟨start, ?_, ?_, hgone, ?_⟩
  · show start ≤ (l.pushed ++ [a]).length
    simp
    omega
  · show (l.pushed ++ [a]).drop start = _
    rw [List.drop_append_of_le_length hstart]
  · show survivors l.evicted ((l.pushed ++ [a]).take start) = _
    rw [List.take_append_of_le_length hstart]

/-- The oldest stored entry is taken out. -/
theorem take {a : α} (h : Balances l taken (a :: stored)) : Balances l (taken ++ [a]) stored := by
  obtain ⟨start, hstart, hdrop, hgone, rfl⟩ := h
  have hlt : start < l.pushed.length := by
    by_contra hle
    rw [List.drop_of_length_le (Nat.not_lt.mp hle)] at hdrop
    cases hdrop
  rw [List.drop_eq_getElem_cons hlt, List.cons.injEq] at hdrop
  refine ⟨start + 1, hlt, hdrop.2, fun i hi => Nat.lt_succ_of_lt (hgone i hi), ?_⟩
  have hkeep : (l.pushed.take start).length ∉ l.evicted := by
    rw [List.length_take_of_le hstart]
    exact fun hmem => Nat.lt_irrefl _ (hgone _ hmem)
  rw [List.take_succ_eq_append_getElem hlt, survivors_concat, if_neg hkeep, hdrop.1]

/-- The oldest stored entries are taken out. -/
theorem takeAll {entries : List α} (h : Balances l taken (entries ++ stored)) :
    Balances l (taken ++ entries) stored := by
  induction entries generalizing taken with
  | nil => simpa using h
  | cons a entries ih =>
    have hrest := ih h.take
    rwa [List.append_assoc, List.singleton_append] at hrest

/-- The oldest stored entry is evicted. -/
theorem evict {a : α} (h : Balances l taken (a :: stored)) :
    Balances (l.evict (a :: stored).length) taken stored := by
  obtain ⟨start, hstart, hdrop, hgone, rfl⟩ := h
  have hlength : l.pushed.length - (a :: stored).length = start := by
    rw [← hdrop, List.length_drop, Nat.sub_sub_self hstart]
  have hlt : start < l.pushed.length := by
    by_contra hle
    rw [List.drop_of_length_le (Nat.not_lt.mp hle)] at hdrop
    cases hdrop
  rw [List.drop_eq_getElem_cons hlt, List.cons.injEq] at hdrop
  refine ⟨start + 1, hlt, hdrop.2, ?_, ?_⟩
  · intro i hi
    show i < start + 1
    rcases List.mem_append.mp hi with hi | hi
    · exact Nat.lt_succ_of_lt (hgone i hi)
    · rw [List.mem_singleton.mp hi, hlength]
      exact Nat.lt_succ_self _
  · -- the new position is that of the entry, and no earlier one
    show survivors (l.evicted ++ [l.pushed.length - (a :: stored).length])
      (l.pushed.take (start + 1)) = _
    have hmem : (l.pushed.take start).length ∈ l.evicted ++ [start] := by
      rw [List.length_take_of_le hstart]
      simp
    rw [hlength, List.take_succ_eq_append_getElem hlt, survivors_concat, if_pos hmem,
      List.append_nil]
    refine survivors_congr fun i hi => ?_
    rw [List.length_take_of_le hstart] at hi
    have hne : i ≠ start := by omega
    simp [hne]

end Balances

end Buffer
