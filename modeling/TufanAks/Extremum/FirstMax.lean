import Mathlib.Data.List.Induction
import Mathlib.Order.Lattice

/-!
# The first place of a maximum

`scan` keeps the largest value seen so far together with the place where it was seen, and moves on
only for a strictly larger one.  Over places in increasing order it ends with the maximum and the
first place that attains it (`isFirstMax_foldl`).
-/

namespace Extremum

variable {ι β : Type*} [LinearOrder ι] [LinearOrder β] {v : ι → β}

/-- One step: the value at `i`, if it is larger than the largest so far. -/
def scan (v : ι → β) (s : β × ι) (i : ι) : β × ι := if s.1 < v i then (v i, i) else s

/-- Of the places in `seen`, the place `s.2` is the first one with the largest value, `s.1`. -/
structure IsFirstMax (v : ι → β) (seen : List ι) (s : β × ι) : Prop where
  value : v s.2 = s.1
  mem : s.2 ∈ seen
  le : ∀ i ∈ seen, v i ≤ s.1
  first : ∀ i ∈ seen, i < s.2 → v i < s.1

/-- **One step** to a place that is not before any other. -/
theorem IsFirstMax.scan {seen : List ι} {s : β × ι} (h : IsFirstMax v seen s) {i : ι}
    (hi : ∀ k ∈ seen, k ≤ i) : IsFirstMax v (seen ++ [i]) (scan v s i) := by
  unfold Extremum.scan
  split_ifs with hlt
  · refine ⟨rfl, by simp, ?_, ?_⟩
    · intro k hk
      rcases List.mem_append.mp hk with hk | hk
      · exact ((h.le k hk).trans_lt hlt).le
      · rw [List.mem_singleton.mp hk]
    · intro k hk hki
      rcases List.mem_append.mp hk with hk | hk
      · exact (h.le k hk).trans_lt hlt
      · exact absurd (List.mem_singleton.mp hk) hki.ne
  · refine ⟨h.value, List.mem_append_left _ h.mem, ?_, ?_⟩
    · intro k hk
      rcases List.mem_append.mp hk with hk | hk
      · exact h.le k hk
      · rw [List.mem_singleton.mp hk]
        exact not_lt.mp hlt
    · intro k hk hks
      rcases List.mem_append.mp hk with hk | hk
      · exact h.first k hk hks
      · rw [List.mem_singleton.mp hk] at hks
        exact absurd hks (not_lt.mpr (hi _ h.mem))

/-- **The scan** over places in increasing order, none of them before the place it starts with. -/
theorem isFirstMax_foldl {l : List ι} (hl : l.Pairwise (· < ·)) {a : ι} (ha : ∀ i ∈ l, a ≤ i) :
    IsFirstMax v (a :: l) (l.foldl (scan v) (v a, a)) := by
  induction l using List.reverseRecOn with
  | nil => exact ⟨rfl, by simp, by simp, by simp⟩
  | append_singleton l i ih =>
    obtain ⟨hl, -, hlast⟩ := List.pairwise_append.mp hl
    rw [List.foldl_append, ← List.cons_append]
    refine (ih hl fun k hk => ha k (List.mem_append_left _ hk)).scan fun k hk => ?_
    rcases List.mem_cons.mp hk with rfl | hk
    · exact ha i (by simp)
    · exact (hlast k hk i (List.mem_singleton_self i)).le

end Extremum
