import Mathlib.Data.Nat.Find
import Mathlib.Order.Monotone.Basic
import Mathlib.Tactic.Common

/-!
# Gaps in the records of a clock

A clock ticks, the tick `i` carries the stamp `st i`, and some of the stamps are on record.
`Sampled` describes a record with one hole: the hole begins when `A` ends and ends when `Q` begins,
where `A` and `Q` are conditions on ticks.  All ticks with `A` are on record; of the others, no tick
without `Q` is, the first tick with `Q` is, and of later ones at least every other tick is.
`noGap_iff` says that the hole is the only place where the record can have a long gap.
-/

namespace Timeline

/-- No entry is followed by a gap longer than `g`. -/
def NoGap (g : ℕ) (K : List ℕ) : Prop :=
  ∀ x ∈ K, ∀ z ∈ K, x < z → ∃ y ∈ K, x < y ∧ y ≤ x + g

instance (g : ℕ) (K : List ℕ) : Decidable (NoGap g K) :=
  inferInstanceAs (Decidable (∀ x ∈ K, ∀ z ∈ K, x < z → ∃ y ∈ K, x < y ∧ y ≤ x + g))

/-- The tick `j` ends the hole in the stretch of ticks that begins after `i`. -/
structure Hole (A Q : ℕ → Prop) (i j : ℕ) : Prop where
  before : A i
  last : ¬A (i + 1)
  lt : i < j
  after : Q j
  first : ∀ k, i < k → k < j → ¬Q k

/-- The record `K` of the first `n` ticks. -/
structure Sampled (st : ℕ → ℕ) (A Q : ℕ → Prop) (n : ℕ) (K : List ℕ) : Prop where
  onClock : ∀ x ∈ K, ∃ i < n, x = st i ∧ (A i ∨ Q i)
  early : ∀ i < n, A i → st i ∈ K
  first : ∀ i < n, Q i → (∀ j < i, Q j → A j) → st i ∈ K
  covered : ∀ i < n, Q i → st i ∈ K ∨ ∃ j, j + 1 = i ∧ ¬A j ∧ Q j ∧ st j ∈ K

namespace Sampled

variable {st : ℕ → ℕ} {A Q : ℕ → Prop} {n : ℕ} {K L : List ℕ}

theorem empty (st : ℕ → ℕ) (A Q : ℕ → Prop) : Sampled st A Q 0 [] :=
  ⟨by simp, by simp, by simp, by simp⟩

/-- Only the entries matter. -/
theorem congr (h : Sampled st A Q n K) (hL : ∀ x, x ∈ L ↔ x ∈ K) : Sampled st A Q n L := by
  refine ⟨?_, ?_, ?_, ?_⟩
  · simpa only [hL] using h.onClock
  · simpa only [hL] using h.early
  · simpa only [hL] using h.first
  · simpa only [hL] using h.covered

/-- The next tick comes on record. -/
theorem add (h : Sampled st A Q n K) (hn : A n ∨ Q n) (hL : ∀ x, x ∈ L ↔ x ∈ K ∨ x = st n) :
    Sampled st A Q (n + 1) L := by
  have hmem : st n ∈ L := (hL _).mpr (.inr rfl)
  have hkept : ∀ {x}, x ∈ K → x ∈ L := fun hx => (hL _).mpr (.inl hx)
  refine ⟨?_, ?_, ?_, ?_⟩
  · intro x hx
    rcases (hL x).mp hx with hx | rfl
    · obtain ⟨i, hi, hxi⟩ := h.onClock x hx
      exact ⟨i, Nat.lt_succ_of_lt hi, hxi⟩
    · exact ⟨n, Nat.lt_succ_self n, rfl, hn⟩
  · intro i hi hA
    rcases Nat.lt_succ_iff_lt_or_eq.mp hi with hi | rfl
    · exact hkept (h.early i hi hA)
    · exact hmem
  · intro i hi hQ hfirst
    rcases Nat.lt_succ_iff_lt_or_eq.mp hi with hi | rfl
    · exact hkept (h.first i hi hQ hfirst)
    · exact hmem
  · intro i hi hQ
    rcases Nat.lt_succ_iff_lt_or_eq.mp hi with hi | rfl
    · exact (h.covered i hi hQ).imp hkept fun ⟨j, hj, hA, hQj, hx⟩ => ⟨j, hj, hA, hQj, hkept hx⟩
    · exact .inl hmem

/-- The next tick does not come on record: it does not have to, or the one before it is there. -/
theorem skip (h : Sampled st A Q n K) (hA : ¬A n)
    (hn : ¬Q n ∨ ∃ j, j + 1 = n ∧ ¬A j ∧ Q j ∧ st j ∈ K) (hL : ∀ x, x ∈ L ↔ x ∈ K) :
    Sampled st A Q (n + 1) L := by
  have hsame := h.congr hL
  refine ⟨?_, ?_, ?_, ?_⟩
  · intro x hx
    obtain ⟨i, hi, hxi⟩ := hsame.onClock x hx
    exact ⟨i, Nat.lt_succ_of_lt hi, hxi⟩
  · intro i hi hAi
    rcases Nat.lt_succ_iff_lt_or_eq.mp hi with hi | rfl
    · exact hsame.early i hi hAi
    · exact absurd hAi hA
  · intro i hi hQ hfirst
    rcases Nat.lt_succ_iff_lt_or_eq.mp hi with hi | rfl
    · exact hsame.first i hi hQ hfirst
    · obtain ⟨j, hj, hAj, hQj, -⟩ := hn.resolve_left (not_not_intro hQ)
      exact absurd (hfirst j (by omega) hQj) hAj
  · intro i hi hQ
    rcases Nat.lt_succ_iff_lt_or_eq.mp hi with hi | rfl
    · exact hsame.covered i hi hQ
    · obtain ⟨j, hj, hAj, hQj, hx⟩ := hn.resolve_left (not_not_intro hQ)
      exact .inr ⟨j, hj, hAj, hQj, (hL _).mpr hx⟩

/-- **Gaps of a sampled clock**: if two ticks take no longer than `g` and a tick has ended the hole,
the record has no gap longer than `g` exactly when the hole is no longer than `g`. -/
theorem noGap_iff (h : Sampled st A Q n K) {g : ℕ} (hst : StrictMono st)
    (hg : ∀ i, st (i + 2) ≤ st i + g) (hA : ∀ i j, i ≤ j → A j → A i)
    (hQ : ∀ i j, i ≤ j → Q i → Q j) (hlater : ∃ k < n, ¬A k ∧ Q k) :
    NoGap g K ↔ ∀ i j, Hole A Q i j → st j ≤ st i + g := by
  constructor
  · intro hgap i j hole
    obtain ⟨k, hk, hAk, hQk⟩ := hlater
    have hafter : ∀ l, ¬A l → i < l := fun l hl => not_le.mp fun hle => hl (hA l i hle hole.before)
    have hi : i < n := (hafter k hAk).trans hk
    obtain ⟨z, hz, hiz⟩ : ∃ z ∈ K, st i < z := by
      rcases h.covered k hk hQk with hmem | ⟨l, -, hAl, -, hmem⟩
      · exact ⟨_, hmem, hst (hafter k hAk)⟩
      · exact ⟨_, hmem, hst (hafter l hAl)⟩
    -- the next entry ends the hole
    obtain ⟨y, hy, hiy, hyg⟩ := hgap _ (h.early i hi hole.before) z hz hiz
    obtain ⟨l, -, rfl, hAQ⟩ := h.onClock y hy
    have hil : i < l := hst.lt_iff_lt.mp hiy
    have hAl : ¬A l := fun hAl => hole.last (hA _ _ hil hAl)
    have hjl : j ≤ l := not_lt.mp fun hlj => hole.first l hil hlj (hAQ.resolve_left hAl)
    exact (hst.monotone hjl).trans hyg
  · intro hhole x hx z hz hxz
    obtain ⟨i, hi, rfl, hAQ⟩ := h.onClock x hx
    obtain ⟨k, hk, rfl, hAQk⟩ := h.onClock z hz
    have hik : i < k := hst.lt_iff_lt.mp hxz
    have hone : st i < st (i + 1) := hst (Nat.lt_succ_self i)
    have htwo : st (i + 1) < st (i + 2) := hst (Nat.lt_succ_self (i + 1))
    have hlong := hg i
    by_cases hnext : A (i + 1)
    · -- the very next tick is on record
      exact ⟨_, h.early (i + 1) (by omega) hnext, by omega, by omega⟩
    by_cases hQi : Q i
    · by_cases hik2 : k = i + 1
      · subst hik2
        exact ⟨_, hz, hxz, by omega⟩
      -- the tick after the next is on record, or the next
      rcases h.covered (i + 2) (by omega) (hQ i _ (by omega) hQi) with hmem | ⟨j, hj, -, -, hmem⟩
      · exact ⟨_, hmem, by omega, by omega⟩
      · obtain rfl : j = i + 1 := by omega
        exact ⟨_, hmem, by omega, by omega⟩
    · -- the hole begins after `i`
      have hAi : A i := hAQ.resolve_right hQi
      have hQk : Q k := hAQk.resolve_left fun hAk => hnext (hA _ _ hik hAk)
      classical
      have hex : ∃ j, i < j ∧ Q j := ⟨k, hik, hQk⟩
      obtain ⟨hij, hQj⟩ := Nat.find_spec hex
      have hfirst : ∀ l, i < l → l < Nat.find hex → ¬Q l :=
        fun l hil hl hQl => Nat.find_min hex hl ⟨hil, hQl⟩
      have hjk : Nat.find hex ≤ k := Nat.find_min' hex ⟨hik, hQk⟩
      refine ⟨_, h.first _ (by omega) hQj fun l hl hQl => ?_, hst hij,
        hhole i _ ⟨hAi, hnext, hij, hQj, hfirst⟩⟩
      rcases Nat.lt_or_ge i l with hil | hil
      · exact absurd hQl (hfirst l hil hl)
      · exact hA l i hil hAi

end Sampled

end Timeline
