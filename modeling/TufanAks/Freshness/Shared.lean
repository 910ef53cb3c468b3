import Mathlib.Data.Finset.Basic
import Mathlib.Data.Fintype.Basic

/-!
# One time for several sources

A `Shared` tracker watches several sources, each of which sends at times of its own, with a single
time for the latest message of any source and the set of sources seen since it was last cleared.  It
is valid once every source was seen, and is cleared when the shared time is too old.

A `History` knows the latest message of every source.  `Agrees` ties the two together, and
`expire_fresh_iff` says exactly when a valid tracker means that every source is fresh.
-/

namespace Freshness

variable {ι : Type*} [Fintype ι]

/-- The tracker. -/
structure Shared (ι : Type*) where
  /-- The sources seen since the tracker was last cleared. -/
  seen : Finset ι
  /-- The time of the latest message of any source. -/
  last : Option ℕ
  valid : Bool

/-- The tracker before the first message. -/
def Shared.start : Shared ι := ⟨∅, none, false⟩

/-- A message of source `i` at time `t`. -/
def Shared.accept [DecidableEq ι] (s : Shared ι) (i : ι) (t : ℕ) : Shared ι :=
  ⟨insert i s.seen, some t, s.valid || decide (insert i s.seen = Finset.univ)⟩

/-- A check at time `now`: a valid tracker whose latest message is `timeout` old is cleared. -/
def Shared.expire (timeout now : ℕ) (s : Shared ι) : Shared ι :=
  match s.last with
  | none => s
  | some t => if timeout ≤ now - t ∧ s.valid = true then ⟨∅, some t, false⟩ else s

/-- The time of the latest message of each source. -/
abbrev History (ι : Type*) := ι → Option ℕ

/-- The history after a message of source `i` at time `t`. -/
def History.record [DecidableEq ι] (h : History ι) (i : ι) (t : ℕ) : History ι :=
  Function.update h i (some t)

/-- The source `i` has sent a message less than `timeout` before `now`. -/
def History.Fresh (timeout now : ℕ) (h : History ι) (i : ι) : Prop :=
  ∃ t, h i = some t ∧ now - t < timeout

/-- The tracker knows what the history knows: which sources have sent at all, and when the latest
message came in. -/
structure Agrees (s : Shared ι) (h : History ι) : Prop where
  valid_iff : s.valid = true ↔ s.seen = Finset.univ
  seen : ∀ i ∈ s.seen, h i ≠ none
  silent : s.last = none → ∀ i, h i = none
  newest : ∀ t, s.last = some t → (∃ i, h i = some t) ∧ ∀ j u, h j = some u → u ≤ t

theorem agrees_start [Nonempty ι] : Agrees (Shared.start : Shared ι) fun _ => none where
  valid_iff := by
    simp only [Shared.start, Bool.false_eq_true, false_iff]
    exact fun h => Finset.univ_nonempty.ne_empty h.symm
  seen := by simp [Shared.start]
  silent := by simp
  newest := by simp [Shared.start]

/-- A message that is not older than the latest one keeps the agreement. -/
theorem Agrees.accept [DecidableEq ι] {s : Shared ι} {h : History ι} (hs : Agrees s h) (i : ι)
    {t : ℕ} (ht : ∀ u, s.last = some u → u ≤ t) : Agrees (s.accept i t) (h.record i t) where
  valid_iff := by
    simp only [Shared.accept, Bool.or_eq_true, decide_eq_true_eq, hs.valid_iff]
    constructor
    · rintro (huniv | huniv)
      · rw [huniv, Finset.insert_eq_of_mem (Finset.mem_univ i)]
      · exact huniv
    · exact .inr
  seen := by
    intro j hj
    by_cases hij : j = i
    · simp [History.record, hij]
    · rw [History.record, Function.update_of_ne hij]
      exact hs.seen j ((Finset.mem_insert.mp hj).resolve_left hij)
  silent := by simp [Shared.accept]
  newest := by
    intro u hu
    obtain rfl : t = u := Option.some.inj hu
    refine ⟨⟨i, Function.update_self ..⟩, fun j v hv => ?_⟩
    by_cases hij : j = i
    · rw [hij, History.record, Function.update_self] at hv
      exact (Option.some.inj hv).ge
    · rw [History.record, Function.update_of_ne hij] at hv
      rcases hlast : s.last with _ | w
      · rw [hs.silent hlast j] at hv
        cases hv
      · exact ((hs.newest w hlast).2 j v hv).trans (ht w hlast)

/-- A check keeps the agreement: it only forgets which sources were seen. -/
theorem Agrees.expire [Nonempty ι] {s : Shared ι} {h : History ι} (hs : Agrees s h)
    (timeout now : ℕ) : Agrees (s.expire timeout now) h := by
  unfold Shared.expire
  rcases hlast : s.last with _ | t
  · exact hs
  · dsimp only
    split_ifs
    · refine ⟨?_, by simp, by simp, fun u hu => hs.newest u (hlast.trans hu)⟩
      simp only [Bool.false_eq_true, false_iff]
      exact fun he => Finset.univ_nonempty.ne_empty he.symm
    · exact hs

/-- After a check the tracker is valid exactly when every source was seen and the latest message is
fresh. -/
theorem Agrees.valid_expire_iff [Nonempty ι] {s : Shared ι} {h : History ι} (hs : Agrees s h)
    (timeout now : ℕ) :
    (s.expire timeout now).valid = true ↔
      s.seen = Finset.univ ∧ ∃ t, s.last = some t ∧ now - t < timeout := by
  unfold Shared.expire
  rcases hlast : s.last with _ | t
  · simp only [hs.valid_iff, reduceCtorEq, false_and, exists_false, and_false, iff_false]
    intro huniv
    obtain ⟨i⟩ := ‹Nonempty ι›
    exact hs.seen i (huniv ▸ Finset.mem_univ i) (hs.silent hlast i)
  · dsimp only
    split_ifs with hold
    · simp only [false_iff, not_and, not_exists, Option.some.injEq]
      rintro - u rfl
      exact Nat.not_lt.mpr hold.1
    · simp only [hs.valid_iff, Option.some.injEq, exists_eq_left']
      refine ⟨fun huniv => ⟨huniv, ?_⟩, And.left⟩
      by_contra hlt
      exact hold ⟨Nat.not_lt.mp hlt, hs.valid_iff.mpr huniv⟩

/-- **What a valid tracker is worth.**  After a check, validity implies that every source is fresh
exactly when the sources that were all seen go stale together: either all of them are fresh or none
is. -/
theorem Agrees.expire_fresh_iff [Nonempty ι] {s : Shared ι} {h : History ι} (hs : Agrees s h)
    (timeout now : ℕ) :
    ((s.expire timeout now).valid = true → ∀ i, h.Fresh timeout now i) ↔
      (s.seen = Finset.univ →
        (∀ i, h.Fresh timeout now i) ∨ ∀ i, ¬h.Fresh timeout now i) := by
  rw [hs.valid_expire_iff]
  constructor
  · intro himp huniv
    by_cases hfresh : ∃ t, s.last = some t ∧ now - t < timeout
    · exact .inl (himp ⟨huniv, hfresh⟩)
    · -- the latest message is stale, so all are
      right
      rintro i ⟨u, hu, hlt⟩
      rcases hlast : s.last with _ | t
      · rw [hs.silent hlast i] at hu
        cases hu
      · have hle := (hs.newest t hlast).2 i u hu
        exact hfresh ⟨t, hlast, by omega⟩
  · rintro himp ⟨huniv, t, hlast, hlt⟩
    rcases himp huniv with hall | hnone
    · exact hall
    · obtain ⟨i, hi⟩ := (hs.newest t hlast).1
      exact absurd ⟨t, hi, hlt⟩ (hnone i)

/-- Messages in the order of their times keep the agreement. -/
theorem Agrees.foldl [DecidableEq ι] {s : Shared ι} {h : History ι} (hs : Agrees s h)
    {l : List (ι × ℕ)} (hl : (l.map Prod.snd).Pairwise (· ≤ ·))
    (hlast : ∀ u, s.last = some u → ∀ e ∈ l, u ≤ e.2) :
    Agrees (l.foldl (fun s e => s.accept e.1 e.2) s) (l.foldl (fun h e => h.record e.1 e.2) h) := by
  induction l generalizing s h with
  | nil => exact hs
  | cons e l ih =>
    rw [List.map_cons, List.pairwise_cons] at hl
    refine ih (hs.accept e.1 fun u hu => hlast u hu e List.mem_cons_self) hl.2 ?_
    intro u hu e' he'
    obtain rfl : e.2 = u := Option.some.inj hu
    exact hl.1 e'.2 (List.mem_map_of_mem he')

/-- The sources seen after some messages. -/
theorem mem_seen_foldl [DecidableEq ι] (s : Shared ι) (l : List (ι × ℕ)) (i : ι) :
    i ∈ (l.foldl (fun s e => s.accept e.1 e.2) s).seen ↔ i ∈ s.seen ∨ i ∈ l.map Prod.fst := by
  induction l generalizing s with
  | nil => simp
  | cons e l ih =>
    rw [List.foldl_cons, ih, List.map_cons, List.mem_cons, Shared.accept, Finset.mem_insert]
    tauto

/-- The latest time after some messages is the time of one of them, or the one before. -/
theorem last_foldl [DecidableEq ι] {s : Shared ι} {l : List (ι × ℕ)} {t : ℕ}
    (h : (l.foldl (fun s e => s.accept e.1 e.2) s).last = some t) :
    s.last = some t ∨ t ∈ l.map Prod.snd := by
  induction l generalizing s with
  | nil => exact .inl h
  | cons e l ih =>
    rcases ih h with hlast | hmem
    · obtain rfl : e.2 = t := Option.some.inj hlast
      exact .inr List.mem_cons_self
    · exact .inr (List.mem_cons_of_mem _ hmem)

omit [Fintype ι] in
/-- A check keeps the latest time. -/
theorem last_expire (s : Shared ι) (timeout now : ℕ) : (s.expire timeout now).last = s.last := by
  unfold Shared.expire
  rcases hlast : s.last with _ | t
  · exact hlast
  · dsimp only
    split_ifs
    · rfl
    · exact hlast

end Freshness
