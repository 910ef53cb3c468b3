import Mathlib.Data.List.Forall2
import Mathlib.Data.List.Induction
import Mathlib.Tactic.Common

/-!
# Runs of a deterministic machine

A machine is a function `step : σ → α → σ`; a run is a list of actions.  `exec step s as` is the
state a run reaches and `Along step C s as` says that every step of the run satisfies `C` (a
relation between the state before the step and the action).

The rules are `exec_invariant` (what every step keeps, every run keeps), `exec_last_change` (a
part of the state that only some actions change was set by the last of them), `exec_iff_or_exists`
(what some actions establish and none takes away), `exec_crossing` (a run into a set of states has a
step that enters it), `exec_last_crossing` (and stays there after the last such step),
`exec_invariant_of_along` (the invariant rule for runs all of whose steps meet a condition),
`exec_simulation_of_along` (the same for a relation between two machines),
`exec_simulation_of_forall₂` (for two machines that take different actions),
`exec_simulation_range` (for a relation that depends on the number of steps taken),
`exec_growth_le` (what every step raises by at most so much) and `along_iff_of_invariant` (two step
conditions that agree under an invariant agree along every run).
-/

namespace Machine

variable {σ α β : Type*} {step : σ → α → σ}

/-! ### States reached -/

/-- The state that the run `as` from `s` reaches. -/
def exec (step : σ → α → σ) (s : σ) (as : List α) : σ :=
  as.foldl step s

@[simp] theorem exec_nil (s : σ) : exec step s [] = s := rfl

@[simp] theorem exec_cons (s : σ) (a : α) (as : List α) :
    exec step s (a :: as) = exec step (step s a) as := rfl

@[simp] theorem exec_append (s : σ) (as bs : List α) :
    exec step s (as ++ bs) = exec step (exec step s as) bs := by
  simp [exec, List.foldl_append]

theorem exec_concat (s : σ) (as : List α) (a : α) :
    exec step s (as ++ [a]) = step (exec step s as) a := exec_append s as [a]

/-- **Invariant rule**: what the first state has and every step of the run keeps, the last state
has. -/
theorem exec_invariant (Inv : σ → Prop) {as : List α}
    (hstep : ∀ s, ∀ a ∈ as, Inv s → Inv (step s a)) {s : σ} (h0 : Inv s) :
    Inv (exec step s as) := by
  induction as generalizing s with
  | nil => exact h0
  | cons a as ih =>
    exact ih (fun s b hb => hstep s b (List.mem_cons_of_mem _ hb)) (hstep s a List.mem_cons_self h0)

/-- A function of the state that no action of the run changes has its first value at the end. -/
theorem exec_frame (step : σ → α → σ) (f : σ → β) {as : List α}
    (hstep : ∀ s, ∀ a ∈ as, f (step s a) = f s) (s : σ) : f (exec step s as) = f s :=
  exec_invariant (fun t => f t = f s) (fun t a ha h => (hstep t a ha).trans h) rfl

/-- **Last-change rule**: if only the actions in `p` change `f`, the value of `f` at the end of a
run is its first value, no action of the run being in `p`, or the value after the last action of
the run in `p`. -/
theorem exec_last_change (step : σ → α → σ) (f : σ → β) (p : α → Prop)
    (hframe : ∀ s a, ¬p a → f (step s a) = f s) (s : σ) (as : List α) :
    ((∀ a ∈ as, ¬p a) ∧ f (exec step s as) = f s) ∨
      ∃ pre a mid, as = pre ++ a :: mid ∧ p a ∧ (∀ b ∈ mid, ¬p b) ∧
        f (exec step s as) = f (exec step s (pre ++ [a])) := by
  induction as using List.reverseRecOn with
  | nil => exact .inl ⟨by simp, rfl⟩
  | append_singleton as b ih =>
    by_cases hb : p b
    · exact .inr ⟨as, b, [], rfl, hb, by simp, rfl⟩
    · -- the last action is not in `p`, so the earlier ones decide
      have hlast : f (exec step s (as ++ [b])) = f (exec step s as) := by
        rw [exec_append]
        exact hframe _ _ hb
      rcases ih with ⟨hnone, hf⟩ | ⟨pre, a, mid, rfl, ha, hmid, hf⟩
      · refine .inl ⟨?_, hlast.trans hf⟩
        intro a ha
        rcases List.mem_append.mp ha with ha | ha
        · exact hnone a ha
        · rwa [List.mem_singleton.mp ha]
      · refine .inr ⟨pre, a, mid ++ [b], by simp, ha, ?_, hlast.trans hf⟩
        intro c hc
        rcases List.mem_append.mp hc with hc | hc
        · exact hmid c hc
        · rwa [List.mem_singleton.mp hc]

/-- **Accumulation rule**: if a step establishes `P` exactly when its action is in `q` and never
takes `P` away, a run ends with `P` exactly when it starts with it or has an action in `q`. -/
theorem exec_iff_or_exists (P : σ → Prop) (q : α → Prop)
    (hstep : ∀ s a, P (step s a) ↔ P s ∨ q a) (s : σ) (as : List α) :
    P (exec step s as) ↔ P s ∨ ∃ a ∈ as, q a := by
  induction as generalizing s with
  | nil => simp
  | cons a as ih => simp only [exec_cons, ih, hstep, List.mem_cons, exists_eq_or_imp, or_assoc]

/-- **Crossing rule**: a run from a state without `P` to a state with `P` has a step that enters
`P`. -/
theorem exec_crossing (P : σ → Prop) {s : σ} {as : List α} (h0 : ¬P s) (h : P (exec step s as)) :
    ∃ pre a post, as = pre ++ a :: post ∧
      ¬P (exec step s pre) ∧ P (step (exec step s pre) a) := by
  induction as generalizing s with
  | nil => exact absurd h h0
  | cons a as ih =>
    by_cases hP : P (step s a)
    · exact ⟨[], a, as, rfl, h0, hP⟩
    · obtain ⟨pre, b, post, rfl, hpre, hpost⟩ := ih hP h
      exact ⟨a :: pre, b, post, rfl, hpre, hpost⟩

/-! ### Runs whose steps meet a condition -/

/-- Every step of the run `as` from `s` satisfies `C`. -/
def Along (step : σ → α → σ) (C : σ → α → Prop) : σ → List α → Prop
  | _, [] => True
  | s, a :: as => C s a ∧ Along step C (step s a) as

variable {C P : σ → α → Prop}

instance decidableAlong [∀ s a, Decidable (C s a)] :
    ∀ (s : σ) (as : List α), Decidable (Along step C s as)
  | _, [] => isTrue trivial
  | s, a :: as =>
    haveI := decidableAlong (step s a) as
    inferInstanceAs (Decidable (C s a ∧ Along step C (step s a) as))

theorem along_append (s : σ) (as bs : List α) :
    Along step C s (as ++ bs) ↔ Along step C s as ∧ Along step C (exec step s as) bs := by
  induction as generalizing s with
  | nil => simp [Along]
  | cons a as ih => simp only [List.cons_append, Along, ih, exec_cons, and_assoc]

theorem along_and (s : σ) (as : List α) :
    Along step (fun t a => C t a ∧ P t a) s as ↔ Along step C s as ∧ Along step P s as := by
  induction as generalizing s with
  | nil => simp [Along]
  | cons a as ih =>
    simp only [Along, ih]
    exact and_and_and_comm

/-- `Along` in terms of the steps of the run: each action with the state it is taken in. -/
theorem along_iff_forall (s : σ) (as : List α) :
    Along step C s as ↔
      ∀ pre a post, as = pre ++ a :: post → C (exec step s pre) a := by
  constructor
  · rintro h pre a post rfl
    exact ((along_append _ _ _).mp h).2.1
  · intro h
    induction as generalizing s with
    | nil => trivial
    | cons a as ih =>
      refine ⟨h [] a as rfl, ih (step s a) ?_⟩
      rintro pre b post rfl
      exact h (a :: pre) b post rfl

/-- **Last-crossing rule**: a run that ends in `Q` has been there from its start on, or from the
last step on that entered `Q`. -/
theorem exec_last_crossing (Q : σ → Prop) {s : σ} {as : List α} (h : Q (exec step s as)) :
    (Q s ∧ Along step (fun t a => Q t ∧ Q (step t a)) s as) ∨
      ∃ pre a post, as = pre ++ a :: post ∧ ¬Q (exec step s pre) ∧ Q (step (exec step s pre) a) ∧
        Along step (fun t b => Q t ∧ Q (step t b)) (step (exec step s pre) a) post := by
  induction as using List.reverseRecOn with
  | nil => exact .inl ⟨h, trivial⟩
  | append_singleton as b ih =>
    rw [exec_concat] at h
    by_cases hbefore : Q (exec step s as)
    · have hlast : Along step (fun t b => Q t ∧ Q (step t b)) (exec step s as) [b] :=
        ⟨⟨hbefore, h⟩, trivial⟩
      rcases ih hbefore with ⟨hs, hrest⟩ | ⟨pre, a, post, rfl, hout, hin, hrest⟩
      · exact .inl ⟨hs, (along_append s as [b]).mpr ⟨hrest, hlast⟩⟩
      · rw [exec_append] at hlast
        exact .inr ⟨pre, a, post ++ [b], by simp, hout, hin,
          (along_append _ post [b]).mpr ⟨hrest, hlast⟩⟩
    · exact .inr ⟨as, b, [], rfl, hbefore, h, trivial⟩

/-- A property of every state reached is a property of the first state and of the state after
every step. -/
theorem forall_prefix_iff_along (Q : σ → Prop) (s : σ) (as : List α) :
    (∀ pre, pre <+: as → Q (exec step s pre)) ↔
      Q s ∧ Along step (fun t a => Q (step t a)) s as := by
  rw [along_iff_forall]
  constructor
  · intro h
    refine ⟨h [] as.nil_prefix, ?_⟩
    rintro pre a post rfl
    have hpre := h (pre ++ [a]) ⟨post, by simp⟩
    rwa [exec_append] at hpre
  · rintro ⟨h0, h⟩ pre ⟨post, rfl⟩
    rcases pre.eq_nil_or_concat with rfl | ⟨init, a, rfl⟩
    · exact h0
    · rw [List.concat_eq_append, exec_append]
      exact h init a post (by simp)

/-- **Conditional invariant rule**: an invariant that is kept by the steps that meet `C` holds
at the end of every run whose steps all meet `C`. -/
theorem exec_invariant_of_along (Inv : σ → Prop)
    (hstep : ∀ s a, Inv s → C s a → Inv (step s a)) {s : σ} (h0 : Inv s) {as : List α}
    (h : Along step C s as) : Inv (exec step s as) := by
  induction as generalizing s with
  | nil => exact h0
  | cons a as ih => exact ih (hstep s a h0 h.1) h.2

/-- **Simulation rule**: a relation between two machines that the steps meeting `C` keep holds
between the states that a run whose steps all meet `C` reaches. -/
theorem exec_simulation_of_along {τ : Type*} {step' : τ → α → τ} (R : σ → τ → Prop) {as : List α}
    (hstep : ∀ s t, ∀ a ∈ as, R s t → C s a → R (step s a) (step' t a)) {s : σ} {t : τ}
    (h0 : R s t) (h : Along step C s as) : R (exec step s as) (exec step' t as) := by
  induction as generalizing s t with
  | nil => exact h0
  | cons a as ih =>
    refine ih (fun u v b hb => hstep u v b (List.mem_cons_of_mem _ hb)) ?_ h.2
    exact hstep s t a List.mem_cons_self h0 h.1

/-- **Two-run rule**: a relation between two machines that related actions keep holds between the
states that related runs reach. -/
theorem exec_simulation_of_forall₂ {τ : Type*} {step' : τ → β → τ} (R : σ → τ → Prop)
    (T : α → β → Prop) (hstep : ∀ s t a b, R s t → T a b → R (step s a) (step' t b)) {s : σ} {t : τ}
    (h0 : R s t) {as : List α} {bs : List β} (h : List.Forall₂ T as bs) :
    R (exec step s as) (exec step' t bs) := by
  induction h generalizing s t with
  | nil => exact h0
  | cons hab _ ih => exact ih (hstep _ _ _ _ h0 hab)

/-- **Simulation rule for counted runs**, on which the relation may depend on the number of the
step. -/
theorem exec_simulation_range {τ : Type*} {step' : τ → α → τ} (R : ℕ → σ → τ → Prop) (f : ℕ → α)
    {n : ℕ} (hstep : ∀ k < n, ∀ s t, R k s t → R (k + 1) (step s (f k)) (step' t (f k))) {s : σ}
    {t : τ} (h0 : R 0 s t) :
    R n (exec step s ((List.range n).map f)) (exec step' t ((List.range n).map f)) := by
  induction n with
  | zero => exact h0
  | succ n ih =>
    have hn := ih fun k hk => hstep k (Nat.lt_succ_of_lt hk)
    rw [List.range_succ, List.map_append, List.map_singleton, exec_concat, exec_concat]
    exact hstep n (Nat.lt_succ_self n) _ _ hn

/-- What every step raises by at most `c`, a run raises by at most `c` for each of its steps. -/
theorem exec_growth_le (f : σ → ℕ) {c : ℕ} (hstep : ∀ s a, f (step s a) ≤ f s + c) (s : σ)
    (as : List α) : f (exec step s as) ≤ f s + c * as.length := by
  induction as generalizing s with
  | nil => exact Nat.le_refl _
  | cons a as ih =>
    have hone := hstep s a
    have hrest := ih (step s a)
    rw [exec_cons, List.length_cons, Nat.mul_add_one]
    omega

/-- If `C` and `P` agree on every step taken from a state with the invariant, and the steps that
meet `C` keep the invariant, the runs that meet `C` throughout are those that meet `P`
throughout. -/
theorem along_iff_of_invariant (Inv : σ → Prop) (hiff : ∀ s a, Inv s → (C s a ↔ P s a))
    (hstep : ∀ s a, Inv s → C s a → Inv (step s a)) {s : σ} (h0 : Inv s) (as : List α) :
    Along step C s as ↔ Along step P s as := by
  induction as generalizing s with
  | nil => exact Iff.rfl
  | cons a as ih =>
    constructor
    · rintro ⟨hC, hrest⟩
      exact ⟨(hiff s a h0).mp hC, (ih (hstep s a h0 hC)).mp hrest⟩
    · rintro ⟨hP, hrest⟩
      have hC := (hiff s a h0).mpr hP
      exact ⟨hC, (ih (hstep s a h0 hC)).mpr hrest⟩

end Machine
