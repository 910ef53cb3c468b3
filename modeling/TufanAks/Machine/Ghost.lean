import TufanAks.Machine.Run

/-!
# Ghost state

`withGhost step upd` runs the machine `step` next to a ghost value that `upd` computes from each
step and that the machine never reads.  Ghost values name what a run has done, such as the records
of its steps (`recording`), so that an invariant can speak of the past.  `Since` speaks of a single
moment of it.
-/

namespace Machine

variable {σ α β γ : Type*} {step : σ → α → σ} {upd : γ → σ → α → γ}

/-- The machine with a ghost value; `upd g s a` is the ghost value after the action `a` in `s`. -/
def withGhost (step : σ → α → σ) (upd : γ → σ → α → γ) (p : σ × γ) (a : α) : σ × γ :=
  (step p.1 a, upd p.2 p.1 a)

/-- The ghost value at the end of the run `as` from `s`, starting with `g`. -/
def ghost (step : σ → α → σ) (upd : γ → σ → α → γ) (g : γ) (s : σ) (as : List α) : γ :=
  (exec (withGhost step upd) (s, g) as).2

/-- The ghost value does not influence the machine. -/
theorem exec_withGhost (g : γ) (s : σ) (as : List α) :
    exec (withGhost step upd) (s, g) as = (exec step s as, ghost step upd g s as) := by
  refine Prod.ext ?_ rfl
  induction as generalizing s g with
  | nil => rfl
  | cons a as ih => exact ih (upd g s a) (step s a)

theorem ghost_concat (g : γ) (s : σ) (as : List α) (a : α) :
    ghost step upd g s (as ++ [a]) = upd (ghost step upd g s as) (exec step s as) a := by
  rw [ghost, exec_concat, exec_withGhost]
  rfl

/-- A condition on the machine alone holds along a run with or without the ghost value. -/
theorem along_withGhost {C : σ → α → Prop} (g : γ) (s : σ) (as : List α) :
    Along (withGhost step upd) (fun p a => C p.1 a) (s, g) as ↔ Along step C s as := by
  induction as generalizing s g with
  | nil => exact Iff.rfl
  | cons a as ih => exact and_congr_right fun _ => ih (upd g s a) (step s a)

/-! ### Recording -/

variable {obs : σ → α → Option β}

/-- The ghost update that appends what a step shows, if anything, to what the earlier steps have
shown. -/
def recording (obs : σ → α → Option β) (bs : List β) (s : σ) (a : α) : List β :=
  bs ++ (obs s a).toList

/-- What the steps of the run `as` from `s` show, in order, the step `a` from `t` showing
`obs t a`. -/
def observe (step : σ → α → σ) (obs : σ → α → Option β) (s : σ) (as : List α) : List β :=
  ghost step (recording obs) [] s as

theorem observe_concat (s : σ) (as : List α) (a : α) :
    observe step obs s (as ++ [a]) = observe step obs s as ++ (obs (exec step s as) a).toList :=
  ghost_concat _ _ _ _

theorem observe_cons (s : σ) (a : α) (as : List α) :
    observe step obs s (a :: as) = (obs s a).toList ++ observe step obs (step s a) as := by
  induction as using List.reverseRecOn with
  | nil => exact (observe_concat s [] a).trans (List.append_nil _).symm
  | append_singleton as b ih =>
    rw [← List.cons_append, observe_concat, ih, observe_concat, List.append_assoc, exec_cons]

theorem observe_append (s : σ) (as bs : List α) :
    observe step obs s (as ++ bs) =
      observe step obs s as ++ observe step obs (exec step s as) bs := by
  induction as generalizing s with
  | nil => rfl
  | cons a as ih =>
    rw [List.cons_append, observe_cons, observe_cons, ih, List.append_assoc, exec_cons]

/-- **Simulation rule for records**: two machines that a relation ties to each other, and that show
the same in related states, show the same along every run. -/
theorem observe_eq_of_simulation {τ : Type*} {step' : τ → α → τ} {obs' : τ → α → Option β}
    (R : σ → τ → Prop) (hstep : ∀ s t a, R s t → R (step s a) (step' t a))
    (hobs : ∀ s t a, R s t → obs s a = obs' t a) {s : σ} {t : τ} (h0 : R s t) (as : List α) :
    R (exec step s as) (exec step' t as) ∧
      observe step obs s as = observe step' obs' t as := by
  induction as using List.reverseRecOn with
  | nil => exact ⟨h0, rfl⟩
  | append_singleton as a ih =>
    obtain ⟨hR, heq⟩ := ih
    rw [exec_concat, exec_concat, observe_concat, observe_concat]
    exact ⟨hstep _ _ a hR, by rw [heq, hobs _ _ a hR]⟩

/-- The record of a longer run splits in the record of the run, or at the last step. -/
theorem forall_split_concat_iff {bs : List β} {o : Option β} (Q : List β → β → Prop) :
    (∀ before b rest, bs ++ o.toList = before ++ b :: rest → Q before b) ↔
      (∀ before b rest, bs = before ++ b :: rest → Q before b) ∧ ∀ b ∈ o, Q bs b := by
  cases o with
  | none => simp
  | some x =>
    simp only [Option.toList_some, Option.mem_def, Option.some.injEq, forall_eq']
    constructor
    · intro h
      refine ⟨?_, h bs x [] rfl⟩
      rintro before b rest rfl
      exact h before b (rest ++ [x]) (by simp)
    · rintro ⟨hbs, hx⟩ before b rest heq
      rcases rest.eq_nil_or_concat with rfl | ⟨rest, y, rfl⟩
      · obtain ⟨rfl, hb⟩ := List.append_inj' heq rfl
        rw [List.singleton_inj] at hb
        rwa [← hb]
      · rw [List.concat_eq_append, ← List.cons_append, ← List.append_assoc] at heq
        exact hbs before b rest (List.append_inj' heq rfl).1

/-- **Recording rule**: a property of every record and those before it is a condition on the steps
of the recording machine. -/
theorem forall_observe_iff_along (Q : List β → β → Prop) (s : σ) (as : List α) :
    (∀ before b rest, observe step obs s as = before ++ b :: rest → Q before b) ↔
      Along (withGhost step (recording obs)) (fun p a => ∀ b ∈ obs p.1 a, Q p.2 b) (s, []) as := by
  induction as using List.reverseRecOn with
  | nil => simp [observe, ghost, Along]
  | append_singleton as a ih =>
    rw [observe_concat, forall_split_concat_iff, ih, along_append, exec_withGhost]
    simp only [Along, and_true]
    rfl

/-! ### Moments -/

/-- `Q` has held at a moment of the run `as` from `s`, and every step since then meets `C`. -/
def Since (step : σ → α → σ) (C : σ → α → Prop) (s : σ) (Q : List α → Prop) (as : List α) : Prop :=
  ∃ before during, as = before ++ during ∧ Along step C (exec step s before) during ∧ Q before

section since

variable {C : σ → α → Prop} {s : σ} {Q Q' : List α → Prop} {as : List α}

theorem Since.now (h : Q as) : Since step C s Q as :=
  ⟨as, [], (List.append_nil as).symm, trivial, h⟩

theorem Since.concat (h : Since step C s Q as) {a : α} (ha : C (exec step s as) a) :
    Since step C s Q (as ++ [a]) := by
  obtain ⟨before, during, rfl, hduring, hQ⟩ := h
  refine ⟨before, during ++ [a], List.append_assoc _ _ _, ?_, hQ⟩
  rw [exec_append] at ha
  exact (along_append _ _ _).mpr ⟨hduring, ha, trivial⟩

theorem Since.mono (h : Since step C s Q as) (hQ : ∀ bs, Q bs → Q' bs) : Since step C s Q' as := by
  obtain ⟨before, during, has, hduring, hbefore⟩ := h
  exact ⟨before, during, has, hduring, hQ before hbefore⟩

end since

end Machine
